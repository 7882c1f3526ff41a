import Inari.Agent.PrintJobs
import Inari.Lib.Journal

/-!
# The Print Job journal

What the rows and events of Print Jobs are for, stated apart from the code: a versioned record per
job that starts accepted and advances by one of six writes.
-/

namespace Inari.Agent

open Lib

def PrintJobRow.view (r : PrintJobRow) : JobSnapshot where
  acceptedAt := r.acceptedAt
  contractVersion := r.contractVersion
  deviceId := r.deviceId
  intentId := r.intentId
  jobId := r.id
  state := r.state
  stateVersion := r.stateVersion
  startedAt := r.startedAt
  terminalAt := r.terminalAt
  errorCode := r.errorCode
  messageKey := r.messageKey
  confirmationEvidence := r.confirmationEvidence

def PrintJobRow.entry (r : PrintJobRow) : Entry String JobSnapshot := ⟨r.id, r.stateVersion, r.view⟩

def PrintJobEventRow.entry (e : PrintJobEventRow) : Entry String JobSnapshot :=
  ⟨e.jobId, e.stateVersion, e.snapshot⟩

def Db.journal (db : Db) : Journal String JobSnapshot :=
  ⟨db.jobs.rows.map PrintJobRow.entry, db.events.rows.map PrintJobEventRow.entry⟩

def PrintJobRow.identity (r : PrintJobRow) : PrintJobRow :=
  { r with
    state := .accepted
    stateVersion := 1
    startedAt := none
    terminalAt := none
    retryable := false
    errorCode := none
    messageKey := none
    confirmationEvidence := none }

structure JobStart (s : JobSnapshot) : Prop where
  state : s.state = .accepted
  stateVersion : s.stateVersion = 1
  startedAt : s.startedAt = none
  terminalAt : s.terminalAt = none
  errorCode : s.errorCode = none
  messageKey : s.messageKey = none
  confirmationEvidence : s.confirmationEvidence = none

/-- The writes that advance a job. `codes` restricts what a failure may carry. -/
inductive JobWrite (codes : String → String → Prop) (s : JobSnapshot) : JobSnapshot → Prop
  | start (now : Time) (h : s.state = .accepted) :
      JobWrite codes s { s with
        state := .inProgress, stateVersion := s.stateVersion + 1, startedAt := some now }
  | expire (now : Time) (h : s.state = .accepted) :
      JobWrite codes s { s with
        state := .expired, stateVersion := s.stateVersion + 1, terminalAt := some now }
  | reject (now : Time) (code key : String) (h : s.state = .accepted) (hc : codes code key) :
      JobWrite codes s { s with
        state := .failed, stateVersion := s.stateVersion + 1, terminalAt := some now,
        errorCode := some code, messageKey := some key }
  | confirm (now : Time) (evidence : OutputEvidence) (h : s.state = .inProgress) :
      JobWrite codes s { s with
        state := .outputConfirmed, stateVersion := s.stateVersion + 1, terminalAt := some now,
        confirmationEvidence := some evidence }
  | fail (now : Time) (code key : String) (h : s.state = .inProgress) (hc : codes code key) :
      JobWrite codes s { s with
        state := .failed, stateVersion := s.stateVersion + 1, terminalAt := some now,
        errorCode := some code, messageKey := some key }
  | unknown (now : Time) (code key : String) (h : s.state = .inProgress) (hc : codes code key) :
      JobWrite codes s { s with
        state := .outcomeUnknown, stateVersion := s.stateVersion + 1, terminalAt := some now,
        errorCode := some code, messageKey := some key }

abbrev JobSteps (codes : String → String → Prop) (db db' : Db) : Prop :=
  Journal.Steps JobStart (JobWrite codes) db.journal db'.journal

abbrev Db.JournalConsistent (codes : String → String → Prop) (db : Db) : Prop :=
  db.journal.Consistent JobStart (JobWrite codes)

/-- A job that has not ended shows no trace of a later state. -/
def JobClean (s : JobSnapshot) : Prop :=
  match s.state with
  | .accepted => s.startedAt = none ∧ s.terminalAt = none ∧ s.errorCode = none ∧
      s.messageKey = none ∧ s.confirmationEvidence = none
  | .inProgress => s.startedAt.isSome ∧ s.terminalAt = none ∧ s.errorCode = none ∧
      s.messageKey = none ∧ s.confirmationEvidence = none
  | _ => True

variable {s s' : JobSnapshot} {codes : String → String → Prop}

lemma jobClean_start (h : JobStart s) : JobClean s := by
  simp only [JobClean, h.state]
  exact ⟨h.startedAt, h.terminalAt, h.errorCode, h.messageKey, h.confirmationEvidence⟩

lemma jobClean_write (hs : JobClean s) (h : JobWrite codes s s') : JobClean s' := by
  cases h with
  | start now h =>
    simp only [JobClean, h] at hs ⊢
    exact ⟨rfl, hs.2.1, hs.2.2.1, hs.2.2.2.1, hs.2.2.2.2⟩
  | expire | reject | confirm | fail | unknown => trivial

/-- The terminal states of the ledger: no write leaves them. -/
lemma jobWrite_live (h : JobWrite codes s s') : s.state = .accepted ∨ s.state = .inProgress := by
  cases h with
  | start _ h | expire _ h | reject _ _ _ h => exact .inl h
  | confirm _ _ h | fail _ _ _ h | unknown _ _ _ h => exact .inr h

lemma jobWrite_not_accepted (h : JobWrite codes s s') : s'.state ≠ .accepted := by
  cases h <;> simp

lemma clean_of_mem {db : Db} (hj : db.JournalConsistent codes) {r : PrintJobRow}
    (hr : r ∈ db.jobs.rows) : JobClean r.view := by
  have hh : r.entry ∈ db.journal.heads := List.mem_map_of_mem hr
  have hlast := List.mem_of_getLast? (hj.last _ hh)
  exact hj.forall_history (P := JobClean) (fun _ h => jobClean_start h)
    (fun _ _ h hw => jobClean_write h hw) hh hlast

lemma job_eq_of_id (db : Db) {a b : PrintJobRow} (ha : a ∈ db.jobs.rows) (hb : b ∈ db.jobs.rows)
    (h : a.id = b.id) : a = b :=
  db.jobs.eq_of_key (u := PrintJobRow.primaryKey) (by simp [PrintJobRow.spec]) ha hb
    (k := b.id) (by simp [PrintJobRow.primaryKey, h]) rfl

lemma journal_advance {db db' : Db} {p : PrintJobRow → Bool} {f : PrintJobRow → PrintJobRow}
    {job : PrintJobRow} {e : PrintJobEventRow} (hjob : job ∈ db.jobs.rows) (hp : p job = true)
    (honly : ∀ r ∈ db.jobs.rows, p r = true → r.id = job.id)
    (hjobs : db'.jobs.rows = Table.updated db.jobs.rows p f)
    (hevents : db'.events.rows = db.events.rows ++ [e])
    (hentry : e.entry = ⟨job.id, job.stateVersion + 1, (f job).view⟩)
    (hrow : (f job).entry = e.entry) (hw : JobWrite codes job.view (f job).view) :
    Journal.Step JobStart (JobWrite codes) db.journal db'.journal := by
  have heq : db'.journal = db.journal.advance job.entry (f job).view := by
    simp only [Db.journal, Journal.advance, hjobs, hevents, List.map_append, List.map_cons,
      List.map_nil, hentry, Table.updated, List.map_map, PrintJobRow.entry]
    congr 1
    apply List.map_congr_left
    intro r hr
    by_cases hpr : p r = true
    · have hrj : r = job := job_eq_of_id db hr hjob (honly r hr hpr)
      subst hrj
      simpa [hpr, PrintJobRow.entry] using hrow.trans hentry
    · have hne : r.id ≠ job.id := fun h => hpr (job_eq_of_id db hr hjob h ▸ hp)
      simp [hpr, hne, PrintJobRow.entry]
  rw [heq]
  exact .advance _ _ _ (List.mem_map_of_mem hjob) hw

end Inari.Agent
