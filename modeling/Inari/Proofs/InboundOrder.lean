import Inari.Lib.Run
import Inari.Proofs.CommandHandlers

/-!
# Controller commands are applied in order

A record is made only for the sequence after the last finished one, so the finished sequences have
no gap.
-/

namespace Inari.Agent

open Lib GatewayRepository

inductive RepositoryCall
  /-- `record_inbound_command` -/
  | record (command : InboundCommand ControllerCommandMessage)
  /-- `mark_inbound_accepted` and `mark_inbound_rejected` -/
  | mark (commandId : String) (answer : CommandAnswer)
  /-- `mark_managed_dispatch_accepted` and `mark_managed_dispatch_rejected` -/
  | finish (commandId : String) (dispatchEpoch : Nat) (answer : CommandAnswer)
  /-- The process stops and starts again. -/
  | crash

def RepositoryCall.step (db : CommandDb) (call : RepositoryCall) : CommandDb × Unit :=
  let result : Except GatewayError CommandDb :=
    match call with
    | .record command => (recordInboundCommand db command).map (·.1)
    | .mark commandId answer => markInbound db commandId answer
    | .finish commandId dispatchEpoch answer =>
      finishManagedDispatch db commandId dispatchEpoch answer
    | .crash => .ok db
  match result with
  | .ok db' => (db', ())
  | .error _ => (db, ())

abbrev CommandRow := InboundRow ControllerCommandMessage

variable {db db' : CommandDb} {k : Nat}

/-- The finished sequences are `1..k`, and only the next one may be open. -/
structure Ordered (db : CommandDb) (k : Nat) : Prop where
  finished : ∀ n, (∃ r ∈ db.inbound.rows, r.state.applied = true ∧ r.sequence = some n) ↔
    1 ≤ n ∧ n ≤ k
  unfinished : ∀ r ∈ db.inbound.rows, r.state.applied = false → ∀ n, r.sequence = some n →
    n = k + 1

lemma Ordered.lastAppliedSequence_eq (h : Ordered db k) : lastAppliedSequence db = k := by
  apply foldr_max_eq
  intro n
  rw [← h.finished n, List.mem_filterMap]
  constructor
  · rintro ⟨r, hr, hn⟩
    obtain ⟨hmem, happlied⟩ := List.mem_filter.mp hr
    exact ⟨r, hmem, happlied, hn⟩
  · rintro ⟨r, hmem, happlied, hn⟩
    exact ⟨r, List.mem_filter.mpr ⟨hmem, happlied⟩, hn⟩

variable {r : CommandRow} {commandId : String}

lemma record_unique {r' : CommandRow} (hr : r ∈ db.inbound.rows) (hr' : r' ∈ db.inbound.rows)
    (h : r.commandId = r'.commandId) : r = r' :=
  db.inbound.eq_of_key (u := inboundIdKey) (by simp [inboundSpec]) hr hr'
    (congrArg some h) rfl

lemma sequence_unique {r' : CommandRow} {n : Nat} (hr : r ∈ db.inbound.rows)
    (hr' : r' ∈ db.inbound.rows) (h : r.sequence = some n) (h' : r'.sequence = some n) : r = r' :=
  db.inbound.eq_of_key (u := inboundSequenceKey) (by simp [inboundSpec]) hr hr' h h'

structure RecordsNext (db db' : CommandDb) (command : InboundCommand ControllerCommandMessage) :
    Prop where
  rows : db'.inbound.rows = db.inbound.rows ++ [command.row]
  position : db'.dispatchPosition = db.dispatchPosition
  next : ∀ n, command.sequence = some n → n = lastAppliedSequence db + 1
  epoch : ∀ e, command.dispatchEpoch = some e →
    ∀ p, db.dispatchPosition = some p → p.dispatchEpoch ≤ e

lemma recorded_of_record {command : InboundCommand ControllerCommandMessage} {row : CommandRow}
    {created : Bool} (h : recordInboundCommand db command = .ok (db', row, created)) :
    db' = db ∨ RecordsNext db db' command := by
  unfold recordInboundCommand at h
  split at h
  · simp only [bind_ok, pure_ok] at h
    obtain ⟨_, -, hdb⟩ := h
    exact .inl (congrArg Prod.fst hdb).symm
  · simp only [bind_ok, pure_ok] at h
    obtain ⟨_, hnext, _, hepoch, inbound, hinsert, hdb⟩ := h
    obtain rfl := congrArg Prod.fst hdb
    refine .inr ⟨Table.insert_rows hinsert, rfl, fun n hn => ?_, fun e he p hp => ?_⟩
    · rw [hn] at hnext
      simpa [requireNextSequence, require_ok] using hnext
    · rw [he] at hepoch
      simpa [requireCurrentEpoch, require_ok, hp] using hepoch

structure Answered (f : CommandRow → CommandRow) : Prop where
  commandId : ∀ r, (f r).commandId = r.commandId
  sequence : ∀ r, (f r).sequence = r.sequence
  dispatchEpoch : ∀ r, (f r).dispatchEpoch = r.dispatchEpoch
  applied : ∀ r, (f r).state.applied = true

lemma answered_finish (answer : CommandAnswer) : Answered (·.finish answer) := by
  cases answer <;> exact ⟨fun _ => rfl, fun _ => rfl, fun _ => rfl, fun _ => rfl⟩

def FinishedRows (db db' : CommandDb) (commandId : String) : Prop :=
  ∃ f, Answered f ∧
    db'.inbound.rows = Table.updated db.inbound.rows (fun r => r.commandId == commandId) f

lemma finishedRows_of_mark {answer : CommandAnswer} (h : markInbound db commandId answer = .ok db') :
    FinishedRows db db' commandId ∧ db'.dispatchPosition = db.dispatchPosition := by
  simp only [markInbound, bind_ok, pure_ok] at h
  obtain ⟨inbound, hupdate, rfl⟩ := h
  exact ⟨⟨_, answered_finish answer, Table.update_rows hupdate⟩, rfl⟩

/-- A managed dispatch that is finished: it was open, and the position moves to it. -/
structure Dispatched (db db' : CommandDb) (commandId : String) (dispatchEpoch : Nat) (r : CommandRow)
    (n : Nat) : Prop where
  rows : FinishedRows db db' commandId
  record : r ∈ db.inbound.rows ∧ r.commandId = commandId
  unfinished : r.state.applied = false
  sequence : r.sequence = some n
  managed : r.dispatchEpoch = some dispatchEpoch
  position : db'.dispatchPosition = some ⟨dispatchEpoch, n⟩
  advances : ∀ p, db.dispatchPosition = some p →
    p.dispatchEpoch ≤ dispatchEpoch ∧ p.lastSequence < n

lemma dispatched_of_finish {dispatchEpoch : Nat} {answer : CommandAnswer}
    (h : finishManagedDispatch db commandId dispatchEpoch answer = .ok db') :
    db' = db ∨ ∃ r n, Dispatched db db' commandId dispatchEpoch r n := by
  simp only [finishManagedDispatch, bind_ok, require_ok, beq_iff_eq] at h
  obtain ⟨r, hone, _, hepoch, h⟩ := h
  obtain ⟨hmem, hid⟩ := Table.one_spec hone
  by_cases happlied : r.state.applied = true
  · rw [if_pos happlied] at h
    exact .inl (pure_ok.mp h).symm
  · rw [if_neg happlied] at h
    simp only [bind_ok, pure_ok, orRaise_ok, advancePosition, require_ok, decide_eq_true_eq] at h
    obtain ⟨n, hn, position, ⟨_, hadvances, _, -, rfl⟩, rows, hupdate, rfl⟩ := h
    refine .inr ⟨r, n, ⟨_, ?_, Table.update_rows hupdate⟩, ⟨hmem, beq_iff_eq.mp hid⟩,
      Bool.eq_false_iff.mpr happlied, hn, hepoch, rfl, fun p hp => ?_⟩
    · cases answer <;> exact ⟨fun _ => rfl, fun _ => rfl, fun _ => rfl, fun _ => rfl⟩
    · simpa [hp] using hadvances

lemma FinishedRows.mem (h : FinishedRows db db' commandId) (hr : r ∈ db'.inbound.rows) :
    ∃ a ∈ db.inbound.rows, r.sequence = a.sequence ∧
      r.dispatchEpoch = a.dispatchEpoch ∧
      (a.commandId ≠ commandId ∧ r = a ∨ a.commandId = commandId ∧ r.state.applied = true) := by
  obtain ⟨f, hf, hrows⟩ := h
  rcases Table.updated_cases hrows hr with ⟨hr, hid⟩ | ⟨a, ha, hid, rfl⟩
  · exact ⟨r, hr, rfl, rfl, .inl ⟨beq_eq_false_iff_ne.mp hid, rfl⟩⟩
  · exact ⟨a, ha, hf.sequence a, hf.dispatchEpoch a, .inr ⟨beq_iff_eq.mp hid, hf.applied a⟩⟩

lemma FinishedRows.exists_finished (h : FinishedRows db db' commandId) {a : CommandRow}
    (ha : a ∈ db.inbound.rows) (happlied : a.state.applied = true ∨ a.commandId = commandId) :
    ∃ r ∈ db'.inbound.rows, r.state.applied = true ∧ r.sequence = a.sequence ∧
      r.dispatchEpoch = a.dispatchEpoch := by
  obtain ⟨f, hf, hrows⟩ := h
  by_cases hid : a.commandId = commandId
  · exact ⟨f a, Table.mem_written hrows ha (by simp [hid]), hf.applied a, hf.sequence a,
      hf.dispatchEpoch a⟩
  · exact ⟨a, Table.mem_left hrows ha (by simp [hid]), happlied.resolve_right hid, rfl, rfl⟩

lemma Ordered.finishedRows (h : Ordered db k) (hfinish : FinishedRows db db' commandId) :
    ∃ k', Ordered db' k' := by
  by_cases hopen : ∃ a ∈ db.inbound.rows, a.commandId = commandId ∧ a.state.applied = false ∧
      a.sequence = some (k + 1)
  · -- the open sequence is finished now
    obtain ⟨a, ha, hid, -, hnext⟩ := hopen
    refine ⟨k + 1, fun n => ⟨?_, ?_⟩, ?_⟩
    · rintro ⟨r, hr, happlied, hn⟩
      obtain ⟨b, hb, hseq, -, hcase⟩ := hfinish.mem hr
      rcases hcase with ⟨-, rfl⟩ | ⟨hbid, -⟩
      · have hle := (h.finished n).mp ⟨r, hb, happlied, hn⟩
        omega
      · obtain rfl := record_unique ha hb (hid.trans hbid.symm)
        have hsame : k + 1 = n := Option.some.inj (hnext.symm.trans (hseq.symm.trans hn))
        omega
    · intro hn
      by_cases hlast : n = k + 1
      · obtain ⟨r, hr, happlied, hseq, -⟩ := hfinish.exists_finished ha (.inr hid)
        exact ⟨r, hr, happlied, by rw [hseq, hnext, hlast]⟩
      · obtain ⟨b, hb, happlied, hbn⟩ := (h.finished n).mpr (by omega)
        obtain ⟨r, hr, hrapplied, hseq, -⟩ := hfinish.exists_finished hb (.inl happlied)
        exact ⟨r, hr, hrapplied, hseq.trans hbn⟩
    · intro r hr happlied n hn
      obtain ⟨b, hb, -, -, hcase⟩ := hfinish.mem hr
      rcases hcase with ⟨hbid, rfl⟩ | ⟨-, hfinished⟩
      · have hsame := h.unfinished r hb happlied n hn
        obtain rfl := sequence_unique ha hb hnext (hsame ▸ hn)
        exact absurd hid hbid
      · rw [hfinished] at happlied
        cases happlied
  · -- the command was finished before, or has no sequence
    refine ⟨k, fun n => ⟨?_, ?_⟩, ?_⟩
    · rintro ⟨r, hr, happlied, hn⟩
      obtain ⟨b, hb, hseq, -, hcase⟩ := hfinish.mem hr
      have hbn := hseq.symm.trans hn
      apply (h.finished n).mp
      refine ⟨b, hb, ?_, hbn⟩
      rcases hcase with ⟨-, rfl⟩ | ⟨hbid, -⟩
      · exact happlied
      · by_contra hunfinished
        have hfalse : b.state.applied = false := Bool.eq_false_iff.mpr hunfinished
        have hnext := h.unfinished b hb hfalse n hbn
        exact hopen ⟨b, hb, hbid, hfalse, hnext ▸ hbn⟩
    · intro hn
      obtain ⟨b, hb, happlied, hbn⟩ := (h.finished n).mpr hn
      obtain ⟨r, hr, hrapplied, hseq, -⟩ := hfinish.exists_finished hb (.inl happlied)
      exact ⟨r, hr, hrapplied, hseq.trans hbn⟩
    · intro r hr happlied n hn
      obtain ⟨b, hb, -, -, hcase⟩ := hfinish.mem hr
      rcases hcase with ⟨-, rfl⟩ | ⟨-, hfinished⟩
      · exact h.unfinished r hb happlied n hn
      · rw [hfinished] at happlied
        cases happlied

lemma Ordered.recorded {command : InboundCommand ControllerCommandMessage} (h : Ordered db k)
    (hrecord : RecordsNext db db' command) : Ordered db' k := by
  have hmem : ∀ r, r ∈ db'.inbound.rows ↔ r ∈ db.inbound.rows ∨ r = command.row := by
    intro r
    rw [hrecord.rows, List.mem_append, List.mem_singleton]
  constructor
  · intro n
    rw [← h.finished n]
    constructor
    · rintro ⟨r, hr, happlied, hn⟩
      rcases (hmem r).mp hr with hr | rfl
      · exact ⟨r, hr, happlied, hn⟩
      · cases happlied
    · rintro ⟨r, hr, hrest⟩
      exact ⟨r, (hmem r).mpr (.inl hr), hrest⟩
  · intro r hr happlied n hn
    rcases (hmem r).mp hr with hr | rfl
    · exact h.unfinished r hr happlied n hn
    · have hnext := hrecord.next n hn
      rwa [h.lastAppliedSequence_eq] at hnext

def EpochKept (db db' : CommandDb) : Prop :=
  ∀ p, db.dispatchPosition = some p →
    ∃ p', db'.dispatchPosition = some p' ∧ p.dispatchEpoch ≤ p'.dispatchEpoch

lemma EpochKept.of_eq (h : db'.dispatchPosition = db.dispatchPosition) : EpochKept db db' :=
  fun p hp => ⟨p, h.trans hp, Nat.le_refl _⟩

lemma step_cases (db : CommandDb) (call : RepositoryCall) :
    (call.step db).1 = db ∨
    (∃ command, call = .record command ∧ RecordsNext db (call.step db).1 command) ∨
    (∃ commandId answer, call = .mark commandId answer ∧
      FinishedRows db (call.step db).1 commandId ∧
      (call.step db).1.dispatchPosition = db.dispatchPosition) ∨
    ∃ commandId dispatchEpoch answer r n, call = .finish commandId dispatchEpoch answer ∧
      Dispatched db (call.step db).1 commandId dispatchEpoch r n := by
  cases call with
  | crash => exact .inl rfl
  | record command =>
    cases h : recordInboundCommand db command with
    | error => exact .inl (by simp [RepositoryCall.step, h, Except.map])
    | ok result =>
      obtain ⟨db', row, created⟩ := result
      have hstep : (RepositoryCall.step db (.record command)).1 = db' := by
        simp [RepositoryCall.step, h, Except.map]
      rw [hstep]
      exact (recorded_of_record h).imp id (fun h => .inl ⟨command, rfl, h⟩)
  | mark commandId answer =>
    cases h : markInbound db commandId answer with
    | error => exact .inl (by simp [RepositoryCall.step, h])
    | ok db' =>
      have hstep : (RepositoryCall.step db (.mark commandId answer)).1 = db' := by
        simp [RepositoryCall.step, h]
      rw [hstep]
      exact .inr (.inr (.inl ⟨commandId, answer, rfl, finishedRows_of_mark h⟩))
  | finish commandId dispatchEpoch answer =>
    cases h : finishManagedDispatch db commandId dispatchEpoch answer with
    | error => exact .inl (by simp [RepositoryCall.step, h])
    | ok db' =>
      have hstep : (RepositoryCall.step db (.finish commandId dispatchEpoch answer)).1 = db' := by
        simp [RepositoryCall.step, h]
      rw [hstep]
      refine (dispatched_of_finish h).imp id (fun h => .inr (.inr ?_))
      obtain ⟨r, n, h⟩ := h
      exact ⟨commandId, dispatchEpoch, answer, r, n, rfl, h⟩

lemma step_ordered (h : Ordered db k) (call : RepositoryCall) :
    ∃ k', Ordered (call.step db).1 k' := by
  rcases step_cases db call with hsame | ⟨command, -, hrecord⟩ | ⟨commandId, answer, -, hmark, -⟩ |
    ⟨commandId, epoch, answer, r, n, -, hfinish⟩
  · rw [hsame]
    exact ⟨k, h⟩
  · exact ⟨k, h.recorded hrecord⟩
  · exact h.finishedRows hmark
  · exact h.finishedRows hfinish.rows

lemma step_epoch (db : CommandDb) (call : RepositoryCall) : EpochKept db (call.step db).1 := by
  rcases step_cases db call with hsame | ⟨command, -, hrecord⟩ | ⟨commandId, answer, -, -, hmark⟩ |
    ⟨commandId, epoch, answer, r, n, -, hfinish⟩
  · exact .of_eq (by rw [hsame])
  · exact .of_eq hrecord.position
  · exact .of_eq hmark
  · exact fun p hp => ⟨_, hfinish.position, (hfinish.advances p hp).1⟩

def PositionIsGreatest (db : CommandDb) : Prop :=
  match db.dispatchPosition with
  | none => ∀ r ∈ db.inbound.rows, r.state.applied = true → r.dispatchEpoch = none
  | some p =>
    (∃ r ∈ db.inbound.rows, r.state.applied = true ∧ r.dispatchEpoch = some p.dispatchEpoch ∧
      r.sequence = some p.lastSequence) ∧
    ∀ r ∈ db.inbound.rows, r.state.applied = true → r.dispatchEpoch.isSome = true →
      ∃ n, r.sequence = some n ∧ n ≤ p.lastSequence

def OwnFinish (db : CommandDb) : RepositoryCall → Prop
  | .mark commandId _ => ∀ r ∈ db.inbound.rows, r.commandId = commandId → r.dispatchEpoch = none
  | _ => True

lemma PositionIsGreatest.of_finished (h : PositionIsGreatest db)
    (hposition : db'.dispatchPosition = db.dispatchPosition)
    (hkept : ∀ r ∈ db.inbound.rows, r.state.applied = true → ∃ r' ∈ db'.inbound.rows,
      r'.state.applied = true ∧ r'.sequence = r.sequence ∧ r'.dispatchEpoch = r.dispatchEpoch)
    (hfrom : ∀ r ∈ db'.inbound.rows, r.state.applied = true → r.dispatchEpoch.isSome = true →
      ∃ a ∈ db.inbound.rows, a.state.applied = true ∧ r.sequence = a.sequence ∧
        r.dispatchEpoch = a.dispatchEpoch) : PositionIsGreatest db' := by
  unfold PositionIsGreatest at h ⊢
  rw [hposition]
  cases hp : db.dispatchPosition with
  | none =>
    rw [hp] at h
    intro r hr happlied
    cases hepoch : r.dispatchEpoch with
    | none => rfl
    | some =>
      obtain ⟨a, ha, haapplied, -, hsame⟩ := hfrom r hr happlied (by rw [hepoch]; rfl)
      rw [← hepoch, hsame, h a ha haapplied]
  | some =>
    rw [hp] at h
    obtain ⟨⟨r, hr, happlied, hepoch, hseq⟩, hgreatest⟩ := h
    refine ⟨?_, fun r' hr' happlied' hmanaged => ?_⟩
    · obtain ⟨r', hr', happlied', hseq', hepoch'⟩ := hkept r hr happlied
      exact ⟨r', hr', happlied', hepoch'.trans hepoch, hseq'.trans hseq⟩
    · obtain ⟨a, ha, haapplied, hseq', hepoch'⟩ := hfrom r' hr' happlied' hmanaged
      obtain ⟨n, hn, hle⟩ := hgreatest a ha haapplied (hepoch' ▸ hmanaged)
      exact ⟨n, hseq'.trans hn, hle⟩

lemma step_position (h : PositionIsGreatest db) (call : RepositoryCall) (hown : OwnFinish db call) :
    PositionIsGreatest (call.step db).1 := by
  rcases step_cases db call with hsame | ⟨command, -, hrecord⟩ |
    ⟨commandId, answer, rfl, hmark, hposition⟩ | ⟨commandId, epoch, answer, r, n, -, hfinish⟩
  · rw [hsame]
    exact h
  · refine h.of_finished hrecord.position (fun r hr happlied => ?_) (fun r hr happlied _ => ?_)
    · exact ⟨r, by rw [hrecord.rows]; exact List.mem_append_left _ hr, happlied, rfl, rfl⟩
    · rw [hrecord.rows, List.mem_append, List.mem_singleton] at hr
      rcases hr with hr | rfl
      · exact ⟨r, hr, happlied, rfl, rfl⟩
      · cases happlied
  · refine h.of_finished hposition (fun r hr happlied => hmark.exists_finished hr (.inl happlied))
      (fun r hr happlied hmanaged => ?_)
    obtain ⟨a, ha, hseq, hepoch, hcase⟩ := hmark.mem hr
    rcases hcase with ⟨-, rfl⟩ | ⟨hid, -⟩
    · exact ⟨r, ha, happlied, rfl, rfl⟩
    · rw [hepoch, hown a ha hid] at hmanaged
      cases hmanaged
  · unfold PositionIsGreatest at h ⊢
    rw [hfinish.position]
    obtain ⟨r', hr', happlied', hseq', hepoch'⟩ :=
      hfinish.rows.exists_finished hfinish.record.1 (.inr hfinish.record.2)
    refine ⟨⟨r', hr', happlied', hepoch'.trans hfinish.managed, hseq'.trans hfinish.sequence⟩, ?_⟩
    intro a ha happlied hmanaged
    obtain ⟨b, hb, hseq, hepoch, hcase⟩ := hfinish.rows.mem ha
    rcases hcase with ⟨-, rfl⟩ | ⟨hid, -⟩
    · cases hp : db.dispatchPosition with
      | none =>
        rw [hp] at h
        rw [h a hb happlied] at hmanaged
        cases hmanaged
      | some p =>
        rw [hp] at h
        obtain ⟨m, hm, hle⟩ := h.2 a hb happlied hmanaged
        have hlt := (hfinish.advances p hp).2
        exact ⟨m, hm, Nat.le_of_lt (Nat.lt_of_le_of_lt hle hlt)⟩
    · obtain rfl := record_unique hfinish.record.1 hb (hfinish.record.2.trans hid.symm)
      exact ⟨n, hseq.trans hfinish.sequence, Nat.le_refl n⟩

def AppliedInOrder (db : CommandDb) : Prop :=
  ∃ k, Ordered db k ∧
    ∀ r ∈ db.inbound.rows, ∀ r' ∈ db.inbound.rows, ∀ n, r.sequence = some n →
      r'.sequence = some n → r = r'

theorem commands_applied_in_order (calls : List RepositoryCall) :
    Always AppliedInOrder RepositoryCall.step {} calls ∧
      (∀ earlier call later, calls = earlier ++ call :: later →
        EpochKept (final RepositoryCall.step {} earlier)
          (call.step (final RepositoryCall.step {} earlier)).1) ∧
      (RunOk OwnFinish RepositoryCall.step {} calls →
        Always PositionIsGreatest RepositoryCall.step {} calls) := by
  refine ⟨?_, fun earlier call later _ => step_epoch _ call, ?_⟩
  · intro earlier later _
    have hstart : ∃ k, Ordered ({} : CommandDb) k := by
      refine ⟨0, fun n => ⟨?_, fun hn => by omega⟩, ?_⟩
      · rintro ⟨r, hr, -⟩
        cases hr
      · intro r hr
        cases hr
    have hstep : ∀ db call, (∃ k, Ordered db k) → ∃ k, Ordered (RepositoryCall.step db call).1 k :=
      fun db call ⟨_, h⟩ => step_ordered h call
    obtain ⟨k, hk⟩ := final_of_step hstep hstart earlier
    exact ⟨k, hk, fun r hr r' hr' n hn hn' => sequence_unique hr hr' hn hn'⟩
  · rintro hown earlier later rfl
    have hstart : PositionIsGreatest {} := by
      intro r hr
      cases hr
    have hstep : ∀ db call, PositionIsGreatest db → OwnFinish db call →
        PositionIsGreatest (RepositoryCall.step db call).1 :=
      fun db call h hok => step_position h call hok
    exact final_invariant hstep hstart (runOk_append.mp hown).1

instance decidableOwnFinish (db : CommandDb) (call : RepositoryCall) :
    Decidable (OwnFinish db call) :=
  match call with
  | .mark commandId _ => inferInstanceAs (Decidable (∀ r ∈ db.inbound.rows,
      r.commandId = commandId → r.dispatchEpoch = none))
  | .record _ | .finish _ _ _ | .crash => .isTrue trivial

def cancelMessage : ControllerCommandMessage := ⟨"msg_1", "cmd_1", 1, none, .cancelJob "job_1"⟩

def dispatchMessage (sequence : Nat) : ControllerCommandMessage :=
  ⟨"msg_2", "cmd_2", sequence, some 10, .dispatchDeviceWork ⟨"mwk_1",
    ⟨"org_1", "site_1", "agt_1", "mwk_1", "key_1", "00", 1, sequence, 10, 20, 30⟩,
    ⟨"kid_1", "ek", "ct"⟩⟩⟩

def orderedCalls : List RepositoryCall :=
  [.record (cancelMessage.inbound none), .mark "cmd_1" (.accepted "job_1"), .crash,
    .record ((dispatchMessage 2).inbound (some 1)), .finish "cmd_2" 1 (.accepted "pj_1")]

theorem ordered_calls_applied :
    RunOk OwnFinish RepositoryCall.step {} orderedCalls ∧
      (final RepositoryCall.step {} orderedCalls).dispatchPosition = some ⟨1, 2⟩ ∧
      Always PositionIsGreatest RepositoryCall.step {} orderedCalls :=
  ⟨by decide +kernel, by decide +kernel,
    (commands_applied_in_order orderedCalls).2.2 (by decide +kernel)⟩

def markedDispatch : List RepositoryCall :=
  [.record ((dispatchMessage 1).inbound (some 1)), .mark "cmd_2" (.accepted "pj_1")]

theorem marked_dispatch_has_no_position :
    ¬Always PositionIsGreatest RepositoryCall.step {} markedDispatch := by
  intro h
  have hfinal := h markedDispatch [] rfl
  have hposition : (final RepositoryCall.step {} markedDispatch).dispatchPosition = none := by
    decide +kernel
  have hfinished : ∃ r ∈ (final RepositoryCall.step {} markedDispatch).inbound.rows,
      r.state.applied = true ∧ r.dispatchEpoch ≠ none := by decide +kernel
  unfold PositionIsGreatest at hfinal
  rw [hposition] at hfinal
  obtain ⟨r, hr, happlied, hepoch⟩ := hfinished
  exact hepoch (hfinal r hr happlied)

end Inari.Agent
