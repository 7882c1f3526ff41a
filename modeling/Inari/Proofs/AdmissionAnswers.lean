import Inari.Proofs.AgentJournal

/-!
# The admission behind an answer

When a call of `_accept` answers with a job, its admission is accepted with this job, and stays as
it is.
-/

namespace Inari.Agent

open Lib DurableSpoolAdmissionStore SpoolAdmissionLedger

variable {F : PrintJobRow → Prop} {db db' : Db} {now : Time} {inp : StepInput}
  {m : AdmissionManifest}

structure SameRequest (a b : AdmissionRow) : Prop where
  id : b.id = a.id
  plannedJobId : b.plannedJobId = a.plannedJobId
  key : b.idempotencyKey = a.idempotencyKey
  fields : b.comparison = a.comparison

lemma SameRequest.refl (a : AdmissionRow) : SameRequest a a := ⟨rfl, rfl, rfl, rfl⟩

variable {a row : AdmissionRow} {acc : AdmissionAccepted} {plan : AdmissionPlan}
  {policy : SpoolCapacityPolicy} {owner : SpoolOwner} {ids : PlanIds} {next : Call ⊕ Outcome}

lemma SameRequest.trans {b c : AdmissionRow} (h : SameRequest a b) (h' : SameRequest b c) :
    SameRequest a c :=
  ⟨h'.id.trans h.id, h'.plannedJobId.trans h.plannedJobId, h'.key.trans h.key,
    h'.fields.trans h.fields⟩

def AdmissionsKept (db db' : Db) : Prop :=
  ∀ a ∈ db.admissions.rows, ∃ b ∈ db'.admissions.rows, SameRequest a b ∧
    (a.state = .accepted → b = a)

lemma AdmissionsKept.of_eq (h : db'.admissions = db.admissions) : AdmissionsKept db db' :=
  fun a ha => ⟨a, h ▸ ha, .refl a, fun _ => rfl⟩

lemma AdmissionsKept.trans {db'' : Db} (h : AdmissionsKept db db') (h' : AdmissionsKept db' db'') :
    AdmissionsKept db db'' := by
  intro a ha
  obtain ⟨b, hb, hab, hkept⟩ := h a ha
  obtain ⟨c, hc, hbc, hkept'⟩ := h' b hb
  refine ⟨c, hc, hab.trans hbc, fun hstate => ?_⟩
  obtain rfl := hkept hstate
  exact hkept' hstate

lemma AdmissionsKept.of_updated {p : AdmissionRow → Bool} {f : AdmissionRow → AdmissionRow}
    (hadm : db'.admissions.rows = Table.updated db.admissions.rows p f)
    (hf : ∀ a, SameRequest a (f a))
    (hp : ∀ a ∈ db.admissions.rows, p a = true → a.state ≠ .accepted) : AdmissionsKept db db' := by
  intro a ha
  exact Table.exists_updated hadm ha (fun _ => ⟨.refl a, fun _ => rfl⟩)
    (fun h => ⟨hf a, fun hstate => (hp a ha h hstate).elim⟩)

/-- An accepted admission keeps its row, another one its request. -/
lemma SpoolWrite.kept (h : SpoolWrite F db db') : AdmissionsKept db db' := by
  cases h with
  | other hadm | hold _ _ _ _ _ _ _ _ hadm | release _ _ _ _ hadm | fail _ _ _ _ _ _ _ _ hadm =>
    exact .of_eq hadm
  | stage _ _ _ _ _ hadm =>
    intro a ha
    exact ⟨a, by rw [hadm]; exact List.mem_append_left _ ha, .refl a, fun _ => rfl⟩
  | abort x code now _ hadm =>
    refine .of_updated hadm (fun a => ⟨rfl, rfl, rfl, rfl⟩) (fun a _ hp hstate => ?_)
    simp [hstate] at hp
  | publish plan row now hrow hid hopen _ hadm =>
    refine .of_updated hadm (fun a => ⟨rfl, rfl, rfl, rfl⟩) (fun a ha hp hstate => ?_)
    have heq : a = row := admission_eq_of_id db ha hrow ((by simpa using hp : a.id = _).trans hid.symm)
    rw [heq] at hstate
    rcases hopen with h | h <;> simp [h] at hstate

lemma SpoolWrites.kept (h : SpoolWrites F db db') : AdmissionsKept db db' := by
  induction h with
  | refl => exact .of_eq rfl
  | tail _ hw ih => exact ih.trans hw.kept

lemma EventSpec.kept {codes : String → String → Prop} (h : EventSpec F codes db db') :
    AdmissionsKept db db' := by
  rcases h.writes with hframe | hwrites
  · exact .of_eq hframe.admissions
  · exact hwrites.kept

lemma Matches.of_sameRequest {b : AdmissionRow} (h : Matches m a) (hab : SameRequest a b) :
    Matches m b :=
  ⟨hab.fields ▸ h.origin, fun hkey => hab.fields ▸ h.exact_key (hab.key ▸ hkey)⟩

def AcceptedAs (db : Db) (m : AdmissionManifest) (jobId : String) : Prop :=
  ∃ a ∈ db.admissions.rows, a.state = .accepted ∧ a.jobId = some jobId ∧ Matches m a

lemma AcceptedAs.kept {jobId : String} (h : AcceptedAs db m jobId) (hkept : AdmissionsKept db db') :
    AcceptedAs db' m jobId := by
  obtain ⟨a, ha, hstate, hjob, hmatches⟩ := h
  obtain ⟨b, hb, -, heq⟩ := hkept a ha
  obtain rfl := heq hstate
  exact ⟨b, hb, hstate, hjob, hmatches⟩

lemma acceptedFromRow_ok {replayed : Bool} (h : acceptedFromRow row replayed = .ok acc) :
    row.jobId = some acc.printJobId ∧ acc.replayed = replayed := by
  unfold acceptedFromRow at h
  split at h
  · rename_i jobId t hjob ht
    cases h
    exact ⟨hjob, rfl⟩
  · cases h

lemma acceptedAs_of_row {replayed : Bool} (hrow : row ∈ db.admissions.rows)
    (hstate : row.state = .accepted) (hmatches : Matches m row)
    (h : acceptedFromRow row replayed = .ok acc) : AcceptedAs db m acc.printJobId :=
  ⟨row, hrow, hstate, (acceptedFromRow_ok h).1, hmatches⟩

/-- A replay answers with the job of a matching admission. -/
lemma replay_acceptedAs (h : replay db m = .ok (some acc)) : AcceptedAs db m acc.printJobId := by
  have answered : ∀ row ∈ db.admissions.rows, Matches m row →
      (do raiseIfAborted row
          if row.state = .accepted then
            let accepted ← acceptedFromRow row true
            pure (some accepted)
          else pure none) = Except.ok (some acc) → AcceptedAs db m acc.printJobId := by
    intro row hrow hmatches hok
    simp only [bind_ok] at hok
    obtain ⟨-, -, hok⟩ := hok
    split at hok
    · rename_i hstate
      simp only [bind_ok, pure_ok, Option.some.injEq] at hok
      obtain ⟨_, haccepted, rfl⟩ := hok
      exact acceptedAs_of_row hrow hstate hmatches haccepted
    · simp [pure_ok] at hok
  unfold replay at h
  split at h
  · rename_i existing hfind
    rw [bind_ok] at h
    obtain ⟨_, hexact, h⟩ := h
    have hexact : existing.comparison = m.comparison := by simpa [assertExactReplay] using hexact
    exact answered existing (Table.first_spec hfind).1 (matches_of_exact hexact) h
  · rename_i hnone
    split at h
    · cases h
    · rename_i origin hfind
      rw [bind_ok] at h
      obtain ⟨_, hsame, h⟩ := h
      exact answered origin (Table.first_spec hfind).1
        (matches_of_findOrigin hnone hfind (require_ok.mp hsame)) h

def PlanFor (db : Db) (m : AdmissionManifest) (plan : AdmissionPlan) : Prop :=
  ∃ a ∈ db.admissions.rows, a.id = plan.admissionId ∧ a.plannedJobId = plan.jobId ∧ Matches m a

lemma PlanFor.kept (h : PlanFor db m plan) (hkept : AdmissionsKept db db') :
    PlanFor db' m plan := by
  obtain ⟨a, ha, hid, hjob, hmatches⟩ := h
  obtain ⟨b, hb, hab, -⟩ := hkept a ha
  exact ⟨b, hb, hab.id.trans hid, hab.plannedJobId.trans hjob, hmatches.of_sameRequest hab⟩

def PreparedFor (db : Db) (m : AdmissionManifest) : Prepared → Prop
  | .accepted acc => AcceptedAs db m acc.printJobId
  | .plan plan => PlanFor db m plan

lemma SpoolAdmissionLedger.Preparing.request {prepared : Prepared}
    (h : Preparing policy owner db m now db' prepared) : PreparedFor db' m prepared := by
  have hkept : AdmissionsKept db db' := (h.writes (F := fun _ => False)).1.kept
  cases h with
  | replayed row acc hrow hstate hok => exact acceptedAs_of_row hrow.mem hstate hrow.same hok
  | resumed row proof active artifactId hrow => exact ⟨row, hrow.mem, rfl, rfl, hrow.same⟩
  | held row proof plan _ hrow _ hplan =>
    refine PlanFor.kept ⟨row, hrow.mem, ?_, ?_, hrow.same⟩ hkept <;> rw [hplan]
  | created plan admissions proofs _ _ _ _ hadm _ hhold =>
    simp only [holdReservation, bind_ok, pure_ok] at hhold
    obtain ⟨reservations, -, rfl⟩ := hhold
    refine ⟨stagingRow plan.admissionId plan.jobId m now, ?_, rfl, rfl, matches_of_exact rfl⟩
    show _ ∈ admissions.rows
    rw [hadm]
    exact List.mem_append_right _ (List.mem_singleton_self _)

lemma finalize_acceptedAs {env : AdmissionEnv} (hplan : PlanFor db m plan)
    (h : finalize env db plan now = .ok (db', acc)) : AcceptedAs db' m acc.printJobId := by
  obtain ⟨a, ha, hid, hjob, hmatches⟩ := hplan
  obtain ⟨row, hrow, hid', hcase⟩ := finalize_cases h
  obtain rfl : row = a := admission_eq_of_id db hrow ha (hid'.trans hid.symm)
  obtain ⟨rfl, hstate, _, hok⟩ | ⟨hpub, hanswer, -⟩ := hcase
  · exact acceptedAs_of_row hrow hstate hmatches hok
  · exact ⟨acceptedRow plan.jobId now row, Table.mem_written hpub.admissions hrow (by simp [hid]),
      rfl, by rw [hanswer]; rfl, hmatches.of_sameRequest ⟨rfl, rfl, rfl, rfl⟩⟩

def DurableSpoolAdmissionStore.Call.request : Call → Option AdmissionManifest
  | .accept m | .acceptLoop m _ | .accepting m _ _ _ => some m
  | .reconcile | .reconcileNext _ _ | .reconciling _ _ _ _ | .reconcileAbort _ _ _ _
  | .reconcileJobs _ | .reconcileJob _ _ | .failJob _ _ _ _ => none

/-- What the position of a call of `_accept` says about the admission it works on. -/
def AnswerInv (db : Db) : Call → Prop
  | .accepting m _ plan _ => PlanFor db m plan
  | _ => True

def NextAnswer (db : Db) (request : Option AdmissionManifest) : Call ⊕ Outcome → Prop
  | .inl call => call.request = request ∧ AnswerInv db call
  | .inr (.accepted acc) => ∀ m, request = some m → AcceptedAs db m acc.printJobId
  | .inr _ => True

/-- A call is answered with the job of its own request. -/
theorem DurableSpoolAdmissionStore.CallSteps.answer {call : Call}
    (hsteps : CallSteps inp db call (db', next)) (hcall : AnswerInv db call)
    (hkept : AdmissionsKept db db') : NextAnswer db' call.request next := by
  cases hsteps with
  | raises | lost | jobsDone => trivial
  | replays hreplay =>
    rintro _ ⟨⟩
    exact replay_acceptedAs hreplay
  | answers hok =>
    rintro _ ⟨⟩
    exact (prepare_preparing hok).request
  | prepares hok => exact ⟨rfl, (prepare_preparing hok).request⟩
  | moves | writes => exact ⟨rfl, PlanFor.kept hcall hkept⟩
  | accepts htx =>
    rintro _ ⟨⟩
    cases htx with
    | finalize hok => exact finalize_acceptedAs hcall hok
  | _ => exact ⟨rfl, trivial⟩

end Inari.Agent
