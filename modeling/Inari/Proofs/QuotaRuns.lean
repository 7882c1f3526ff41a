import Inari.Proofs.SpoolQuota

/-!
# Runs within the quota of the spool

The reservations of admissions stay within the limits, and a refused request has written nothing.
-/

namespace Inari.Agent

open Lib SqliteExecutionLedger DurableSpoolAdmissionStore SpoolAdmissionLedger

variable {policy : SpoolCapacityPolicy} {db db' : Db} {m : AdmissionManifest} {s : AgentState}
  {now : Time}

def WithinQuota (policy : SpoolCapacityPolicy) (db : Db) : Prop :=
  ∀ (scope : QuotaScope) (q : Quantity), scope.used db q ≤ scope.limit policy q

/-- Every reservation has the amounts of its admission. -/
def Sized (db : Db) : Prop :=
  ∀ r ∈ admissionReservations db, ∃ a ∈ db.admissions.rows, r.For a

/-- No row that the limits count is written. -/
structure KeepsSpool (db db' : Db) : Prop where
  admissions : db'.admissions = db.admissions
  reservations : admissionReservations db' = admissionReservations db

lemma KeepsSpool.of_eq (hadm : db'.admissions = db.admissions)
    (hres : db'.reservations = db.reservations) : KeepsSpool db db' :=
  ⟨hadm, by rw [admissionReservations, hres]; rfl⟩

lemma KeepsSpool.used (h : KeepsSpool db db') (scope : QuotaScope) (q : Quantity) :
    scope.used db' q = scope.used db q := by
  rw [QuotaScope.used, h.reservations]
  rfl

lemma KeepsSpool.within (h : KeepsSpool db db') (hquota : WithinQuota policy db) :
    WithinQuota policy db' := by
  intro scope q
  rw [h.used]
  exact hquota scope q

lemma KeepsSpool.sized (h : KeepsSpool db db') (hsized : Sized db) : Sized db' := by
  intro r hr
  rw [h.reservations] at hr
  rw [h.admissions]
  exact hsized r hr

/-- A row that is kept or released counts for no more than before. -/
lemma ReservationRow.Kept.shrinks {r r' : ReservationRow} (h : r.Kept r') (scope : QuotaScope)
    (q : Quantity) : Shrinks scope.counts q.of r r' := by
  intro hcounts
  rw [QuotaScope.counts, Bool.and_eq_true] at hcounts ⊢
  refine ⟨⟨?_, h.active hcounts.2⟩, (h.amount q).le⟩
  cases scope with
  | agent => rfl
  | device =>
    rw [QuotaScope.covers, ← h.deviceId]
    exact hcounts.1

/-- Without a new reservation, usage does not grow. -/
lemma Settles.used_le (h : Settles db db') (scope : QuotaScope) (q : Quantity) :
    scope.used db' q ≤ scope.used db q := by
  rw [quota_used_eq, quota_used_eq]
  exact used_le_of_forall₂ (h.reservations.imp (fun _ _ hkept => hkept.shrinks scope q))

lemma Settles.within (h : Settles db db') (hquota : WithinQuota policy db) :
    WithinQuota policy db' :=
  fun scope q => (h.used_le scope q).trans (hquota scope q)

/-- The amounts depend on columns that no transaction changes. -/
lemma AdmissionRow.Same.amount {a a' : AdmissionRow} (h : a.Same a') : a'.amount = a.amount := by
  rw [AdmissionRow.amount, h.originalSizeBytes, h.operation]
  rfl

lemma Settles.sized (h : Settles db db') (hsized : Sized db) : Sized db' := by
  intro r' hr'
  obtain ⟨hr', hkind⟩ := mem_admissionReservations.mp hr'
  obtain ⟨r, hr, hkept⟩ := exists_left_of_forall₂ h.reservations hr'
  obtain ⟨a, ha, hmade⟩ := hsized r (mem_admissionReservations.mpr ⟨hr, hkept.kind ▸ hkind⟩)
  obtain ⟨a', ha', hsame⟩ := exists_right_of_forall₂ h.admissions ha
  refine ⟨a', ha', ?_, ?_, fun q => ?_⟩
  · rw [hkept.admissionId, hmade.admissionId, hsame.id]
  · rw [hkept.deviceId, hmade.deviceId, hsame.deviceId]
  · rw [hkept.amount, hmade.amount, hsame.amount]

section Held

variable {held : ReservationRow} {a : AdmissionRow}

/-- A new reservation adds the amounts of its admission where it is counted. -/
lemma Holds.used (h : Holds policy db db' held a) (scope : QuotaScope) (q : Quantity) :
    scope.used db' q = scope.used db q + if scope.counts held then a.amount q else 0 := by
  rw [quota_used_eq, quota_used_eq, h.reservations, used_append, used_cons, used_nil, h.made.amount]
  rfl

/-- The limits of the Agent and of the Device were checked when the row was made. -/
lemma Holds.within (h : Holds policy db db' held a) (hquota : WithinQuota policy db) :
    WithinQuota policy db' := by
  intro scope q
  rw [h.used]
  by_cases hcounts : scope.counts held = true
  · rw [if_pos hcounts]
    cases scope with
    | agent => exact h.agent q
    | device deviceId =>
      rw [QuotaScope.counts, Bool.and_eq_true, QuotaScope.covers, beq_iff_eq] at hcounts
      obtain rfl : a.deviceId = deviceId := h.made.deviceId ▸ hcounts.1
      exact h.device q
  · rw [if_neg hcounts]
    exact hquota scope q

lemma Holds.sized (h : Holds policy db db' held a) (hsized : Sized db) : Sized db' := by
  have hadm : ∀ b ∈ db.admissions.rows, b ∈ db'.admissions.rows := by
    intro b hb
    rcases h.admissions with ⟨hrows, -⟩ | hrows
    · exact hrows ▸ hb
    · exact hrows ▸ List.mem_append_left _ hb
  have ha : a ∈ db'.admissions.rows := by
    rcases h.admissions with ⟨hrows, hmem⟩ | hrows
    · exact hrows ▸ hmem
    · exact hrows ▸ List.mem_append_right _ (List.mem_singleton_self a)
  intro r hr
  obtain ⟨hr, hkind⟩ := mem_admissionReservations.mp hr
  rw [h.reservations, List.mem_append, List.mem_singleton] at hr
  rcases hr with hr | rfl
  · obtain ⟨b, hb, hmade⟩ := hsized r (mem_admissionReservations.mpr ⟨hr, hkind⟩)
    exact ⟨b, hadm b hb, hmade⟩
  · exact ⟨a, ha, h.made⟩

end Held

/-- One transaction of the spool keeps the limits. -/
lemma QuotaStep.kept (h : QuotaStep policy db db') (hquota : WithinQuota policy db)
    (hsized : Sized db) : WithinQuota policy db' ∧ Sized db' := by
  rcases h with hsettles | ⟨held, a, hholds⟩
  · exact ⟨hsettles.within hquota, hsettles.sized hsized⟩
  · exact ⟨hholds.within hquota, hholds.sized hsized⟩

/-- The unique index leaves one counted reservation per admission. -/
lemma counted_once (db : Db) : ((admissionReservations db).filter (fun r => r.state.active)).Pairwise
    (fun r r' => r.admissionId ≠ r'.admissionId) := by
  have hpairs := db.reservations.select_pairwise (u := ReservationRow.uqAdmissionActive)
    (by simp [ReservationRow.spec]) (fun r => r.state.active && r.reservationKind == .admission)
  rw [admissionReservations, List.filter_filter]
  refine List.Pairwise.imp_of_mem ?_ hpairs
  intro r r' hr hr' hne heq
  simp only [List.mem_filter, Bool.and_eq_true, beq_iff_eq] at hr hr'
  have hcheck := db.reservations.check_of_mem hr.1
  cases hid : r.admissionId with
  | none =>
    simp [ReservationRow.spec, ReservationRow.check, ReservationRow.dimensions, hr.2.2, hid]
      at hcheck
  | some x =>
    refine hne x ?_ ?_
    · simp [ReservationRow.uqAdmissionActive, hr.2.1, hid]
    · simp [ReservationRow.uqAdmissionActive, hr'.2.1, ← heq, hid]

def AgentEvent.Configured (policy : SpoolCapacityPolicy) : AgentEvent → Prop
  | .advance inp => inp.env.policy = policy
  | _ => True

instance (e : AgentEvent) : Decidable (e.Configured policy) :=
  match e with
  | .advance inp => inferInstanceAs (Decidable (inp.env.policy = policy))
  | .ledger .. | .releaseRow .. | .persistDerived .. | .accept _ | .reconcile | .stop =>
    .isTrue trivial

/-- The call itself writes nothing; other operations may write. -/
def CallQuiet (s : AgentState) : AgentEvent → Prop
  | .advance inp => (s.step (.advance inp)).1.db = s.db
  | _ => True

lemma callQuiet_of_db {e : AgentEvent} (h : (s.step e).1.db = s.db) : CallQuiet s e := by
  cases e <;> first | exact h | trivial

/-- An event is a step of the open call, or writes nothing that is counted. -/
lemma agentStep_cases (hinv : AgentInv anyCodes s) (e : AgentEvent) :
    (∃ inp call next, e = .advance inp ∧ s.call = some call ∧
      CallSteps inp s.db call ((s.step e).1.db, next) ∧ (s.step e).1.call = next.getLeft?) ∨
    (KeepsSpool s.db (s.step e).1.db ∧ CallQuiet s e ∧
      (s.call.isSome = true → (s.step e).1.call = s.call ∨ (s.step e).1.call = none)) := by
  have hsteps := s.step_cases e
  have hquiet := callQuiet_of_db (s := s) (e := e)
  generalize s.step e = result at hsteps hquiet
  cases hsteps with
  | moves hcall hsteps | ends hcall hsteps => exact .inl ⟨_, _, _, rfl, hcall, hsteps, rfl⟩
  | @ledger env c commit _ _ _ hok =>
    have hframe := (applyLedger_steps hinv.journal anyCodes_own
      (anyCodes_event (.ledger env c commit)) hok).2
    exact .inr ⟨⟨hframe.admissions, hframe.reservations⟩, trivial, fun _ => .inl rfl⟩
  | releaseRow | persistDerived => exact .inr ⟨.of_eq rfl rfl, trivial, fun _ => .inl rfl⟩
  | raised | waits => exact .inr ⟨.of_eq rfl rfl, hquiet rfl, fun _ => .inl rfl⟩
  | accepts hcall | reconciles hcall =>
    exact .inr ⟨.of_eq rfl rfl, trivial, fun hsome => by simp [hcall] at hsome⟩
  | stops => exact .inr ⟨.of_eq rfl rfl, trivial, fun _ => .inr rfl⟩

structure QuotaInv (policy : SpoolCapacityPolicy) (s : AgentState) : Prop where
  agent : AgentInv anyCodes s
  within : WithinQuota policy s.db
  sized : Sized s.db

lemma quotaInv_empty (policy : SpoolCapacityPolicy) : QuotaInv policy ({} : AgentState) :=
  ⟨agentInv_empty, fun _ _ => Nat.zero_le _, by simp [Sized, admissionReservations]⟩

/-- Every event keeps the limits, whatever call is open. -/
lemma quotaInv_step (s : AgentState) (e : AgentEvent) (hs : QuotaInv policy s)
    (he : e.Configured policy) : QuotaInv policy (s.step e).1 := by
  have hagent := (step_any e hs.agent).1
  rcases agentStep_cases hs.agent e with ⟨inp, call, next, rfl, -, hstep, -⟩ | ⟨hkeeps, -⟩
  · have hquota := hstep.quota
    rw [he] at hquota
    obtain ⟨hwithin, hsized⟩ := hquota.kept hs.within hs.sized
    exact ⟨hagent, hwithin, hsized⟩
  · exact ⟨hagent, hkeeps.within hs.within, hkeeps.sized hs.sized⟩

def SpoolError.forQuota : SpoolError → Bool
  | .admission .queueFull _ | .admission .spoolQuotaExceeded _ => true
  | _ => false

/-- The open admission of the request has a reservation or room for one. -/
def Ready (policy : SpoolCapacityPolicy) (db : Db) (m : AdmissionManifest) : Prop :=
  ∃ row, admissionOf db m = some row ∧ (row.state = .staging ∨ row.state = .finalizing) ∧
    ((∃ r ∈ admissionReservations db, r.admissionId = some row.id ∧ r.state.active = true) ∨
      QuotaScope.agent.HasRoom policy db row.amount ∧
        (QuotaScope.device row.deviceId).HasRoom policy db row.amount)

lemma admissionOf_congr (h : db'.admissions = db.admissions) :
    admissionOf db' m = admissionOf db m := by
  rw [admissionOf, findIdempotency, findOrigin, h]
  rfl

lemma admissionOf_mem {row : AdmissionRow} (h : admissionOf db m = some row) :
    row ∈ db.admissions.rows := by
  rw [admissionOf, Option.or_eq_some_iff] at h
  rcases h with hkey | ⟨-, horigin⟩
  · exact (Table.first_spec hkey).1
  · exact (Table.first_spec horigin).1

lemma KeepsSpool.ready (h : KeepsSpool db db') (hready : Ready policy db m) :
    Ready policy db' m := by
  obtain ⟨row, hfound, hopen, hroom⟩ := hready
  refine ⟨row, (admissionOf_congr h.admissions).trans hfound, hopen, ?_⟩
  rw [h.reservations]
  refine hroom.imp_right (fun ⟨hagent, hdevice⟩ => ⟨fun q => ?_, fun q => ?_⟩)
  · rw [h.used]
    exact hagent q
  · rw [h.used]
    exact hdevice q

variable {plan : AdmissionPlan}

lemma KeepsSpool.secures (h : KeepsSpool db db') (hplan : Secures db m plan) :
    Secures db' m plan := by
  obtain ⟨row, hfound, hopen, hid⟩ := hplan.found
  refine ⟨⟨row, (admissionOf_congr h.admissions).trans hfound, hopen, hid⟩, ?_⟩
  rw [h.reservations]
  exact hplan.reservation

lemma Secures.ready (h : Secures db m plan) : Ready policy db m := by
  obtain ⟨row, hfound, hopen, hid⟩ := h.found
  obtain ⟨r, hr, -, hadmission, hactive⟩ := h.reservation
  exact ⟨row, hfound, hopen, .inl ⟨r, hr, hid ▸ hadmission, hactive⟩⟩

/-- What a missing file gives back is room for the same reservation. -/
lemma removeMissing_ready {storageRef : String} (hplan : Secures db m plan)
    (hwithin : WithinQuota policy db) (hsized : Sized db)
    (h : removeMissingArtifact db plan storageRef now = .ok db') : Ready policy db' m := by
  obtain ⟨row, hfound, hopen, hid⟩ := hplan.found
  obtain ⟨r, hr, hrid, hadmission, hactive⟩ := hplan.reservation
  obtain ⟨a, ha, hmade⟩ := hsized r hr
  obtain rfl : a = row := by
    refine admission_eq_of_id db ha (admissionOf_mem hfound) ?_
    rw [hid]
    exact Option.some.inj (hmade.admissionId.symm.trans hadmission)
  obtain ⟨reservations, rfl, hres⟩ := releaseWhere_eq h
  have hfree : ∀ scope : QuotaScope, scope.covers r = true → scope.HasRoom policy
      { db with
        artifacts := db.artifacts.delete (fun x => x.admissionId == plan.admissionId &&
          x.storageRef == storageRef && x.state == .staging)
        reservations := reservations } a.amount := by
    intro scope hcovers q
    refine le_trans ?_ (hwithin scope q)
    rw [quota_used_eq, quota_used_eq, ← hmade.amount]
    refine used_add_le_of_forall₂ (R := fun x x' => x' =
      if (x.id == plan.reservationId && x.state.active) = true then releasedRow now x else x)
      ?_ ?_ (mem_admissionReservations.mp hr).1 ?_ ?_
    · rw [hres, Table.updated, List.forall₂_map_right_iff, List.forall₂_same]
      exact fun _ _ => rfl
    · rintro x _ rfl
      split
      · exact (releasedRow_kept now x).shrinks scope q
      · exact .refl _ _ _
    · rw [QuotaScope.counts, hcovers, hactive]
      rfl
    · rintro _ rfl
      rw [if_pos (by simp [hrid, hactive]), QuotaScope.counts]
      exact Bool.and_false _
  refine ⟨a, hfound, hopen, .inr ⟨hfree .agent rfl, hfree (.device a.deviceId) ?_⟩⟩
  rw [QuotaScope.covers, hmade.deviceId]
  exact beq_self_eq_true _

section Unrefused

variable {owner : SpoolOwner} {ids : PlanIds} {graphOk : Bool} {e : SpoolError}

lemma newId_unrefused {value : String} (h : newId value = .error e) : e.forQuota = false := by
  unfold newId at h
  split at h
  · cases h
  · cases h
    rfl

lemma holdReservation_unrefused {plan : AdmissionPlan} {bytes : Nat}
    (h : holdReservation owner db plan bytes now = .error e) : e.forQuota = false := by
  simp only [holdReservation, bind_error] at h
  rcases h with hins | ⟨_, -, hpure⟩
  · unfold Table.insert at hins
    split at hins
    · cases hins
    · cases hins
      rfl
  · cases hpure

lemma readProof_unrefused {x : String} (h : readProof db x = .error e) : e.forQuota = false := by
  unfold readProof readAuthorityProof at h
  split at h
  · cases h
  · rename_i hread
    split at hread
    · cases hread
    · cases hread
      cases h
      rfl

/-- With room, an open admission is resumed without a quota error. -/
lemma resumePlan_unrefused {row : AdmissionRow}
    (hroom : activeReservation db row.id = none → QuotaScope.agent.HasRoom policy db row.amount ∧
      (QuotaScope.device row.deviceId).HasRoom policy db row.amount)
    (h : resumePlan policy owner db row now ids = .error e) : e.forQuota = false := by
  simp only [resumePlan, bind_error] at h
  rcases h with hproof | ⟨proof, -, h⟩
  · exact readProof_unrefused hproof
  · split at h
    · rename_i hnone
      have hquota := assertQuota_ok.mpr (hroom hnone)
      simp only [bind_error] at h
      rw [persistentBytes_eq] at h
      rcases h with herr | ⟨_, -, hid | ⟨_, -, hid | ⟨_, -, hhold | ⟨_, -, hpure⟩⟩⟩⟩
      · cases herr.symm.trans hquota
      · exact newId_unrefused hid
      · exact newId_unrefused hid
      · exact holdReservation_unrefused hhold
      · cases hpure
    · simp only [bind_error, resumedArtifactId] at h
      rcases h with hid | ⟨_, -, hpure⟩
      · split at hid
        · cases hid
        · exact newId_unrefused hid
      · cases hpure

lemma resumeOrReplay_unrefused {row : AdmissionRow}
    (hopen : row.state = .staging ∨ row.state = .finalizing)
    (hroom : activeReservation db row.id = none → QuotaScope.agent.HasRoom policy db row.amount ∧
      (QuotaScope.device row.deviceId).HasRoom policy db row.amount)
    (h : resumeOrReplay policy owner db row now ids = .error e) : e.forQuota = false := by
  simp only [resumeOrReplay, bind_error] at h
  rcases h with haborted | ⟨_, -, h⟩
  · unfold raiseIfAborted at haborted
    rcases hopen with hstate | hstate <;> simp [hstate] at haborted
  · rw [if_neg (by rcases hopen with hstate | hstate <;> simp [hstate])] at h
    simp only [bind_error] at h
    rcases h with hresume | ⟨_, -, hpure⟩
    · exact resumePlan_unrefused hroom hresume
    · cases hpure

/-- A ready request is not refused for its size. -/
lemma prepare_unrefused (hready : Ready policy db m)
    (h : prepare policy owner db m now ids graphOk = .error e) : e.forQuota = false := by
  obtain ⟨row, hfound, hopen, hroom⟩ := hready
  have hfree : activeReservation db row.id = none → QuotaScope.agent.HasRoom policy db row.amount ∧
      (QuotaScope.device row.deviceId).HasRoom policy db row.amount := by
    intro hnone
    rcases hroom with ⟨r, hr, hadmission, hactive⟩ | hroom
    · have hfind := List.find?_eq_none.mp hnone r (mem_admissionReservations.mp hr).1
      simp [hadmission, hactive] at hfind
    · exact hroom
  unfold prepare at h
  split at h
  · rename_i existing hkey
    obtain rfl : existing = row := by
      rw [admissionOf, hkey, Option.some_or] at hfound
      exact Option.some.inj hfound
    simp only [bind_error] at h
    rcases h with hexact | ⟨_, -, h⟩
    · obtain ⟨-, rfl⟩ := require_error.mp hexact
      rfl
    · exact resumeOrReplay_unrefused hopen hfree h
  · rename_i hkey
    rw [admissionOf, hkey, Option.none_or] at hfound
    rw [hfound] at h
    simp only [bind_error] at h
    rcases h with hexact | ⟨_, -, h⟩
    · obtain ⟨-, rfl⟩ := require_error.mp hexact
      rfl
    · exact resumeOrReplay_unrefused hopen hfree h

end Unrefused

def Untouched (m : AdmissionManifest) (call : Call) : Prop :=
  call = .accept m ∨ ∃ now, call = .acceptLoop m now

/-- The request has its reservation, or can have it again. -/
def Secured (policy : SpoolCapacityPolicy) (m : AdmissionManifest) (db : Db) (call : Call) : Prop :=
  (∃ now, call = .acceptLoop m now ∧ Ready policy db m) ∨
    ∃ now plan stage, call = .accepting m now plan stage ∧ Secures db m plan

section Steps

variable {inp : StepInput} {call call' : Call}

lemma KeepsSpool.secured (h : KeepsSpool db db') (hcall : Secured policy m db call) :
    Secured policy m db' call := by
  rcases hcall with ⟨now, rfl, hready⟩ | ⟨now, plan, stage, rfl, hplan⟩
  · exact .inl ⟨now, rfl, h.ready hready⟩
  · exact .inr ⟨now, plan, stage, rfl, h.secures hplan⟩

lemma DurableSpoolAdmissionStore.StageTx.keepsSpool {stage : Stage}
    (htx : StageTx inp db plan now db' (.next stage)) : KeepsSpool db db' := by
  cases htx <;> exact .of_eq rfl rfl

/-- A call that goes on loses its reservation only to take it again. -/
lemma callStep_secured (hm : ScopeOk m) (hwithin : WithinQuota policy db) (hsized : Sized db)
    (hcall : Secured policy m db call) (hsteps : CallSteps inp db call (db', .inl call')) :
    Secured policy m db' call' := by
  rcases hcall with ⟨now, rfl, -⟩ | ⟨now, plan, stage, rfl, hplan⟩
  · cases hsteps with
    | prepares hok => exact .inr ⟨now, _, _, rfl, (prepare_prepares hok).secures _ rfl hm⟩
  · cases hsteps with
    | moves => exact .inr ⟨now, plan, _, rfl, hplan⟩
    | restarts => exact .inl ⟨now, rfl, hplan.ready⟩
    | writes htx => exact .inr ⟨now, plan, _, rfl, htx.keepsSpool.secures hplan⟩
    | removes htx =>
      cases htx with
      | removeMissing hok => exact .inl ⟨now, rfl, removeMissing_ready hplan hwithin hsized hok⟩

/-- The first write of a call is the one that secures it. -/
lemma callStep_untouched (hm : ScopeOk m) (hcall : Untouched m call)
    (hsteps : CallSteps inp db call (db', .inl call')) :
    db' = db ∧ Untouched m call' ∨ Secured policy m db' call' := by
  rcases hcall with rfl | ⟨now, rfl⟩
  · cases hsteps with
    | begins => exact .inl ⟨rfl, .inr ⟨_, rfl⟩⟩
  · cases hsteps with
    | prepares hok => exact .inr (.inr ⟨now, _, _, rfl, (prepare_prepares hok).secures _ rfl hm⟩)

end Steps

/-- No other operation takes the reservation of an open call. -/
lemma secured_step {call : Call} {e : AgentEvent} (hs : QuotaInv policy s) (hm : ScopeOk m)
    (hcall : s.call = some call) (hsecured : Secured policy m s.db call)
    (halive : (s.step e).1.call ≠ none) :
    ∃ call', (s.step e).1.call = some call' ∧ Secured policy m (s.step e).1.db call' := by
  rcases agentStep_cases hs.agent e with ⟨inp, _, next, rfl, hcall', hstep, hnext⟩ |
    ⟨hkeeps, -, hsame⟩
  · obtain rfl : call = _ := Option.some.inj (hcall.symm.trans hcall')
    cases next with
    | inl call' => exact ⟨call', hnext, callStep_secured hm hs.within hs.sized hsecured hstep⟩
    | inr => exact absurd hnext halive
  · rcases hsame (by rw [hcall]; rfl) with hsame | hnone
    · exact ⟨call, hsame.trans hcall, hkeeps.secured hsecured⟩
    · exact absurd hnone halive

lemma untouched_step {call : Call} {e : AgentEvent} (hs : QuotaInv policy s) (hm : ScopeOk m)
    (hcall : s.call = some call) (huntouched : Untouched m call)
    (halive : (s.step e).1.call ≠ none) :
    ∃ call', (s.step e).1.call = some call' ∧
      (CallQuiet s e ∧ Untouched m call' ∨ Secured policy m (s.step e).1.db call') := by
  rcases agentStep_cases hs.agent e with ⟨inp, _, next, rfl, hcall', hstep, hnext⟩ |
    ⟨-, hquiet, hsame⟩
  · obtain rfl : call = _ := Option.some.inj (hcall.symm.trans hcall')
    cases next with
    | inl call' => exact ⟨call', hnext, callStep_untouched hm huntouched hstep⟩
    | inr => exact absurd hnext halive
  · rcases hsame (by rw [hcall]; rfl) with hsame | hnone
    · exact ⟨call, hsame.trans hcall, .inl ⟨hquiet, huntouched⟩⟩
    · exact absurd hnone halive

section Runs

variable {es : List AgentEvent}

lemma secured_run (hm : ScopeOk m) {call : Call} (hs : QuotaInv policy s)
    (hcall : s.call = some call) (hsecured : Secured policy m s.db call)
    (hes : ∀ e ∈ es, e.Configured policy)
    (halive : Always (fun s => s.call ≠ none) AgentState.step s es) :
    ∃ call', (final AgentState.step s es).call = some call' ∧
      Secured policy m (final AgentState.step s es).db call' := by
  induction es generalizing s call with
  | nil => exact ⟨call, hcall, hsecured⟩
  | cons e es ih =>
    obtain ⟨-, halive⟩ := always_cons.mp halive
    obtain ⟨call', hcall', hsecured'⟩ := secured_step hs hm hcall hsecured halive.start
    exact ih (quotaInv_step s e hs (hes e List.mem_cons_self)) hcall' hsecured'
      (fun e he => hes e (List.mem_cons_of_mem _ he)) halive

/-- Until the request is secured, its call has written nothing. -/
lemma request_run (hm : ScopeOk m) {call : Call} (hs : QuotaInv policy s)
    (hcall : s.call = some call) (huntouched : Untouched m call)
    (hes : ∀ e ∈ es, e.Configured policy)
    (halive : Always (fun s => s.call ≠ none) AgentState.step s es) :
    RunOk CallQuiet AgentState.step s es ∨
      ∃ call', (final AgentState.step s es).call = some call' ∧
        Secured policy m (final AgentState.step s es).db call' := by
  induction es generalizing s call with
  | nil => exact .inl trivial
  | cons e es ih =>
    obtain ⟨-, halive⟩ := always_cons.mp halive
    have hs' := quotaInv_step s e hs (hes e List.mem_cons_self)
    have hes' : ∀ e ∈ es, e.Configured policy := fun e he => hes e (List.mem_cons_of_mem _ he)
    obtain ⟨call', hcall', ⟨hquiet, huntouched'⟩ | hsecured⟩ :=
      untouched_step hs hm hcall huntouched halive.start
    · rcases ih hs' hcall' huntouched' hes' halive with hrun | hrun
      · exact .inl ⟨hquiet, hrun⟩
      · exact .inr hrun
    · exact .inr (secured_run (s := (s.step e).1) hm hs' hcall' hsecured hes' halive)

end Runs

/-- A quota error is raised by `prepare`, and rolled back. -/
lemma acceptLoop_refused {inp : StepInput} {e : SpoolError}
    (hcall : s.call = some (.acceptLoop m now)) (he : e.forQuota = true)
    (hout : (s.step (.advance inp)).2 = .outcome (.raised e)) :
    prepare inp.env.policy inp.env.owner s.db m now inp.ids inp.graphOk = .error e ∧
      CallQuiet s (.advance inp) := by
  obtain ⟨e', htr, hprepare | rfl⟩ | ⟨db1, prepared, -, htr | htr⟩ := transact_cases inp.commit s.db
    (prepare inp.env.policy inp.env.owner s.db m now inp.ids inp.graphOk)
  all_goals simp only [CallQuiet, AgentState.step, hcall, callStep, htr] at hout ⊢
  · cases hout
    exact ⟨hprepare, rfl⟩
  · cases hout
    cases he
  · cases prepared <;> cases hout
  · cases hout
    cases he

lemma quotaInv_run {es : List AgentEvent} (hes : ∀ e ∈ es, e.Configured policy) :
    QuotaInv policy (final AgentState.step ({} : AgentState) es) :=
  final_invariant quotaInv_step (quotaInv_empty policy) (runOk_of_forall hes)

/-- Between a request and its quota error the call has written nothing. -/
lemma refused_quiet {before during : List AgentEvent} {inp : StepInput} {e : SpoolError}
    (hbefore : ∀ e ∈ before, e.Configured policy) (hduring : ∀ e ∈ during, e.Configured policy)
    (hinp : inp.env.policy = policy) (hm : ScopeOk m)
    (hidle : (final AgentState.step ({} : AgentState) before).call = none)
    (halive : Always (fun s => s.call ≠ none) AgentState.step
      (final AgentState.step ({} : AgentState) (before ++ [.accept m])) during)
    (hcall : (final AgentState.step ({} : AgentState) (before ++ .accept m :: during)).call =
      some (.acceptLoop m now)) (he : e.forQuota = true)
    (hout : ((final AgentState.step ({} : AgentState) (before ++ .accept m :: during)).step
      (.advance inp)).2 = .outcome (.raised e)) :
    RunOk CallQuiet AgentState.step (final AgentState.step ({} : AgentState) before)
      (.accept m :: (during ++ [.advance inp])) := by
  have hs := quotaInv_run hbefore
  rw [final_append, final_cons] at hcall hout
  rw [final_append, final_cons, final_nil] at halive
  generalize final AgentState.step ({} : AgentState) before = s at *
  have hs' := quotaInv_step s (.accept m) hs trivial
  have hstart : (s.step (.accept m)).1.call = some (.accept m) := by
    simp only [AgentState.step, hidle]
    rfl
  obtain ⟨hprepare, hlast⟩ := acceptLoop_refused hcall he hout
  refine ⟨trivial, runOk_append.mpr ⟨?_, hlast, trivial⟩⟩
  rcases request_run hm hs' hstart (.inl rfl) hduring halive with hrun | ⟨call, hcall', hsecured⟩
  · exact hrun
  · -- a call with a plan behind it cannot be refused
    obtain rfl : call = _ := Option.some.inj (hcall'.symm.trans hcall)
    obtain ⟨_, -, hready⟩ | ⟨_, _, _, hcontra, -⟩ := hsecured
    · rw [hinp] at hprepare
      rw [prepare_unrefused hready hprepare] at he
      cases he
    · cases hcontra

/-- The reservations of admissions stay within the limits, and a refused request has written
nothing. -/
theorem spool_quota_kept (policy : SpoolCapacityPolicy) (es : List AgentEvent)
    (hes : ∀ e ∈ es, e.Configured policy) :
    let db := (final AgentState.step ({} : AgentState) es).db
    let counted := (admissionReservations db).filter (fun r => r.state.active)
    (∀ (scope : QuotaScope) (q : Quantity), scope.used db q ≤ scope.limit policy q) ∧
    (counted.Pairwise (fun r r' => r.admissionId ≠ r'.admissionId) ∧
      ∀ r ∈ counted, ∃ a ∈ db.admissions.rows, r.For a) ∧
    ∀ (before during : List AgentEvent) (m : AdmissionManifest) (inp : StepInput) (now : Time)
      (e : SpoolError), es = before ++ .accept m :: (during ++ [.advance inp]) → ScopeOk m →
      (final AgentState.step ({} : AgentState) before).call = none →
      Always (fun s => s.call ≠ none) AgentState.step
        (final AgentState.step ({} : AgentState) (before ++ [.accept m])) during →
      (final AgentState.step ({} : AgentState) (before ++ .accept m :: during)).call =
        some (.acceptLoop m now) →
      ((final AgentState.step ({} : AgentState) (before ++ .accept m :: during)).step
        (.advance inp)).2 = .outcome (.raised e) →
      e.forQuota = true →
      RunOk CallQuiet AgentState.step (final AgentState.step ({} : AgentState) before)
        (.accept m :: (during ++ [.advance inp])) := by
  intro db counted
  have hinv := quotaInv_run hes
  refine ⟨hinv.within, ⟨counted_once db, fun r hr => hinv.sized r (List.mem_filter.mp hr).1⟩, ?_⟩
  intro before during m inp now e hcut hm hidle halive hcall hout he
  have hmem : ∀ x, x ∈ before ∨ x ∈ during ∨ x = .advance inp → x ∈ es := by
    intro x hx
    simp only [hcut, List.mem_append, List.mem_cons]
    tauto
  exact refused_quiet (fun x hx => hes x (hmem x (.inl hx)))
    (fun x hx => hes x (hmem x (.inr (.inl hx)))) (hes _ (hmem _ (.inr (.inr rfl)))) hm hidle halive
    hcall he hout

def singleSlot : SpoolCapacityPolicy := { deviceQueueLimit := 1 }

def singleSlotInput : StepInput :=
  { sampleInput with env := { sampleInput.env with policy := singleSlot } }

def secondManifest : AdmissionManifest :=
  { sampleManifest with idempotencyKey := "second", originSubmissionKey := "second" }

def firstAdmission : List AgentEvent :=
  .accept sampleManifest :: List.replicate 9 (.advance singleSlotInput)

/-- The only slot of a Device is taken, so the next document is refused. -/
theorem second_document_refused :
    let first := final AgentState.step ({} : AgentState) firstAdmission
    let checked := ((first.step (.accept secondManifest)).1.step (.advance singleSlotInput)).1
    (checked.step (.advance singleSlotInput)).2 =
      .outcome (.raised (.admission .queueFull ⟨some "printer", none⟩)) ∧
    (checked.step (.advance singleSlotInput)).1.db = checked.db ∧
    (QuotaScope.device "printer").used first.db .queueSlots ≤ 1 := by
  have hfirst : ∀ e ∈ firstAdmission, e.Configured singleSlot := by decide
  have hall : ∀ e ∈ firstAdmission ++ .accept secondManifest ::
      ([.advance singleSlotInput] ++ [.advance singleSlotInput]), e.Configured singleSlot := by decide
  have halive : Always (fun s => s.call ≠ none) AgentState.step (final AgentState.step
      ({} : AgentState) (firstAdmission ++ [.accept secondManifest])) [.advance singleSlotInput] := by
    rw [always_cons]
    refine ⟨by decide +kernel, fun earlier later heq => ?_⟩
    obtain ⟨rfl, -⟩ := List.append_eq_nil_iff.mp heq.symm
    decide +kernel
  obtain ⟨-, -, hquiet⟩ := spool_quota_kept singleSlot _ hall
  have hrun := hquiet firstAdmission [.advance singleSlotInput] secondManifest singleSlotInput 0
    (.admission .queueFull ⟨some "printer", none⟩) rfl (fun _ => ⟨rfl, rfl⟩) (by decide +kernel)
    halive (by decide +kernel) (by decide +kernel) rfl
  obtain ⟨-, -, hlast, -⟩ := hrun
  exact ⟨by decide +kernel, hlast,
    (spool_quota_kept singleSlot firstAdmission hfirst).1 (.device "printer") .queueSlots⟩

end Inari.Agent
