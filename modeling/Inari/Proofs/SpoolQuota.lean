import Inari.Lib.Usage
import Inari.Proofs.Capacity
import Inari.Proofs.Retries

/-!
# The quota of the spool

Every reservation that comes into force was checked against the quota in the transaction that
inserts it.
-/

namespace Inari.Agent

open Lib SqliteExecutionLedger DurableSpoolAdmissionStore SpoolAdmissionLedger

inductive QuotaScope
  | agent
  | device (deviceId : String)

namespace QuotaScope

def covers : QuotaScope → ReservationRow → Bool
  | .agent, _ => true
  | .device deviceId, r => r.deviceId == deviceId

def limit (policy : SpoolCapacityPolicy) : QuotaScope → Quantity → Nat
  | .agent, .queueSlots => policy.agentQueueLimit
  | .agent, .originalBytes => policy.agentOriginalLimit
  | .agent, .persistentBytes => policy.agentPersistentLimit
  | .device _, .queueSlots => policy.deviceQueueLimit
  | .device _, .originalBytes => policy.deviceOriginalLimit
  | .device _, .persistentBytes => policy.devicePersistentLimit

def counts (scope : QuotaScope) (r : ReservationRow) : Bool := scope.covers r && r.state.active

/-- What the reservations of admissions use that are held or committed. -/
def used (scope : QuotaScope) (db : Db) (q : Quantity) : Nat :=
  Lib.used (admissionReservations db) scope.counts q.of

def HasRoom (scope : QuotaScope) (policy : SpoolCapacityPolicy) (db : Db)
    (amount : Quantity → Nat) : Prop :=
  ∀ q, scope.used db q + amount q ≤ scope.limit policy q

end QuotaScope

def amounts (originalBytes persistentBytes : Nat) : Quantity → Nat
  | .queueSlots => 1
  | .originalBytes => originalBytes
  | .persistentBytes => persistentBytes

variable {policy : SpoolCapacityPolicy} {db db' : Db} {scope : QuotaScope} {now : Time}

/-- Execution reservations count for nothing in the sums of `assert_quota`. -/
lemma quota_used_eq (scope : QuotaScope) (db : Db) (q : Quantity) :
    scope.used db q = Lib.used db.reservations.rows scope.counts q.of := by
  rw [QuotaScope.used, admissionReservations, used_filter]
  refine used_congr (fun r hr => ?_)
  cases hkind : r.reservationKind with
  | admission => simp
  | executionTemp => simp [quantity_executionTemp hr hkind]

lemma activeTotal_agent (db : Db) (q : Quantity) :
    activeTotal db.reservations.rows q.of = QuotaScope.agent.used db q := by
  rw [quota_used_eq]
  rfl

lemma activeTotal_device (db : Db) (deviceId : String) (q : Quantity) :
    activeTotal (ofDevice db.reservations.rows deviceId) q.of =
      (QuotaScope.device deviceId).used db q := by
  rw [quota_used_eq]
  change Lib.used (db.reservations.rows.filter _) _ _ = _
  rw [used_filter]
  refine used_congr (fun r _ => ?_)
  rw [QuotaScope.counts, QuotaScope.covers, Bool.and_comm]

lemma assertQuota_ok {deviceId : String} {originalBytes persistentBytes : Nat} :
    assertQuota policy db deviceId originalBytes persistentBytes = .ok () ↔
      QuotaScope.agent.HasRoom policy db (amounts originalBytes persistentBytes) ∧
      (QuotaScope.device deviceId).HasRoom policy db (amounts originalBytes persistentBytes) := by
  have hagent := activeTotal_agent db
  have hdevice := activeTotal_device db deviceId
  simp only [assertQuota, bind_ok, require_ok, Bool.and_eq_true, decide_eq_true_eq]
  constructor
  · rintro ⟨_, ⟨hdeviceSlots, hagentSlots⟩, ⟨⟨hdeviceOriginal, hagentOriginal⟩,
      hdevicePersistent⟩, hagentPersistent⟩
    constructor
    · intro q
      rw [← hagent]
      cases q with
      | queueSlots => exact hagentSlots
      | originalBytes => exact hagentOriginal
      | persistentBytes => exact hagentPersistent
    · intro q
      rw [← hdevice]
      cases q with
      | queueSlots => exact hdeviceSlots
      | originalBytes => exact hdeviceOriginal
      | persistentBytes => exact hdevicePersistent
  · rintro ⟨hroom, hroomDevice⟩
    have hroom : ∀ q, activeTotal db.reservations.rows q.of +
        amounts originalBytes persistentBytes q ≤ QuotaScope.agent.limit policy q := fun q =>
      hagent q ▸ hroom q
    have hroomDevice : ∀ q, activeTotal (ofDevice db.reservations.rows deviceId) q.of +
        amounts originalBytes persistentBytes q ≤ (QuotaScope.device deviceId).limit policy q :=
      fun q => hdevice q ▸ hroomDevice q
    exact ⟨(), ⟨hroomDevice .queueSlots, hroom .queueSlots⟩,
      ⟨⟨hroomDevice .originalBytes, hroom .originalBytes⟩, hroomDevice .persistentBytes⟩,
      hroom .persistentBytes⟩

/-- The bytes that `persistent_bytes` counts for a document of an operation. -/
def spoolBytes (originalBytes : Nat) (operation : String) : Nat :=
  originalBytes + (if operation = "receipt_image" then receiptDerivedReserve else 0) +
    persistentOverhead

lemma persistentBytes_eq (m : AdmissionManifest) :
    persistentBytes m = spoolBytes m.originalSizeBytes m.operation := rfl

def AdmissionRow.amount (a : AdmissionRow) : Quantity → Nat :=
  amounts a.originalSizeBytes (spoolBytes a.originalSizeBytes a.operation)

structure ReservationRow.For (r : ReservationRow) (a : AdmissionRow) : Prop where
  admissionId : r.admissionId = some a.id
  deviceId : r.deviceId = a.deviceId
  amount : ∀ q : Quantity, q.of r = a.amount q

/-- The columns of an admission that no transaction changes. -/
structure AdmissionRow.Same (a a' : AdmissionRow) : Prop where
  id : a'.id = a.id
  deviceId : a'.deviceId = a.deviceId
  originalSizeBytes : a'.originalSizeBytes = a.originalSizeBytes
  operation : a'.operation = a.operation
  idempotencyKey : a'.idempotencyKey = a.idempotencyKey
  originSubmissionKey : a'.originSubmissionKey = a.originSubmissionKey
  scope : a'.scope = a.scope

/-- A reservation that stays: it does not come into force. -/
structure ReservationRow.Kept (r r' : ReservationRow) : Prop where
  id : r'.id = r.id
  kind : r'.reservationKind = r.reservationKind
  admissionId : r'.admissionId = r.admissionId
  deviceId : r'.deviceId = r.deviceId
  amount : ∀ q : Quantity, q.of r' = q.of r
  active : r'.state.active = true → r.state.active = true

lemma AdmissionRow.Same.refl (a : AdmissionRow) : a.Same a := ⟨rfl, rfl, rfl, rfl, rfl, rfl, rfl⟩

lemma ReservationRow.Kept.refl (r : ReservationRow) : r.Kept r :=
  ⟨rfl, rfl, rfl, rfl, fun _ => rfl, fun h => h⟩

/-- A transaction that brings no reservation into force. -/
structure Settles (db db' : Db) : Prop where
  admissions : List.Forall₂ AdmissionRow.Same db.admissions.rows db'.admissions.rows
  reservations : List.Forall₂ ReservationRow.Kept db.reservations.rows db'.reservations.rows

variable {α : Type} {row : AdmissionRow} {owner : SpoolOwner} {m : AdmissionManifest}
  {ids : PlanIds}

lemma forall₂_updated {R : α → α → Prop} {rows rows' : List α} {p : α → Bool} {f : α → α}
    (hR : ∀ r, R r r) (h : rows' = Table.updated rows p f) (hf : ∀ r ∈ rows, p r = true → R r (f r)) :
    List.Forall₂ R rows rows' := by
  rw [h, Table.updated, List.forall₂_map_right_iff, List.forall₂_same]
  intro r hr
  by_cases hp : p r = true
  · rw [if_pos hp]
    exact hf r hr hp
  · rw [if_neg hp]
    exact hR r

lemma same_admissions (h : db'.admissions = db.admissions) :
    List.Forall₂ AdmissionRow.Same db.admissions.rows db'.admissions.rows := by
  rw [h]
  exact List.forall₂_same.mpr (fun a _ => .refl a)

lemma kept_reservations (h : db'.reservations = db.reservations) :
    List.Forall₂ ReservationRow.Kept db.reservations.rows db'.reservations.rows := by
  rw [h]
  exact List.forall₂_same.mpr (fun r _ => .refl r)

lemma Settles.of_eq (hadm : db'.admissions = db.admissions)
    (hres : db'.reservations = db.reservations) : Settles db db' :=
  ⟨same_admissions hadm, kept_reservations hres⟩

lemma Settles.refl (db : Db) : Settles db db := .of_eq rfl rfl

lemma releasedRow_kept (now : Time) (r : ReservationRow) : r.Kept (releasedRow now r) :=
  ⟨rfl, rfl, rfl, rfl, fun q => by cases q <;> rfl, nofun⟩

lemma releaseWhere_settles {p : ReservationRow → Bool} (h : releaseWhere db p now = .ok db') :
    Settles db db' := by
  obtain ⟨reservations, rfl, hres⟩ := releaseWhere_eq h
  exact ⟨same_admissions rfl, forall₂_updated .refl hres (fun r _ _ => releasedRow_kept now r)⟩

lemma removeMissingArtifact_settles {plan : AdmissionPlan} {storageRef : String}
    (h : removeMissingArtifact db plan storageRef now = .ok db') : Settles db db' := by
  have hreleased := releaseWhere_settles h
  exact ⟨hreleased.admissions, hreleased.reservations⟩

lemma abortPreaccept_settles {x : String} {code : AbortCode}
    (h : abortPreaccept db x code now = .ok db') : Settles db db' := by
  simp only [abortPreaccept, bind_ok, pure_ok] at h
  obtain ⟨db1, hrel, admissions, hadm, rfl⟩ := h
  have hreleased := releaseWhere_settles hrel
  have hadmissions : db1.admissions = db.admissions := by
    obtain ⟨reservations, rfl, -⟩ := releaseWhere_eq hrel
    rfl
  refine ⟨?_, hreleased.reservations⟩
  rw [hadmissions] at hadm
  exact forall₂_updated .refl (Table.update_rows hadm)
    (fun a _ _ => ⟨rfl, rfl, rfl, rfl, rfl, rfl, rfl⟩)

lemma DurableSpoolAdmissionStore.PublishesJob.settles {plan : AdmissionPlan}
    (h : PublishesJob db db' plan row now) : Settles db db' := by
  refine ⟨forall₂_updated .refl h.admissions (fun a _ _ => ⟨rfl, rfl, rfl, rfl, rfl, rfl, rfl⟩),
    forall₂_updated .refl h.reservations (fun r hr hid => ?_)⟩
  refine ⟨rfl, rfl, rfl, rfl, fun q => by cases q <;> rfl, fun _ => ?_⟩
  have hafter := db'.reservations.check_of_mem (Table.mem_written h.reservations hr hid)
  have hbefore := db.reservations.check_of_mem hr
  simp only [ReservationRow.spec, ReservationRow.check, Bool.and_eq_true, beq_iff_eq] at hafter hbefore
  rw [hbefore.1.2]
  exact hafter.1.2.symm

lemma finalize_settles {env : AdmissionEnv} {plan : AdmissionPlan} {a : AdmissionAccepted}
    (h : finalize env db plan now = .ok (db', a)) : Settles db db' := by
  obtain ⟨row, -, -, ⟨rfl, -⟩ | ⟨hpub, -⟩⟩ := finalize_cases h
  · exact .refl _
  · exact hpub.settles

lemma failAcceptedJobWithoutContent_settles {job : PrintJobRow} {artifact : Option ArtifactRow}
    (h : failAcceptedJobWithoutContent db job artifact now = .ok db') : Settles db db' := by
  simp only [failAcceptedJobWithoutContent, bind_ok] at h
  obtain ⟨jobs, -, h⟩ := h
  split at h
  · rw [pure_ok] at h
    exact h ▸ .refl db
  · simp only [bind_ok, pure_ok] at h
    obtain ⟨⟨db1, n⟩, hev, artifacts, -, jobKeys, -, reservations, hres, rfl⟩ := h
    obtain ⟨events, rfl, -, -⟩ := insertEvent_eq hev
    exact ⟨same_admissions rfl,
      forall₂_updated .refl (Table.update_rows hres) (fun r _ _ => releasedRow_kept now r)⟩

structure Holds (policy : SpoolCapacityPolicy) (db db' : Db) (held : ReservationRow)
    (a : AdmissionRow) : Prop where
  reservations : db'.reservations.rows = db.reservations.rows ++ [held]
  admissions : db'.admissions.rows = db.admissions.rows ∧ a ∈ db.admissions.rows ∨
    db'.admissions.rows = db.admissions.rows ++ [a]
  kind : held.reservationKind = .admission
  made : held.For a
  active : held.state.active = true
  agent : QuotaScope.agent.HasRoom policy db a.amount
  device : (QuotaScope.device a.deviceId).HasRoom policy db a.amount

structure Secures (db : Db) (m : AdmissionManifest) (plan : AdmissionPlan) : Prop where
  found : ∃ row, admissionOf db m = some row ∧ (row.state = .staging ∨ row.state = .finalizing) ∧
    row.id = plan.admissionId
  reservation : ∃ r ∈ admissionReservations db, r.id = plan.reservationId ∧
    r.admissionId = some plan.admissionId ∧ r.state.active = true

structure Prepares (policy : SpoolCapacityPolicy) (db db' : Db) (m : AdmissionManifest)
    (prepared : Prepared) : Prop where
  effect : db' = db ∨ ∃ held a, Holds policy db db' held a
  secures : ∀ plan, prepared = .plan plan → ScopeOk m → Secures db' m plan

lemma mem_admissionReservations {r : ReservationRow} :
    r ∈ admissionReservations db ↔ r ∈ db.reservations.rows ∧ r.reservationKind = .admission := by
  rw [admissionReservations, List.mem_filter, beq_iff_eq]

lemma mem_held {held : ReservationRow} {rows : List ReservationRow}
    (hrows : db.reservations.rows = rows ++ [held]) (hkind : held.reservationKind = .admission) :
    held ∈ admissionReservations db := by
  rw [mem_admissionReservations, hrows]
  exact ⟨List.mem_append_right _ (List.mem_singleton_self _), hkind⟩

lemma holdReservation_eq {plan : AdmissionPlan} {bytes : Nat}
    (h : holdReservation owner db plan bytes now = .ok db') :
    ∃ reservations held, db' = { db with reservations := reservations } ∧
      reservations.rows = db.reservations.rows ++ [held] ∧ held.id = plan.reservationId ∧
      held.reservationKind = .admission ∧ held.admissionId = some plan.admissionId ∧
      held.deviceId = plan.manifest.deviceId ∧ held.state.active = true ∧
      ∀ q : Quantity, q.of held = amounts plan.manifest.originalSizeBytes bytes q := by
  simp only [holdReservation, bind_ok, pure_ok] at h
  obtain ⟨reservations, hins, rfl⟩ := h
  exact ⟨reservations, _, rfl, Table.insert_rows hins, rfl, rfl, rfl, rfl, rfl,
    fun q => by cases q <;> rfl⟩

lemma inScope_stagingRow {x jobId : String} (hm : ScopeOk m) :
    inScope m (stagingRow x jobId m now) = true := by
  unfold inScope stagingRow
  cases hkind : m.scopeKind with
  | pairedClient => simp
  | deviceManager => simp [hm hkind]

lemma admissionOf_stagingRow {x jobId : String} (hm : ScopeOk m)
    (hkey : findIdempotency db m = none)
    (hadm : db'.admissions.rows = db.admissions.rows ++ [stagingRow x jobId m now]) :
    admissionOf db' m = some (stagingRow x jobId m now) := by
  have hold : db.admissions.rows.find?
      (fun r => inScope m r && r.idempotencyKey == m.idempotencyKey) = none := hkey
  have hfind : findIdempotency db' m = some (stagingRow x jobId m now) := by
    rw [findIdempotency, Table.first, hadm, List.find?_append, hold, Option.none_or,
      List.find?_cons_of_pos]
    rw [inScope_stagingRow hm]
    exact beq_self_eq_true _
  rw [admissionOf, hfind]
  rfl

theorem prepare_prepares {graphOk : Bool} {prepared : Prepared}
    (h : prepare policy owner db m now ids graphOk = .ok (db', prepared)) :
    Prepares policy db db' m prepared := by
  cases prepare_preparing h with
  | replayed => exact ⟨.inl rfl, fun plan hplan => by cases hplan⟩
  | resumed row proof active artifactId hrow hopen hactive =>
    obtain ⟨hmem, hadmission, hactive⟩ := hactive
    refine ⟨.inl rfl, ?_⟩
    rintro _ ⟨⟩ -
    have hkind := admissionKind_of_admissionId hmem hadmission
    exact ⟨⟨row, hrow.found, hopen, rfl⟩, active, mem_admissionReservations.mpr ⟨hmem, hkind⟩, rfl,
      hadmission, hactive⟩
  | held row proof plan _ hrow hopen hplan hquota hhold =>
    rw [persistentBytes_eq] at hquota hhold
    obtain ⟨reservations, held, rfl, hrows, hid, hkind, hadmission, hdeviceId, hactive, hamount⟩ :=
      holdReservation_eq hhold
    rw [hplan] at hquota hadmission hdeviceId hamount
    obtain ⟨hagent, hdevice⟩ := assertQuota_ok.mp hquota
    refine ⟨.inr ⟨held, row, hrows, .inl ⟨rfl, hrow.mem⟩, hkind, ⟨hadmission, hdeviceId, hamount⟩,
      hactive, hagent, hdevice⟩, ?_⟩
    rintro _ ⟨⟩ -
    refine ⟨⟨row, hrow.found, hopen, by rw [hplan]⟩, held, mem_held hrows hkind, hid, ?_, hactive⟩
    rw [hplan]
    exact hadmission
  | created plan admissions proofs _ hkey _ hmanifest hadm hquota hhold =>
    rw [persistentBytes_eq] at hquota hhold
    obtain ⟨reservations, held, rfl, hrows, hid, hkind, hadmission, hdeviceId, hactive, hamount⟩ :=
      holdReservation_eq hhold
    rw [hmanifest] at hdeviceId hamount
    obtain ⟨hagent, hdevice⟩ := assertQuota_ok.mp hquota
    refine ⟨.inr ⟨held, _, hrows, .inr hadm, hkind, ⟨hadmission, hdeviceId, hamount⟩, hactive,
      hagent, hdevice⟩, ?_⟩
    rintro _ ⟨⟩ hm
    exact ⟨⟨_, admissionOf_stagingRow hm hkey hadm, .inl rfl, rfl⟩, held, mem_held hrows hkind, hid,
      hadmission, hactive⟩

def QuotaStep (policy : SpoolCapacityPolicy) (db db' : Db) : Prop :=
  Settles db db' ∨ ∃ held a, Holds policy db db' held a

variable {inp : StepInput} {plan : AdmissionPlan} {call : Call}

lemma DurableSpoolAdmissionStore.StageTx.settles {result : StageResult}
    (htx : StageTx inp db plan now db' result) : Settles db db' := by
  cases htx with
  | dataKey | recordStaged => exact .of_eq rfl rfl
  | finalize hok => exact finalize_settles hok
  | removeMissing hok => exact removeMissingArtifact_settles hok
  | abort hok => exact abortPreaccept_settles hok
  | release hok => exact releaseWhere_settles hok

lemma DurableSpoolAdmissionStore.CallTx.quota (htx : CallTx inp db call db') :
    QuotaStep inp.env.policy db db' := by
  cases htx with
  | prepare hok =>
    rcases (prepare_prepares hok).effect with rfl | hholds
    · exact .inl (.refl _)
    · exact .inr hholds
  | accepting htx | reconciling htx => exact .inl htx.settles
  | release hok => exact .inl (releaseWhere_settles hok)
  | abort hok => exact .inl (abortPreaccept_settles hok)
  | fail hok => exact .inl (failAcceptedJobWithoutContent_settles hok)

theorem DurableSpoolAdmissionStore.CallSteps.quota {next : Call ⊕ Outcome}
    (hsteps : CallSteps inp db call (db', next)) : QuotaStep inp.env.policy db db' := by
  rcases hsteps.effect with rfl | htx
  · exact .inl (.refl _)
  · exact htx.quota

end Inari.Agent
