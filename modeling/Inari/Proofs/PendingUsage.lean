import Inari.Controller.Admissions
import Inari.Lib.Usage
import Inari.Proofs.CommandDelivery
import Inari.Proofs.WorkLifecycle

/-!
# The quota of pending Managed Work

What a check found stays true until the work is inserted, since other transactions need a lock to
add to the scope.
-/

namespace Inari.Controller

open Lib

inductive UsageScope
  | agent (agentId : AgentId)
  | organization (organizationId : OrganizationId)

namespace UsageScope

def covers : UsageScope → ManagedWorkRow → Bool
  | .agent agentId, w => w.agentId == agentId
  | .organization organizationId, w => w.organizationId == organizationId

def workLimit : UsageScope → Nat
  | .agent _ => agentPendingWorkLimit
  | .organization _ => organizationPendingWorkLimit

def byteLimit : UsageScope → Nat
  | .agent _ => agentPendingByteLimit
  | .organization _ => organizationPendingByteLimit

def lockKey (tools : ReplicaTools) : UsageScope → Int
  | .agent agentId => tools.hashtextextended agentId.text
  | .organization organizationId => tools.hashtextextended organizationId.text

def counts (scope : UsageScope) (w : ManagedWorkRow) : Bool := scope.covers w && w.pending

def works (scope : UsageScope) (db : Db) : Nat := used db.works.rows scope.counts (fun _ => 1)

def bytes (scope : UsageScope) (db : Db) : Nat :=
  used db.works.rows scope.counts (fun w => w.payloadBytes)

structure HasRoom (scope : UsageScope) (db : Db) (works bytes : Nat) : Prop where
  works_le : scope.works db + works ≤ scope.workLimit
  bytes_le : scope.bytes db + bytes ≤ scope.byteLimit

end UsageScope

variable {tools : ReplicaTools} {db db' : Db} {scope : UsageScope}

/-- A row that moves stays in its scopes and does not come to wait. -/
structure ManagedWorkRow.Released (w w' : ManagedWorkRow) : Prop where
  agentId : w'.agentId = w.agentId
  organizationId : w'.organizationId = w.organizationId
  payloadBytes : w'.payloadBytes = w.payloadBytes
  pending : w'.pending = true → w.pending = true

lemma ManagedWorkRow.Released.refl (w : ManagedWorkRow) : w.Released w := ⟨rfl, rfl, rfl, id⟩

lemma swept_released (w : ManagedWorkRow) (now : Instant) : w.Released (w.swept now) := by
  unfold ManagedWorkRow.swept
  split
  · exact ⟨rfl, rfl, rfl, fun h => by simp [ManagedWorkRow.pending] at h⟩
  · exact ⟨rfl, rfl, rfl, fun h => by simp [ManagedWorkRow.pending] at h⟩
  · exact ⟨rfl, rfl, rfl, id⟩

lemma observed_released (w : ManagedWorkRow) (signed : SignedAgentStateObservation)
    (now : Instant) : w.Released (w.observed signed now) :=
  ⟨rfl, rfl, rfl, fun h => by simp [ManagedWorkRow.pending, ManagedWorkRow.observed] at h⟩

def Releases (db db' : Db) : Prop :=
  List.Forall₂ ManagedWorkRow.Released db.works.rows db'.works.rows

lemma Releases.of_works (h : db'.works = db.works) : Releases db db' := by
  rw [Releases, h]
  exact List.forall₂_same.mpr (fun w _ => .refl w)

lemma Releases.updated {p : ManagedWorkRow → Bool} {f : ManagedWorkRow → ManagedWorkRow}
    (hworks : db'.works.rows = Table.updated db.works.rows p f)
    (hf : ∀ w ∈ db.works.rows, p w = true → w.Released (f w)) : Releases db db' := by
  rw [Releases, hworks, Table.updated, List.forall₂_map_right_iff, List.forall₂_same]
  intro w hw
  by_cases hp : p w = true
  · rw [if_pos hp]
    exact hf w hw hp
  · rw [if_neg hp]
    exact .refl w

lemma Releases.hasRoom (h : Releases db db') {works bytes : Nat}
    (hroom : scope.HasRoom db works bytes) : scope.HasRoom db' works bytes := by
  have hcounts : ∀ w w' : ManagedWorkRow, w.Released w' → scope.counts w' = true →
      scope.counts w = true := by
    intro w w' hw hcount
    simp only [UsageScope.counts, Bool.and_eq_true] at hcount ⊢
    refine ⟨?_, hw.pending hcount.2⟩
    rw [← hcount.1]
    cases scope with
    | agent => rw [UsageScope.covers, UsageScope.covers, hw.agentId]
    | organization =>
      rw [UsageScope.covers, UsageScope.covers, hw.organizationId]
  have hworks : scope.works db' ≤ scope.works db :=
    used_le_of_forall₂ (h.imp (fun w w' hw hcount => ⟨hcounts w w' hw hcount, le_rfl⟩))
  have hbytes : scope.bytes db' ≤ scope.bytes db :=
    used_le_of_forall₂ (h.imp (fun w w' hw hcount =>
      ⟨hcounts w w' hw hcount, hw.payloadBytes.le⟩))
  exact ⟨(Nat.add_le_add_right hworks _).trans hroom.works_le,
    (Nat.add_le_add_right hbytes _).trans hroom.bytes_le⟩

variable {wire : WireTools} {config : Config} {fleet : Fleet} {agentId : AgentId} {now : Instant}
  {message : AgentPublication} {o : OpenAdmission} {preflight : PreflightRow}
  {a : ManagedWorkAdmission} {session i : Nat}

lemma Change.releases {admits : Prop} {verified : SignedAgentStateObservation → Prop}
    (h : Change wire admits verified db db') (hno : ¬admits) : Releases db db' := by
  cases h with
  | none => exact .of_works rfl
  | preflights => exact .of_works rfl
  | inserted h =>
    simp only [insertCommand, bind_ok, pure_ok, Prod.mk.injEq] at h
    obtain ⟨_, _, _, _, _, _, rfl, _⟩ := h
    exact .of_works rfl
  | published h =>
    simp only [markCommandPublished, bind_ok, pure_ok] at h
    obtain ⟨_, _, rfl⟩ := h
    exact .of_works rfl
  | admitted hadmits => exact absurd hadmits hno
  | @swept choice now _ h =>
    simp only [expireManagedPayloads, bind_ok, pure_ok] at h
    obtain ⟨works, hworks, rfl⟩ := h
    exact .updated (Table.update_rows hworks) (fun w _ _ => swept_released w now)
  | @observed dispatch work signed now _ _ _ hwork _ h =>
    simp only [projectObservation, bind_ok, pure_ok] at h
    obtain ⟨_, _, _, _, replace, _, observations, _, works, hworks, commands, _, rfl⟩ := h
    refine .updated (Table.update_rows hworks) (fun w hw htaken => ?_)
    simp only [Bool.and_eq_true, beq_iff_eq] at htaken
    rw [work_unique hw hwork htaken.2]
    exact observed_released work signed now

lemma applyAnswer_works (h : applyAnswer db agentId message now = .ok db') :
    db'.works = db.works := by
  unfold applyAnswer at h
  split at h
  · simp only [bind_ok, pure_ok] at h
    obtain ⟨_, _, rfl⟩ := h
    rfl
  · cases h
    rfl

lemma recordPublication_releases (wire : WireTools) {envelopes : StateEnvelopes} {key : String}
    {inventoryOk : Bool}
    (h : recordPublication envelopes fleet db agentId key message inventoryOk now = .ok db') :
    Releases db db' := by
  obtain ⟨-, -, ⟨_, _, _, _, _, rfl⟩ | ⟨publications, reconciled, -, -, hreconciled, hanswer⟩⟩ :=
    recordPublication_ok h
  · exact .of_works rfl
  · have hreleases := (reconcileStateObservation_change wire False hreconciled).releases id
    rw [Releases, applyAnswer_works hanswer]
    exact hreleases

theorem transact_releases (service : Tools) (db : Db) {t : Transaction} (ht : t.admits = false) :
    Releases db (transact service db t) := by
  have hno : ¬t.Admits := by
    cases t with
    | request event => cases event <;> simp_all [Transaction.admits, Transaction.Admits, Event.Admits]
    | _ => simp_all [Transaction.admits, Transaction.Admits]
  rcases transact_change service db t with hchange | ⟨_, _, _, _, _, _, rfl, hrecord⟩
  · exact hchange.releases hno
  · exact recordPublication_releases service.wire hrecord

def OpenAdmission.Uses (o : OpenAdmission) (scope : UsageScope) : Prop :=
  scope = .agent o.agentId ∨ scope = .organization o.organizationId

def OpenAdmission.Passed (o : OpenAdmission) (scope : UsageScope) : Prop :=
  match o.phase with
  | .locked | .unknown | .targeted _ _ => False
  | .agentChecked _ _ => scope = .agent o.agentId
  | .checked _ _ => o.Uses scope

lemma OpenAdmission.Passed.uses (h : o.Passed scope) : o.Uses scope := by
  unfold OpenAdmission.Passed at h
  split at h
  · exact h.elim
  · exact h.elim
  · exact h.elim
  · exact .inl h
  · exact h

lemma uses_of_covers (h : scope.covers (o.admission.row preflight) = true) : o.Uses scope := by
  cases scope with
  | agent => exact .inl (congrArg UsageScope.agent (beq_iff_eq.mp h).symm)
  | organization =>
    exact .inr (congrArg UsageScope.organization (beq_iff_eq.mp h).symm)

lemma hasRoom_of_quota {usage : PendingUsage} {payloadBytes : Nat} {name : String}
    (husage : pendingUsage db scope.covers = .ok usage)
    (hquota : usage.enforceQuota payloadBytes scope.workLimit scope.byteLimit name = .ok ()) :
    scope.HasRoom db 1 payloadBytes := by
  simp only [pendingUsage, bind_ok, require_ok, pure_ok] at husage
  obtain ⟨_, _, rfl⟩ := husage
  simp only [PendingUsage.enforceQuota, bind_ok, require_ok, Bool.and_eq_true,
    decide_eq_true_eq] at hquota
  obtain ⟨_, _, hworks, hbytes⟩ := hquota
  refine ⟨?_, hbytes⟩
  rw [UsageScope.works, used_one]
  exact hworks

lemma UsageScope.limits_fit (scope : UsageScope) :
    scope.workLimit ≤ i64Max ∧ scope.byteLimit + 10 * 1024 * 1024 ≤ i64Max := by
  cases scope with
  | agent =>
    change agentPendingWorkLimit ≤ i64Max ∧ agentPendingByteLimit + 10 * 1024 * 1024 ≤ i64Max
    decide
  | organization =>
    change organizationPendingWorkLimit ≤ i64Max ∧
      organizationPendingByteLimit + 10 * 1024 * 1024 ≤ i64Max
    decide

lemma pendingUsage_eq (h : scope.HasRoom db 0 0) :
    pendingUsage db scope.covers = .ok ⟨scope.works db, scope.bytes db⟩ := by
  obtain ⟨hworkLimit, hbyteLimit⟩ := scope.limits_fit
  have hworks : scope.works db ≤ i64Max := h.works_le.trans hworkLimit
  have hbytes : scope.bytes db ≤ i64Max :=
    h.bytes_le.trans ((Nat.le_add_right _ _).trans hbyteLimit)
  have hcount : (db.works.select (fun w => scope.covers w && w.pending)).length = scope.works db :=
    (used_one db.works.rows scope.counts).symm
  have hsum : ((db.works.select (fun w => scope.covers w && w.pending)).map
      (fun w => w.payloadBytes)).sum = scope.bytes db := rfl
  simp only [pendingUsage, hcount, hsum, require, hworks, hbytes, decide_true, Bool.and_self]
  rfl

lemma insertManagedWork_hasRoom {recipientKey : DispatchEncryptionKey}
    {build : ManagedDispatchAllocation → Except Error ControllerCommand}
    {result : ManagedWorkRow × CommandRow} {works bytes : Nat}
    (h : insertManagedWork wire db a preflight recipientKey build = .ok (db', result))
    (hroom : scope.HasRoom db works bytes) (hnew : scope.covers (a.row preflight) = true →
      scope.HasRoom db (works + 1) (bytes + a.payloadBytes)) : scope.HasRoom db' works bytes := by
  have hrows : db'.works.rows = db.works.rows ++ [a.row preflight] := by
    simp only [insertManagedWork, bind_ok, pure_ok, Prod.mk.injEq] at h
    obtain ⟨_, _, _, _, _, _, _, hworks, _, _, rfl, _⟩ := h
    exact Table.insert_rows hworks
  by_cases hcovers : scope.covers (a.row preflight) = true
  · obtain ⟨hworks, hbytes⟩ := hnew hcovers
    have hcounts : scope.counts (a.row preflight) = true := by
      rw [UsageScope.counts, hcovers]
      rfl
    have hone : scope.works db' = scope.works db + 1 := by
      rw [UsageScope.works, hrows, used_append, used_cons, if_pos hcounts]
      rfl
    have hmore : scope.bytes db' = scope.bytes db + a.payloadBytes := by
      rw [UsageScope.bytes, hrows, used_append, used_cons, if_pos hcounts]
      rfl
    constructor
    · omega
    · omega
  · have hcounts : ¬scope.counts (a.row preflight) = true := by
      intro hcount
      exact hcovers (Bool.and_eq_true_iff.mp hcount).1
    have hworks : scope.works db' = scope.works db := by
      rw [UsageScope.works, hrows, used_append, used_cons, if_neg hcounts]
      rfl
    have hbytes : scope.bytes db' = scope.bytes db := by
      rw [UsageScope.bytes, hrows, used_append, used_cons, if_neg hcounts]
      rfl
    exact ⟨by rw [hworks]; exact hroom.works_le, by rw [hbytes]; exact hroom.bytes_le⟩

/-- The bounds hold, and an admission holds the locks of its scopes and what it has passed. -/
structure QuotaInv (tools : ReplicaTools) (s : Replicas) : Prop where
  within : ∀ scope : UsageScope, scope.HasRoom s.db 0 0
  locked : ∀ session o, s.sessions session = some o → ∀ scope, o.Uses scope →
    s.locks (scope.lockKey tools) = some session
  passed : ∀ session o, s.sessions session = some o → ∀ scope, o.Passed scope →
    scope.HasRoom s.db 1 o.admission.payloadBytes
  lifecycle : LifecycleInv s.db

variable {s : Replicas}

lemma quotaInv_empty : QuotaInv tools {} where
  within _ := ⟨Nat.zero_le _, Nat.zero_le _⟩
  locked _ _ h := nomatch h
  passed _ _ h := nomatch h
  lifecycle := lifecycleInv_empty

lemma update_eq_some {sessions : Nat → Option OpenAdmission} {new : Option OpenAdmission}
    (h : Function.update sessions session new i = some o) :
    i = session ∧ new = some o ∨ i ≠ session ∧ sessions i = some o := by
  by_cases hi : i = session
  · subst hi
    rw [Function.update_self] at h
    exact .inl ⟨rfl, h⟩
  · rw [Function.update_of_ne hi] at h
    exact .inr ⟨hi, h⟩

lemma close_sessions (h : (s.close session).sessions i = some o) :
    i ≠ session ∧ s.sessions i = some o := by
  rcases update_eq_some h with ⟨_, hnone⟩ | hother
  · cases hnone
  · exact hother

lemma close_locks {key : Int} (hi : i ≠ session) (h : s.locks key = some i) :
    (s.close session).locks key = some i := by
  have hother : ¬s.locks key = some session := by
    rw [h, Option.some.injEq]
    exact hi
  exact (if_neg hother).trans h

lemma QuotaInv.close (h : QuotaInv tools s) (session : Nat) : QuotaInv tools (s.close session) where
  within := h.within
  locked i o hi scope huses := by
    obtain ⟨hne, hold⟩ := close_sessions hi
    exact close_locks hne (h.locked i o hold scope huses)
  passed i o hi := h.passed i o (close_sessions hi).2
  lifecycle := h.lifecycle

lemma locked_keys (locks : Int → Option Nat) (session : Nat) (huses : o.Uses scope) :
    Function.update (Function.update locks (tools.hashtextextended o.organizationId.text)
      (some session)) (tools.hashtextextended o.agentId.text) (some session)
      (scope.lockKey tools) = some session := by
  rcases huses with rfl | rfl
  · exact Function.update_self _ _ _
  · by_cases hkey : tools.hashtextextended o.organizationId.text =
        tools.hashtextextended o.agentId.text
    · rw [UsageScope.lockKey, hkey, Function.update_self]
    · rw [UsageScope.lockKey, Function.update_of_ne hkey, Function.update_self]

lemma QuotaInv.lock (h : QuotaInv tools s) (hphase : o.phase = .locked) :
    QuotaInv tools (s.lock tools session o) := by
  by_cases hfree : s.locks (tools.hashtextextended o.organizationId.text) = none ∧
      s.locks (tools.hashtextextended o.agentId.text) = none
  · rw [Replicas.lock, if_pos hfree]
    refine ⟨h.within, fun i o' hi scope huses => ?_, fun i o' hi scope hpassed => ?_, h.lifecycle⟩
    · rcases update_eq_some hi with ⟨rfl, hnew⟩ | ⟨hne, hold⟩
      · cases hnew
        exact locked_keys s.locks i huses
      · have hheld := h.locked i o' hold scope huses
        have hother : ∀ key, s.locks key = none → scope.lockKey tools ≠ key := by
          rintro _ hnone rfl
          rw [hnone] at hheld
          cases hheld
        change Function.update (Function.update s.locks _ _) _ _ _ = some i
        rw [Function.update_of_ne (hother _ hfree.2), Function.update_of_ne (hother _ hfree.1), hheld]
    · rcases update_eq_some hi with ⟨rfl, hnew⟩ | ⟨hne, hold⟩
      · cases hnew
        rw [OpenAdmission.Passed, hphase] at hpassed
        exact hpassed.elim
      · exact h.passed i o' hold scope hpassed
  · rw [Replicas.lock, if_neg hfree]
    exact h

lemma QuotaInv.advance (h : QuotaInv tools s) (hopen : s.sessions session = some o)
    {phase : AdmissionPhase}
    (hphase : ∀ scope, OpenAdmission.Passed { o with phase := phase } scope →
      scope.HasRoom s.db 1 o.admission.payloadBytes) :
    QuotaInv tools { s with
      sessions := Function.update s.sessions session (some { o with phase := phase }) } := by
  refine ⟨h.within, fun i o' hi scope huses => ?_, fun i o' hi scope hpassed => ?_, h.lifecycle⟩
  · rcases update_eq_some hi with ⟨rfl, hnew⟩ | ⟨hne, hold⟩
    · cases hnew
      exact h.locked i o hopen scope huses
    · exact h.locked i o' hold scope huses
  · rcases update_eq_some hi with ⟨rfl, hnew⟩ | ⟨hne, hold⟩
    · cases hnew
      exact hphase scope hpassed
    · exact h.passed i o' hold scope hpassed

lemma QuotaInv.transact (h : QuotaInv tools s) {t : Transaction} (ht : t.admits = false) :
    QuotaInv tools { s with db := Controller.transact tools.service s.db t } := by
  have hreleases := transact_releases tools.service s.db ht
  refine ⟨fun scope => hreleases.hasRoom (h.within scope), h.locked,
    fun i o hi scope hpassed => hreleases.hasRoom (h.passed i o hi scope hpassed), ?_⟩
  exact (transact_writes tools.service s.db t).preserve (fun _ _ hinv hwrite => hinv.write hwrite)
    h.lifecycle

lemma QuotaInv.commit (h : QuotaInv tools s) (hopen : s.sessions session = some o)
    {recipientKey : DispatchEncryptionKey} (hphase : o.phase = .checked preflight recipientKey)
    {db' : Db} {work : ManagedWorkRow} {command : CommandRow}
    (hinsert : insertManagedWork tools.service.wire s.db o.admission preflight recipientKey
      (buildDispatch tools.service.wire tools.service.crypto o.signer o.admission.idempotencyKey
      o.admission.submission o.admission.payloadFingerprint o.random) = .ok (db', work, command)) :
    QuotaInv tools { s.close session with db := db' } := by
  have hclosed := h.close session
  refine ⟨fun scope => ?_, hclosed.locked, fun i o' hi scope hpassed => ?_, ?_⟩
  · refine insertManagedWork_hasRoom hinsert (h.within scope) (fun hcovers => ?_)
    have hpassed : o.Passed scope := by
      rw [OpenAdmission.Passed, hphase]
      exact uses_of_covers hcovers
    rw [Nat.zero_add, Nat.zero_add]
    exact h.passed session o hopen scope hpassed
  · obtain ⟨hne, hold⟩ := close_sessions hi
    refine insertManagedWork_hasRoom hinsert (h.passed i o' hold scope hpassed) (fun hcovers => ?_)
    have hmine := h.locked session o hopen scope (uses_of_covers hcovers)
    rw [h.locked i o' hold scope hpassed.uses, Option.some.injEq] at hmine
    exact absurd hmine hne
  · have hwrite : Write tools.service.wire (fun _ => False) s.db db' :=
      insertManagedWork_write hinsert
    exact h.lifecycle.write hwrite

lemma QuotaInv.statement (h : QuotaInv tools s) (hopen : s.sessions session = some o)
    (fleet : Fleet) : QuotaInv tools (s.statement tools session fleet o).1 := by
  unfold Replicas.statement
  split
  · exact h.close session
  · rename_i phase hstatement
    apply h.advance hopen
    intro scope hpassed
    unfold OpenAdmission.statement at hstatement
    split at hstatement
    · simp only [bind_ok] at hstatement
      obtain ⟨existing, _, hstatement⟩ := hstatement
      split at hstatement
      · simp only [bind_ok, pure_ok, reduceCtorEq, and_false, exists_false] at hstatement
      · obtain rfl := Sum.inl.inj (pure_ok.mp hstatement)
        exact hpassed.elim
    · simp only [bind_ok, pure_ok, Sum.inl.injEq] at hstatement
      obtain ⟨_, _, rfl⟩ := hstatement
      exact hpassed.elim
    · rename_i preflight recipientKey _
      simp only [bind_ok, pure_ok, Sum.inl.injEq] at hstatement
      obtain ⟨usage, husage, _, hquota, rfl⟩ := hstatement
      obtain rfl : scope = .agent o.agentId := hpassed
      exact hasRoom_of_quota husage hquota
    · rename_i preflight recipientKey hphase
      simp only [bind_ok, pure_ok, Sum.inl.injEq] at hstatement
      obtain ⟨usage, husage, _, hquota, rfl⟩ := hstatement
      rcases hpassed with rfl | rfl
      · -- the Agent was checked by the statement before
        refine h.passed session o hopen _ ?_
        rw [OpenAdmission.Passed, hphase]
        rfl
      · exact hasRoom_of_quota husage hquota
    · simp only [bind_ok, pure_ok, reduceCtorEq, and_false, exists_false] at hstatement
  · rename_i db' found hstatement
    unfold OpenAdmission.statement at hstatement
    split at hstatement
    · simp only [bind_ok] at hstatement
      obtain ⟨existing, _, hstatement⟩ := hstatement
      split at hstatement
      · simp only [bind_ok, pure_ok, Sum.inr.injEq, Prod.mk.injEq] at hstatement
        obtain ⟨_, _, rfl, _⟩ := hstatement
        exact h.close session
      · simp only [pure_ok, reduceCtorEq] at hstatement
    · simp only [bind_ok, pure_ok, reduceCtorEq, and_false, exists_false] at hstatement
    · simp only [bind_ok, pure_ok, reduceCtorEq, and_false, exists_false] at hstatement
    · simp only [bind_ok, pure_ok, reduceCtorEq, and_false, exists_false] at hstatement
    · rename_i preflight recipientKey hphase
      simp only [bind_ok, pure_ok, Sum.inr.injEq, Prod.mk.injEq] at hstatement
      obtain ⟨⟨db'', work, command⟩, hinsert, rfl, _⟩ := hstatement
      exact h.commit hopen hphase hinsert

theorem QuotaInv.step (h : QuotaInv tools s) (e : ReplicaEvent) :
    QuotaInv tools (s.step tools e).1 := by
  cases e with
  | begin =>
    simp only [Replicas.step]
    split
    · exact h
    · simp only [Replicas.begin]
      split
      · exact h
      · exact h.lock rfl
  | statement session fleet =>
    simp only [Replicas.step]
    split
    · rename_i o hopen
      exact h.statement hopen fleet
    · exact h
  | disconnect session => exact h.close session
  | transact =>
    simp only [Replicas.step]
    split
    · exact h
    · rename_i ht
      exact h.transact (Bool.eq_false_iff.mpr ht)

lemma final_quotaInv (tools : ReplicaTools) (events : List ReplicaEvent) :
    QuotaInv tools (final (Replicas.step tools) {} events) :=
  final_of_step (I := QuotaInv tools) (fun _ e h => h.step e) quotaInv_empty events

/-- The tables after the next statements, when nothing else commits. -/
def OpenAdmission.finish (service : Tools) (fleet : Fleet) (db : Db) : Nat → OpenAdmission → Db
  | 0, _ => db
  | n + 1, o =>
    match o.statement service fleet db with
    | .error _ => db
    | .ok (.inl phase) => OpenAdmission.finish service fleet db n { o with phase := phase }
    | .ok (.inr (db', _)) => db'

lemma finish_eq (service : Tools) {signer : ManagedDispatchSigner} {random : Bytes}
    (horganization : (fleet.organizationId == a.scope.organizationId) = true)
    (hadmission : fleet.requireAdmission a.scope.agentId = .ok ()) :
    OpenAdmission.finish service fleet db 5 ⟨a, signer, random, .locked⟩ =
      transact service db (.admitManagedWork fleet a signer random) := by
  simp only [OpenAdmission.finish, OpenAdmission.statement, transact, Transaction.run,
    admitManagedWork, horganization, hadmission, require, if_true, bind, Except.bind]
  rcases findExistingManagedWork db a.managedWorkId a.scope.organizationId a.idempotencyKey
    a.submission.work.printIntentId a.requestFingerprint with e | _ | existing
  · rfl
  · simp only [ManagedWorkAdmission.check, pure, Except.pure, bind, Except.bind]
    rcases a.target fleet db with e | ⟨preflight, recipientKey⟩
    · rfl
    rcases pendingUsage db (fun w => w.agentId == a.scope.agentId) with e | agent
    · rfl
    simp only
    rcases agent.enforceQuota a.payloadBytes agentPendingWorkLimit agentPendingByteLimit "Agent"
      with e | _
    · rfl
    rcases pendingUsage db (fun w => w.organizationId == a.scope.organizationId) with e | organization
    · rfl
    simp only
    rcases organization.enforceQuota a.payloadBytes organizationPendingWorkLimit
      organizationPendingByteLimit "Organization" with e | _
    · rfl
    simp only
    rcases insertManagedWork service.wire db a preflight recipientKey
      (buildDispatch service.wire service.crypto signer a.idempotencyKey a.submission
        a.payloadFingerprint random) with e | ⟨db', work, command⟩
    · rfl
    · rfl
  · simp only [pure, Except.pure]
    rcases existingDispatch service.wire db existing with e | found
    · rfl
    · rfl

lemma LifecycleInv.pending_eq (h : LifecycleInv db) {w : ManagedWorkRow} (hw : w ∈ db.works.rows) :
    w.payloadDeletedAt.isNone = w.pending := by
  rcases h.waits w hw with ⟨hstate, hnone⟩ | ⟨hstate, hsome⟩
  · rw [hnone, ManagedWorkRow.pending, hstate]
    rfl
  · rw [ManagedWorkRow.pending, Option.isNone_eq_false_iff.mpr (Option.isSome_iff_ne_none.mpr hsome)]
    rcases hstate with hstate | hstate
    · rw [hstate]
      rfl
    · rw [hstate]
      rfl

lemma QuotaInv.undeleted (h : QuotaInv tools s) (scope : UsageScope) :
    (s.db.works.select (fun w => scope.covers w && w.payloadDeletedAt.isNone)).length ≤
        scope.workLimit ∧
      ((s.db.works.select (fun w => scope.covers w && w.payloadDeletedAt.isNone)).map
        (fun w => w.payloadBytes)).sum ≤ scope.byteLimit := by
  have hselect : s.db.works.select (fun w => scope.covers w && w.payloadDeletedAt.isNone) =
      s.db.works.rows.filter scope.counts := by
    refine List.filter_congr (fun w hw => ?_)
    rw [h.lifecycle.pending_eq hw, UsageScope.counts]
  obtain ⟨hworks, hbytes⟩ := h.within scope
  rw [hselect, ← used_one]
  exact ⟨hworks, hbytes⟩

lemma checkSubmission_payloadBytes {managedWorkId : ManagedWorkId} {idempotencyKey : String}
    {submission : ManagedWorkSubmission} {signer : ManagedDispatchSigner}
    (h : checkSubmission wire config managedWorkId idempotencyKey submission now = .ok (signer, a)) :
    a.payloadBytes ≤ 10 * 1024 * 1024 := by
  simp only [checkSubmission, bind_ok, pure_ok, Prod.mk.injEq] at h
  obtain ⟨_, _, _, _, _, _, _, _, _, _, payload, hpayload, _, rfl⟩ := h
  simp only [decodedDocument, bind_ok, require_ok, pure_ok, Bool.and_eq_true,
    decide_eq_true_eq] at hpayload
  obtain ⟨_, _, _, ⟨_, hlength⟩, rfl⟩ := hpayload
  refine hlength.trans ?_
  cases submission.work.document.operation with
  | reportPdf => exact le_rfl
  | labelDocument => decide

lemma statement_db (h : ∀ found, (s.statement tools session fleet o).2 ≠ .answered (.ok found)) :
    (s.statement tools session fleet o).1.db = s.db := by
  unfold Replicas.statement at h ⊢
  split
  · rfl
  · rfl
  · rename_i db' found hstatement
    rw [hstatement] at h
    exact absurd rfl (h found)

lemma step_db {e : ReplicaEvent} (hsession : ∀ t, e ≠ .transact t)
    (h : ∀ found, (s.step tools e).2 ≠ .answered (.ok found)) : (s.step tools e).1.db = s.db := by
  cases e with
  | begin =>
    simp only [Replicas.step]
    split
    · rfl
    · simp only [Replicas.begin]
      split
      · rfl
      · unfold Replicas.lock
        dsimp only
        split
        · rfl
        · rfl
  | statement =>
    simp only [Replicas.step] at h ⊢
    split
    · rename_i o hopen
      rw [hopen] at h
      exact statement_db h
    · rfl
  | disconnect => rfl
  | transact t => exact absurd rfl (hsession t)

/-- Undeleted Managed Work of an Agent and of an Organization is within its limits, and a refused
admission has written nothing. -/
theorem pending_work_bounded (tools : ReplicaTools) (events : List ReplicaEvent) :
    let s := final (Replicas.step tools) {} events
    (∀ agentId,
      (s.db.works.select (fun w => w.agentId == agentId && w.payloadDeletedAt.isNone)).length ≤ 32 ∧
      ((s.db.works.select (fun w => w.agentId == agentId && w.payloadDeletedAt.isNone)).map
        (fun w => w.payloadBytes)).sum ≤ 64 * 1024 * 1024) ∧
    (∀ organizationId,
      (s.db.works.select (fun w => w.organizationId == organizationId &&
        w.payloadDeletedAt.isNone)).length ≤ 256 ∧
      ((s.db.works.select (fun w => w.organizationId == organizationId &&
        w.payloadDeletedAt.isNone)).map (fun w => w.payloadBytes)).sum ≤ 512 * 1024 * 1024) ∧
    (∀ scope : UsageScope, ∃ usage, pendingUsage s.db scope.covers = .ok usage ∧
      ∀ wire config managedWorkId idempotencyKey submission now signer a,
        checkSubmission wire config managedWorkId idempotencyKey submission now = .ok (signer, a) →
        usage.payloadBytes + a.payloadBytes ≤ i64Max) ∧
    ∀ e : ReplicaEvent, (∀ t, e ≠ .transact t) →
      (∀ found, (s.step tools e).2 ≠ .answered (.ok found)) →
      (s.step tools e).1.db = s.db ∧ ∀ agentId,
        nextCommandSequence (s.step tools e).1.db agentId = nextCommandSequence s.db agentId := by
  intro s
  have hinv : QuotaInv tools s := final_quotaInv tools events
  refine ⟨fun agentId => hinv.undeleted (.agent agentId),
    fun organizationId => hinv.undeleted (.organization organizationId), fun scope => ?_, ?_⟩
  · refine ⟨_, pendingUsage_eq (hinv.within scope), ?_⟩
    intro wire config managedWorkId idempotencyKey submission now signer a hcheck
    exact (Nat.add_le_add (hinv.within scope).bytes_le (checkSubmission_payloadBytes hcheck)).trans
      scope.limits_fit.2
  · intro e hsession hrefused
    have hsame : (s.step tools e).1.db = s.db := step_db hsession hrefused
    exact ⟨hsame, fun agentId => by rw [hsame]⟩

def quotaTools : ReplicaTools := ⟨sampleTools, fun text => text.length⟩

def quotaSigner : ManagedDispatchSigner := ⟨"controller", "key-1", 1, 120 * 1000000, []⟩

def quotaAdmission (payloadBytes : Nat) : ManagedWorkAdmission :=
  ⟨sampleWork, "print-42", sampleSubmission, requestFingerprint sampleWire sampleSubmission,
    (Hex.decode sampleSubmission.payloadFingerprint).getD [], payloadBytes, 1000000⟩

def fullQueue : List ReplicaEvent :=
  [.transact (.request (.preflight sampleConfig sampleFleet
      ⟨1, sampleScope, sampleDevice, .reportPdf, sampleBinding⟩ samplePreflightId 0)),
    .begin 0 sampleFleet (quotaAdmission 9) quotaSigner [],
    .begin 1 sampleFleet (quotaAdmission 9) quotaSigner []] ++
  List.replicate 5 (.statement 0 sampleFleet) ++
  [.begin 1 sampleFleet { quotaAdmission (64 * 1024 * 1024) with
      managedWorkId := nextWork
      idempotencyKey := "print-43"
      submission := { sampleSubmission with
        work := { sampleSubmission.work with
          printIntentId := nextIntent } } } quotaSigner [],
    .statement 1 sampleFleet, .statement 1 sampleFleet]

def fullState : Replicas := final (Replicas.step quotaTools) {} fullQueue

theorem full_queue_refused :
    fullState.db.works.rows.map (fun w => (w.managedWorkId.text, w.payloadBytes)) = [("mw_1", 9)] ∧
    (fullState.step quotaTools (.statement 1 sampleFleet)).2 =
      .answered (.error (.capacity "Agent Managed Work queue is full")) ∧
    ∀ agentId, nextCommandSequence (fullState.step quotaTools (.statement 1 sampleFleet)).1.db
      agentId = nextCommandSequence fullState.db agentId := by
  have hrefused : (fullState.step quotaTools (.statement 1 sampleFleet)).2 =
      .answered (.error (.capacity "Agent Managed Work queue is full")) := by decide +kernel
  have hbounded := (pending_work_bounded quotaTools fullQueue).2.2.2
  rw [← fullState] at hbounded
  refine ⟨by decide +kernel, hrefused, (hbounded (.statement 1 sampleFleet) (fun _ => nofun) ?_).2⟩
  intro found
  rw [hrefused]
  exact nofun

end Inari.Controller
