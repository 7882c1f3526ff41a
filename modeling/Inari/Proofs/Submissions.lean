import Inari.Proofs.WorkLifecycle

/-!
# Submissions of Managed Work

A submission is decided by three lookups, outside the advisory locks and again inside them.
-/

namespace Inari.Controller

open Lib

variable {tools : WireTools} {db : Db} {w : ManagedWorkRow} {i : SubmissionIdentity}

lemma work_eq {w' : ManagedWorkRow} (hw : w ∈ db.works.rows) (hw' : w' ∈ db.works.rows)
    (h : w.managedWorkId = w'.managedWorkId ∨
      w.organizationId = w'.organizationId ∧ w.idempotencyKey = w'.idempotencyKey ∨
      w.printIntentId = w'.printIntentId) : w = w' := by
  rcases h with hid | ⟨horganization, hkey⟩ | hintent
  · exact work_unique hw hw' hid
  · exact db.works.eq_of_key (u := workIdempotencyKey) (by simp [workSpec]) hw hw' rfl
      (by simp [workIdempotencyKey, horganization, hkey])
  · exact db.works.eq_of_key (u := workIntentKey) (by simp [workSpec]) hw hw' rfl
      (by simp [workIntentKey, hintent])

variable {byId byKey byIntent : Db} {v : ManagedWorkRow} {fleet : Fleet} {a : ManagedWorkAdmission}

lemma candidates_of_stored {w₁ w₂ w₃ : ManagedWorkRow} (h₁ : w₁ ∈ byId.works.rows)
    (h₂ : w₂ ∈ byKey.works.rows) (h₃ : w₃ ∈ byIntent.works.rows) (hi₁ : w₁.identity = i)
    (hi₂ : w₂.identity = i) (hi₃ : w₃.identity = i) :
    submissionCandidates byId byKey byIntent i = [w₁, w₂, w₃] := by
  have hid : byId.works.first (fun w => w.managedWorkId == i.managedWorkId) = some w₁ := by
    subst hi₁
    exact first_work h₁
  have hkey : byKey.works.first (fun w => w.organizationId == i.organizationId &&
      w.idempotencyKey == i.idempotencyKey) = some w₂ := by
    subst hi₂
    refine Table.first_eq h₂ (by simp [ManagedWorkRow.identity]) (fun v hv hsame => ?_)
    simp only [Bool.and_eq_true, beq_iff_eq] at hsame
    exact work_eq hv h₂ (.inr (.inl hsame))
  have hintent : byIntent.works.first (fun w => w.printIntentId == i.printIntentId) = some w₃ := by
    subst hi₃
    refine Table.first_eq h₃ (by simp [ManagedWorkRow.identity]) (fun v hv hsame => ?_)
    exact work_eq hv h₃ (.inr (.inr (beq_iff_eq.mp hsame)))
  rw [submissionCandidates, hid, hkey, hintent]
  rfl

lemma sameIdentity_of_identity (h : w.identity = i) : w.sameIdentity i.organizationId
    i.idempotencyKey i.printIntentId i.requestFingerprint = true := by
  subst h
  simp [ManagedWorkRow.sameIdentity, ManagedWorkRow.identity]

lemma findExistingAt_ok (h : ∀ v ∈ submissionCandidates byId byKey byIntent i, v.identity = i) :
    findExistingAt byId byKey byIntent i =
      .ok (submissionCandidates byId byKey byIntent i).getLast? := by
  simp only [findExistingAt, bind_ok, require_ok, pure_ok]
  refine ⟨(), List.all_eq_true.mpr (fun v hv => ?_), trivial⟩
  rw [Bool.and_eq_true, List.all_eq_true]
  refine ⟨sameIdentity_of_identity (h v hv), fun u hu => beq_iff_eq.mpr ?_⟩
  exact managedWorkId_of_identity ((h u hu).trans (h v hv).symm)

lemma mem_candidates (h : v ∈ submissionCandidates byId byKey byIntent i) :
    (v ∈ byId.works.rows ∨ v ∈ byKey.works.rows ∨ v ∈ byIntent.works.rows) ∧
      (v.managedWorkId = i.managedWorkId ∨
        v.organizationId = i.organizationId ∧ v.idempotencyKey = i.idempotencyKey ∨
        v.printIntentId = i.printIntentId) := by
  simp only [submissionCandidates, List.mem_filterMap, List.mem_cons, List.not_mem_nil, or_false,
    id_eq] at h
  obtain ⟨found, rfl | rfl | rfl, hfound⟩ := h
  · obtain ⟨hmem, hid⟩ := Table.first_spec hfound
    exact ⟨.inl hmem, .inl (beq_iff_eq.mp hid)⟩
  · obtain ⟨hmem, hkey⟩ := Table.first_spec hfound
    simp only [Bool.and_eq_true, beq_iff_eq] at hkey
    exact ⟨.inr (.inl hmem), .inr (.inl hkey)⟩
  · obtain ⟨hmem, hintent⟩ := Table.first_spec hfound
    exact ⟨.inr (.inr hmem), .inr (.inr (beq_iff_eq.mp hintent))⟩

lemma findExistingAt_stored {w₁ w₂ w₃ : ManagedWorkRow} (h₁ : w₁ ∈ byId.works.rows)
    (h₂ : w₂ ∈ byKey.works.rows) (h₃ : w₃ ∈ byIntent.works.rows) (hi₁ : w₁.identity = i)
    (hi₂ : w₂.identity = i) (hi₃ : w₃.identity = i) :
    findExistingAt byId byKey byIntent i = .ok (some w₃) := by
  have hcandidates := candidates_of_stored h₁ h₂ h₃ hi₁ hi₂ hi₃
  rw [findExistingAt_ok (by simp [hcandidates, hi₁, hi₂, hi₃]), hcandidates]
  rfl

/-- The submission shares an identity with a work that is not its own, or with two. -/
def Mismatch (byId byKey byIntent : Db) (i : SubmissionIdentity) : Prop :=
  (∃ w ∈ submissionCandidates byId byKey byIntent i, ∃ v ∈ submissionCandidates byId byKey byIntent i,
    w.managedWorkId ≠ v.managedWorkId) ∨
  ∃ w ∈ submissionCandidates byId byKey byIntent i,
    w.organizationId ≠ i.organizationId ∨ w.idempotencyKey ≠ i.idempotencyKey ∨
      w.printIntentId ≠ i.printIntentId ∨ w.requestFingerprint ≠ i.requestFingerprint

def identityConflict : Error :=
  .conflict "a Managed Work identity was already used for different Device Work"

lemma findExistingAt_mismatch (h : Mismatch byId byKey byIntent i) :
    findExistingAt byId byKey byIntent i = .error identityConflict := by
  have hfails : ((submissionCandidates byId byKey byIntent i).all (fun w =>
      w.sameIdentity i.organizationId i.idempotencyKey i.printIntentId i.requestFingerprint &&
      (submissionCandidates byId byKey byIntent i).all
        (fun v => v.managedWorkId == w.managedWorkId))) = false := by
    by_contra hpasses
    rw [Bool.not_eq_false, List.all_eq_true] at hpasses
    rcases h with ⟨w, hw, v, hv, hne⟩ | ⟨w, hw, hne⟩
    · have hsame := hpasses v hv
      rw [Bool.and_eq_true, List.all_eq_true] at hsame
      exact hne (beq_iff_eq.mp (hsame.2 w hw))
    · have hsame := hpasses w hw
      simp only [ManagedWorkRow.sameIdentity, Bool.and_eq_true, beq_iff_eq] at hsame
      simp [hsame] at hne
  simp only [findExistingAt, hfails, require]
  rfl

lemma existingDispatch_ok (hstore : StoreInv tools db) (hinv : LifecycleInv db)
    (hv : v ∈ db.works.rows) (hid : w.managedWorkId = v.managedWorkId) :
    ∃ command, existingDispatch tools db w = .ok (w, command) := by
  by_cases hstate : w.state = .dispatching
  · obtain ⟨key, hkey, hnames⟩ := hinv.named v hv
    have hcommandId := hstore.managed key hkey _ hnames
    obtain ⟨c, hc, rfl⟩ := List.mem_map.mp hkey
    have hfirst : db.commands.first
        (fun r => r.commandId == dispatchCommandId tools w.managedWorkId) = some c := by
      rw [hid, ← hcommandId]
      exact Table.first_eq hc (by simp [CommandRow.key])
        (fun r hr hsame => command_unique hr hc (beq_iff_eq.mp hsame))
    have hpersisted : persistedCommand c = .ok c := by
      have hcontent : c.command = .managedWork v.managedWorkId := hnames
      simp [persistedCommand, hcontent]
    refine ⟨some c, ?_⟩
    simp only [existingDispatch, hstate, if_true, hfirst, orRaise, bind_ok, pure_ok]
    exact ⟨c, rfl, c, hpersisted, rfl⟩
  · exact ⟨none, if_neg hstate⟩

lemma existingDispatch_work {result : ManagedWorkRow × Option CommandRow}
    (h : existingDispatch tools db w = .ok result) : result.1 = w := by
  unfold existingDispatch at h
  split at h
  · simp only [bind_ok, pure_ok] at h
    obtain ⟨_, _, _, _, rfl⟩ := h
    rfl
  · cases h
    rfl

lemma admitManagedWork_stored (hstore : StoreInv tools db) (hinv : LifecycleInv db)
    (hw : w ∈ db.works.rows) (hidentity : a.identity = w.identity)
    (horganization : fleet.organizationId = a.scope.organizationId)
    (hadmits : fleet.admits a.scope.agentId = true)
    (build : ManagedDispatchAllocation → Except Error ControllerCommand) :
    ∃ command, admitManagedWork tools fleet db a build = .ok (db, w, command) := by
  obtain ⟨command, hcommand⟩ := existingDispatch_ok hstore hinv hw rfl
  have hfound : findExistingManagedWork db a.managedWorkId a.scope.organizationId a.idempotencyKey
      a.submission.work.printIntentId a.requestFingerprint = .ok (some w) :=
    findExistingAt_stored hw hw hw hidentity.symm hidentity.symm hidentity.symm
  refine ⟨command, ?_⟩
  simp only [admitManagedWork, Fleet.requireAdmission, horganization, hadmits, hfound, hcommand,
    beq_self_eq_true, require, bind, Except.bind]
  rfl

lemma admitManagedWork_mismatch (h : Mismatch db db db a.identity)
    (horganization : fleet.organizationId = a.scope.organizationId)
    (hadmits : fleet.admits a.scope.agentId = true)
    (build : ManagedDispatchAllocation → Except Error ControllerCommand) :
    admitManagedWork tools fleet db a build = .error identityConflict := by
  have hfound : findExistingManagedWork db a.managedWorkId a.scope.organizationId a.idempotencyKey
      a.submission.work.printIntentId a.requestFingerprint = .error identityConflict :=
    findExistingAt_mismatch h
  simp only [admitManagedWork, Fleet.requireAdmission, horganization, hadmits, hfound,
    beq_self_eq_true, require, bind, Except.bind]
  rfl

/-- One work was added, with its command and its payload. -/
structure StoresWork (tools : WireTools) (a : ManagedWorkAdmission) (db db' : Db)
    (w : ManagedWorkRow) (c : CommandRow) : Prop where
  identity : w.identity = a.identity
  works : db'.works.rows = db.works.rows ++ [w]
  commands : db'.commands.rows = db.commands.rows ++ [c]
  commandId : c.commandId = dispatchCommandId tools a.managedWorkId
  content : c.command = .managedWork a.managedWorkId
  payload : ∃ p, db'.payloads.rows = db.payloads.rows ++ [p] ∧ p.managedWorkId = a.managedWorkId

lemma admitManagedWork_stores {build : ManagedDispatchAllocation → Except Error ControllerCommand}
    {db' : Db} {command : Option CommandRow}
    (h : admitManagedWork tools fleet db a build = .ok (db', w, command)) :
    db' = db ∧ w ∈ db.works.rows ∨ ∃ c, command = some c ∧ StoresWork tools a db db' w c := by
  simp only [admitManagedWork, findExistingManagedWork, findExistingAt, bind_ok, pure_ok] at h
  obtain ⟨_, _, _, _, existing, ⟨_, _, hlast⟩, h⟩ := h
  split at h
  · simp only [bind_ok, pure_ok, Prod.mk.injEq] at h
    obtain ⟨_, hdispatch, rfl, rfl⟩ := h
    obtain rfl := existingDispatch_work hdispatch
    rcases (mem_candidates (List.mem_of_getLast? hlast)).1 with hw | hw | hw <;>
      exact .inl ⟨rfl, hw⟩
  · simp only [insertManagedWork, bind_ok, pure_ok, Prod.mk.injEq] at h
    obtain ⟨_, _, _, ⟨_, _, _, _, commands, hcommands, works, hworks, payloads, hpayloads, rfl⟩, rfl,
      rfl, rfl⟩ := h
    exact .inr ⟨_, rfl, rfl, Table.insert_rows hworks, Table.insert_rows hcommands, rfl, rfl, _,
      Table.insert_rows hpayloads, rfl⟩

lemma submitAt_found {crypto : CryptoTools} {signer : ManagedDispatchSigner} {commands db : Db}
    {random : Bytes} {command : Option CommandRow}
    (hfound : findExistingAt byId byKey byIntent a.identity = .ok (some w))
    (hcommand : existingDispatch tools commands w = .ok (w, command)) :
    submitAt tools crypto signer fleet byId byKey byIntent commands db a random =
      .ok (db, w, command) := by
  simp only [submitAt, replayManagedWork, hfound, hcommand, bind, Except.bind]
  rfl

lemma after_append (tools : Tools) (ts ts' : List Transaction) (db : Db) :
    after tools db (ts ++ ts') = after tools (after tools db ts) ts' := List.foldl_append

lemma seen_later {tools : Tools} {ts ts' : List Transaction} (hv : v ∈ db.works.rows)
    (hw : w ∈ (after tools (after tools db ts) ts').works.rows)
    (h : v.managedWorkId = w.managedWorkId ∨
      v.organizationId = w.organizationId ∧ v.idempotencyKey = w.idempotencyKey ∨
      v.printIntentId = w.printIntentId) :
    v.identity = w.identity ∧
      ∃ v' ∈ (after tools db ts).works.rows, v.managedWorkId = v'.managedWorkId := by
  obtain ⟨u, hu, hmoves⟩ := after_moves tools ts hv
  obtain ⟨v', hv', hmoves'⟩ := after_moves tools ts' hu
  have hsame := hmoves'.identity.1.trans hmoves.identity.1
  refine ⟨?_, u, hu, (managedWorkId_of_identity hmoves.identity.1).symm⟩
  have hid := congrArg SubmissionIdentity.managedWorkId hsame
  have horganization := congrArg SubmissionIdentity.organizationId hsame
  have hkey := congrArg SubmissionIdentity.idempotencyKey hsame
  have hintent := congrArg SubmissionIdentity.printIntentId hsame
  simp only [ManagedWorkRow.identity] at hid horganization hkey hintent
  rw [← hid, ← horganization, ← hkey, ← hintent] at h
  rw [← work_eq hv' hw h]
  exact hsame.symm

/-- No two works share an identity; a stored work answers every later submission of its identity,
and a submission that meets another identity fails. What else is admitted is stored as one work. -/
theorem submission_idempotent (tools : Tools) (ts₁ ts₂ ts₃ ts₄ ts₅ : List Transaction) :
    let d₁ := after tools {} ts₁
    let d₂ := after tools d₁ ts₂
    let d₃ := after tools d₂ ts₃
    let d₄ := after tools d₃ ts₄
    let d₅ := after tools d₄ ts₅
    (∀ w ∈ d₁.works.rows, ∀ w' ∈ d₁.works.rows, w.managedWorkId = w'.managedWorkId ∨
      w.organizationId = w'.organizationId ∧ w.idempotencyKey = w'.idempotencyKey ∨
      w.printIntentId = w'.printIntentId → w = w') ∧
    (∀ signer fleet a random, ∀ w ∈ d₁.works.rows, a.identity = w.identity →
      ∃ w' ∈ d₃.works.rows, w'.managedWorkId = w.managedWorkId ∧ ∃ command,
        submitAt tools.wire tools.crypto signer fleet d₁ d₂ d₃ d₄ d₅ a random =
          .ok (d₅, w', command)) ∧
    (∀ signer fleet a random, fleet.organizationId = a.scope.organizationId →
      fleet.admits a.scope.agentId = true → ∀ w ∈ d₅.works.rows, a.identity = w.identity →
      ∃ w' command, (w' ∈ d₁.works.rows ∨ w' ∈ d₂.works.rows ∨ w' ∈ d₃.works.rows ∨ w' = w) ∧
        w'.managedWorkId = w.managedWorkId ∧
        submitAt tools.wire tools.crypto signer fleet d₁ d₂ d₃ d₄ d₅ a random =
          .ok (d₅, w', command)) ∧
    (∀ signer fleet a random, Mismatch d₁ d₂ d₃ a.identity →
      submitAt tools.wire tools.crypto signer fleet d₁ d₂ d₃ d₄ d₅ a random =
        .error identityConflict) ∧
    (∀ fleet a build, fleet.organizationId = a.scope.organizationId →
      fleet.admits a.scope.agentId = true → Mismatch d₅ d₅ d₅ a.identity →
      admitManagedWork tools.wire fleet d₅ a build = .error identityConflict) ∧
    (∀ fleet a build d w command,
      admitManagedWork tools.wire fleet d₅ a build = .ok (d, w, command) →
      d = d₅ ∧ w ∈ d₅.works.rows ∨ ∃ c, command = some c ∧ StoresWork tools.wire a d₅ d w c) := by
  intro d₁ d₂ d₃ d₄ d₅
  have h₄ : d₄ = after tools {} (ts₁ ++ ts₂ ++ ts₃ ++ ts₄) := by simp [d₄, d₃, d₂, d₁, after_append]
  have h₅ : d₅ = after tools {} (ts₁ ++ ts₂ ++ ts₃ ++ ts₄ ++ ts₅) := by
    simp [d₅, h₄, after_append]
  have hstore₄ : StoreInv tools.wire d₄ := h₄ ▸ after_storeInv tools _
  have hinv₄ : LifecycleInv d₄ := h₄ ▸ after_lifecycleInv tools _
  have hstore₅ : StoreInv tools.wire d₅ := h₅ ▸ after_storeInv tools _
  have hinv₅ : LifecycleInv d₅ := h₅ ▸ after_lifecycleInv tools _
  refine ⟨fun w hw w' hw' => work_eq hw hw', fun signer fleet a random w hw hidentity => ?_,
    fun signer fleet a random horganization hadmits w hw hidentity => ?_,
    fun signer fleet a random hmismatch => ?_,
    fun fleet a build horganization hadmits hmismatch =>
      admitManagedWork_mismatch hmismatch horganization hadmits build,
    fun fleet a build d w command => admitManagedWork_stores⟩
  · obtain ⟨w₂, hw₂, hmoves₂⟩ := after_moves tools ts₂ hw
    obtain ⟨w₃, hw₃, hmoves₃⟩ := after_moves tools ts₃ hw₂
    obtain ⟨w₄, hw₄, hmoves₄⟩ := after_moves tools ts₄ hw₃
    have hi₂ := hmoves₂.identity.1.trans hidentity.symm
    have hi₃ := hmoves₃.identity.1.trans hi₂
    obtain ⟨command, hcommand⟩ := existingDispatch_ok hstore₄ hinv₄ hw₄
      (managedWorkId_of_identity hmoves₄.identity.1).symm
    exact ⟨w₃, hw₃, managedWorkId_of_identity (hi₃.trans hidentity), command,
      submitAt_found (findExistingAt_stored hw hw₂ hw₃ hidentity.symm hi₂ hi₃) hcommand⟩
  · -- every row that the lookup saw is by now the stored work
    have hlater : ∀ v ∈ submissionCandidates d₁ d₂ d₃ a.identity,
        v.identity = a.identity ∧ ∃ v' ∈ d₄.works.rows, v.managedWorkId = v'.managedWorkId := by
      intro v hv
      obtain ⟨hstored, hshares⟩ := mem_candidates hv
      rw [hidentity] at hshares ⊢
      rcases hstored with hv | hv | hv
      · have hpath : d₄ = after tools d₁ (ts₂ ++ ts₃ ++ ts₄) := by
          simp [d₄, d₃, d₂, after_append]
        rw [hpath]
        exact seen_later hv (by rwa [← hpath]) hshares
      · have hpath : d₄ = after tools d₂ (ts₃ ++ ts₄) := by simp [d₄, d₃, after_append]
        rw [hpath]
        exact seen_later hv (by rwa [← hpath]) hshares
      · exact seen_later hv hw hshares
    have hfound := findExistingAt_ok (fun v hv => (hlater v hv).1)
    cases hlast : (submissionCandidates d₁ d₂ d₃ a.identity).getLast? with
    | none =>
      obtain ⟨command, hadmitted⟩ := admitManagedWork_stored hstore₅ hinv₅ hw hidentity
        horganization hadmits (buildDispatch tools.wire tools.crypto signer a.idempotencyKey
          a.submission a.payloadFingerprint random)
      refine ⟨w, command, .inr (.inr (.inr rfl)), rfl, ?_⟩
      simp only [submitAt, replayManagedWork, hfound, hlast, Fleet.requireAdmission, hadmits, require,
        bind, Except.bind, pure, Except.pure]
      exact hadmitted
    | some v =>
      rw [hlast] at hfound
      have hv := List.mem_of_getLast? hlast
      obtain ⟨v', hv', hid⟩ := (hlater v hv).2
      obtain ⟨command, hcommand⟩ := existingDispatch_ok hstore₄ hinv₄ hv' hid
      refine ⟨v, command, ?_, managedWorkId_of_identity ((hlater v hv).1.trans hidentity),
        submitAt_found hfound hcommand⟩
      rcases (mem_candidates hv).1 with hv | hv | hv <;> simp [hv]
  · simp only [submitAt, replayManagedWork, findExistingAt_mismatch hmismatch]
    rfl

end Inari.Controller
