import Inari.Lib.Run
import Inari.Proofs.Invitations

/-!
# Router admission

Every change of an Agent or key raises the authority revision, which a current policy still has.
-/

namespace Inari.Controller

open Lib

namespace Registry

def agentsOf (db : Registry) (organizationId : OrganizationId) : List AgentRecord :=
  db.agents.rows.filter (fun a => a.organizationId == organizationId)

def isKeyOf (db : Registry) (organizationId : OrganizationId) (k : AgentKeyRow) : Bool :=
  (db.agentsOf organizationId).any (fun a => a.agentId == k.agentId)

def keysOf (db : Registry) (organizationId : OrganizationId) : List AgentKeyRow :=
  db.keys.rows.filter (db.isKeyOf organizationId)

/-- What the authority revision of an Organization counts the changes of. -/
def authority (db : Registry) (organizationId : OrganizationId) :
    List AgentRecord × List AgentKeyRow :=
  (db.agentsOf organizationId, db.keysOf organizationId)

variable {db db' : Registry} {organizationId : OrganizationId}

lemma authority_of_agents (hkeys : db'.keys = db.keys)
    (hagents : db'.agentsOf organizationId = db.agentsOf organizationId) :
    db'.authority organizationId = db.authority organizationId := by
  have hkeyOf : db'.isKeyOf organizationId = db.isKeyOf organizationId := by
    funext k
    rw [isKeyOf, hagents, isKeyOf]
  rw [authority, authority, hagents, keysOf, keysOf, hkeyOf, hkeys]

lemma authority_of_keys (hagents : db'.agents = db.agents)
    (hkeys : db'.keys.rows.filter (db.isKeyOf organizationId) = db.keysOf organizationId) :
    db'.authority organizationId = db.authority organizationId := by
  have hagentsOf : db'.agentsOf organizationId = db.agentsOf organizationId := by
    rw [agentsOf, hagents, agentsOf]
  have hkeyOf : db'.isKeyOf organizationId = db.isKeyOf organizationId := by
    funext k
    rw [isKeyOf, hagentsOf, isKeyOf]
  rw [authority, authority, hagentsOf, keysOf, hkeyOf, hkeys]

lemma agent_unique {a b : AgentRecord} (ha : a ∈ db.agents.rows) (hb : b ∈ db.agents.rows)
    (h : a.agentId = b.agentId) : a = b :=
  db.agents.eq_of_key (u := agentIdKey) (by simp [agentSpec]) ha hb rfl (by simp [agentIdKey, h])

lemma isKeyOf_iff {k : AgentKeyRow} :
    db.isKeyOf organizationId k = true ↔ db.organizationOf? k.agentId = some organizationId := by
  simp only [isKeyOf, agentsOf, organizationOf?, List.any_eq_true, List.mem_filter, beq_iff_eq,
    Option.map_eq_some_iff]
  constructor
  · rintro ⟨a, ⟨ha, horganization⟩, hid⟩
    refine ⟨a, Table.first_eq ha (beq_iff_eq.mpr hid) (fun b hb hbid => ?_), horganization⟩
    exact agent_unique hb ha ((beq_iff_eq.mp hbid).trans hid.symm)
  · rintro ⟨a, hfirst, horganization⟩
    obtain ⟨ha, hid⟩ := Table.first_spec hfirst
    exact ⟨a, ⟨ha, horganization⟩, beq_iff_eq.mp hid⟩

lemma activeAgents_of_authority (h : db'.authority organizationId = db.authority organizationId) :
    db'.activeAgents organizationId = db.activeAgents organizationId := by
  obtain ⟨hagents, hkeys⟩ := Prod.mk.inj h
  have hselect : ∀ db : Registry, db.agents.select (db.isActive organizationId) =
      (db.agentsOf organizationId).filter (fun a => a.dispatchKey.isSome &&
        (db.keysOf organizationId).any (fun k => k.agentId == a.agentId &&
          k.purpose == .transportIdentity && k.keyId == a.keyId && k.retiredAt.isNone) &&
        (db.keysOf organizationId).any (fun k => k.agentId == a.agentId &&
          k.purpose == .agentState && k.retiredAt.isNone)) := by
    intro db
    rw [agentsOf, List.filter_filter, Table.select]
    refine List.filter_congr (fun a ha => ?_)
    by_cases horganization : a.organizationId = organizationId
    · have hkey : ∀ p : AgentKeyRow → Bool,
          (db.keysOf organizationId).any (fun k => k.agentId == a.agentId && p k) =
            db.keys.rows.any (fun k => k.agentId == a.agentId && p k) := by
        intro p
        rw [keysOf, List.any_filter]
        refine List.any_congr rfl (fun k => ?_)
        by_cases hid : k.agentId = a.agentId
        · have hkeyOf : db.isKeyOf organizationId k = true := by
            simp only [isKeyOf, agentsOf, List.any_eq_true, List.mem_filter, beq_iff_eq]
            exact ⟨a, ⟨ha, horganization⟩, hid.symm⟩
          rw [hkeyOf, Bool.true_and]
        · simp [hid]
      have htransport := hkey (fun k => k.purpose == .transportIdentity && k.keyId == a.keyId &&
        k.retiredAt.isNone)
      have hstate := hkey (fun k => k.purpose == .agentState && k.retiredAt.isNone)
      simp only [← Bool.and_assoc] at htransport hstate
      simp only [isActive, hasKey, horganization, htransport, hstate, beq_self_eq_true,
        Bool.true_and, Bool.and_true]
    · simp [isActive, beq_eq_false_iff_ne.mpr horganization]
  rw [activeAgents, activeAgents, hselect db', hselect db, hagents, hkeys]

lemma isActiveAgent_iff {agentId : String} : db.isActiveAgent organizationId agentId = true ↔
    ∃ a ∈ db.activeAgents organizationId, a.agentId.text = agentId := by
  simp only [isActiveAgent, activeAgents, List.any_eq_true, Bool.and_eq_true, beq_iff_eq,
    List.mem_map, List.mem_insertionSort, Table.select, List.mem_filter]
  constructor
  · rintro ⟨a, ha, hactive, hid⟩
    exact ⟨_, ⟨a, ⟨ha, hactive⟩, rfl⟩, hid⟩
  · rintro ⟨_, ⟨a, ⟨ha, hactive⟩, rfl⟩, hid⟩
    exact ⟨a, ha, hactive, hid⟩

end Registry

structure RowKept (p p' : RouterPolicyRow) : Prop where
  organizationId : p'.organizationId = p.organizationId
  generation : p'.generation = p.generation
  policy : p'.policy = p.policy
  revision : p.authorityRevision ≤ p'.authorityRevision
  acknowledgedAt : ∀ t ∈ p'.acknowledgedAt, p.acknowledgedAt = some t

/-- While the revision stays, the Agents and keys of the Organization are those that they were. -/
structure PolicyKept (db db' : Registry) (p p' : RouterPolicyRow) : Prop extends RowKept p p' where
  same : p'.authorityRevision = p.authorityRevision →
    db'.authority p.organizationId = db.authority p.organizationId

def PoliciesKept (db db' : Registry) : Prop :=
  ∀ p' ∈ db'.policies.rows, ∃ p ∈ db.policies.rows, PolicyKept db db' p p'

section

variable {db db' db'' : Registry}

lemma RowKept.refl (p : RouterPolicyRow) : RowKept p p :=
  ⟨rfl, rfl, rfl, le_refl _, fun _ ht => ht⟩

lemma RowKept.trans {p p' p'' : RouterPolicyRow} (h : RowKept p p') (h' : RowKept p' p'') :
    RowKept p p'' :=
  ⟨h'.organizationId.trans h.organizationId, h'.generation.trans h.generation,
    h'.policy.trans h.policy, h.revision.trans h'.revision,
    fun t ht => h.acknowledgedAt t (h'.acknowledgedAt t ht)⟩

lemma PoliciesKept.frame (hpolicies : db'.policies = db.policies) (hagents : db'.agents = db.agents)
    (hkeys : db'.keys = db.keys) : PoliciesKept db db' := by
  intro p hp
  rw [hpolicies] at hp
  refine ⟨p, hp, .refl p, fun _ => ?_⟩
  apply Registry.authority_of_agents hkeys
  rw [Registry.agentsOf, hagents, Registry.agentsOf]

lemma PolicyKept.trans {p p' p'' : RouterPolicyRow} (h : PolicyKept db db' p p')
    (h' : PolicyKept db' db'' p' p'') : PolicyKept db db'' p p'' where
  toRowKept := h.toRowKept.trans h'.toRowKept
  same hrevision := by
    have hle := h.revision
    have hle' := h'.revision
    have hfirst : p'.authorityRevision = p.authorityRevision := by omega
    have hsecond : p''.authorityRevision = p'.authorityRevision := by omega
    have hsame := h'.same hsecond
    rw [h.organizationId] at hsame
    exact hsame.trans (h.same hfirst)

lemma PoliciesKept.trans (h : PoliciesKept db db') (h' : PoliciesKept db' db'') :
    PoliciesKept db db'' := by
  intro p'' hp''
  obtain ⟨p', hp', hkept'⟩ := h' p'' hp''
  obtain ⟨p, hp, hkept⟩ := h p' hp'
  exact ⟨p, hp, hkept.trans hkept'⟩

lemma invalidateAll_rows {organizations : List OrganizationId}
    (h : db.invalidateAll organizations = .ok db') :
    db'.agents = db.agents ∧ db'.keys = db.keys ∧
    ∀ p' ∈ db'.policies.rows, ∃ p ∈ db.policies.rows, RowKept p p' ∧
      (p.organizationId ∈ organizations → p.authorityRevision < p'.authorityRevision) := by
  induction organizations generalizing db with
  | nil =>
    simp only [Registry.invalidateAll, pure_ok] at h
    subst h
    exact ⟨rfl, rfl, fun p hp => ⟨p, hp, .refl p, fun hmem => absurd hmem List.not_mem_nil⟩⟩
  | cons organizationId rest ih =>
    simp only [Registry.invalidateAll, Registry.invalidate, bind_ok, pure_ok] at h
    obtain ⟨_, ⟨policies, hpolicies, rfl⟩, hrest⟩ := h
    obtain ⟨hagents, hkeys, hrows⟩ := ih hrest
    refine ⟨hagents, hkeys, fun p' hp' => ?_⟩
    obtain ⟨p₁, hp₁, hkept, hraised⟩ := hrows p' hp'
    rcases Table.updated_cases (Table.update_rows hpolicies) hp₁ with ⟨hp, hfires⟩ | ⟨p, hp, -, rfl⟩
    · refine ⟨p₁, hp, hkept, fun hmem => ?_⟩
      rcases List.mem_cons.mp hmem with hhere | hlater
      · exact absurd hhere (beq_eq_false_iff_ne.mp hfires)
      · exact hraised hlater
    · have hlt : p.authorityRevision < p'.authorityRevision := hkept.revision
      refine ⟨p, hp, ⟨hkept.organizationId, hkept.generation, hkept.policy, hlt.le, fun t ht => ?_⟩,
        fun _ => hlt⟩
      cases hkept.acknowledgedAt t ht

lemma kept_of_invalidateAll {db₁ : Registry} {organizations : List OrganizationId}
    (h : db₁.invalidateAll organizations = .ok db') (hpolicies : db₁.policies = db.policies)
    (hscope : ∀ organizationId, organizationId ∉ organizations →
      db₁.authority organizationId = db.authority organizationId) : PoliciesKept db db' := by
  obtain ⟨hagents, hkeys, hrows⟩ := invalidateAll_rows h
  intro p' hp'
  obtain ⟨p, hp, hkept, hraised⟩ := hrows p' hp'
  rw [hpolicies] at hp
  refine ⟨p, hp, hkept, fun hsame => ?_⟩
  have houtside : p.organizationId ∉ organizations := by
    intro hmem
    have hlt := hraised hmem
    omega
  have hend : db'.authority p.organizationId = db₁.authority p.organizationId := by
    apply Registry.authority_of_agents hkeys
    rw [Registry.agentsOf, hagents, Registry.agentsOf]
  exact hend.trans (hscope _ houtside)

lemma invalidate_eq (db : Registry) (organizationId : OrganizationId) :
    db.invalidate organizationId = db.invalidateAll [organizationId] := by
  simp only [Registry.invalidateAll]
  cases db.invalidate organizationId <;> rfl

lemma insertAgent_kept {row : AgentRecord} (h : db.insertAgent row = .ok db') :
    PoliciesKept db db' := by
  simp only [Registry.insertAgent, bind_ok, invalidate_eq] at h
  obtain ⟨agents, hagents, h⟩ := h
  refine kept_of_invalidateAll h rfl (fun organizationId hother => ?_)
  have hne : row.organizationId ≠ organizationId := fun heq => hother (by simp [heq])
  refine Registry.authority_of_agents rfl ?_
  simp [Registry.agentsOf, Table.insert_rows hagents, hne]

lemma updateAgents_kept {p : AgentRecord → Bool} {f : AgentRecord → AgentRecord}
    (h : db.updateAgents p f = .ok db') : PoliciesKept db db' := by
  simp only [Registry.updateAgents, bind_ok] at h
  obtain ⟨agents, hagents, h⟩ := h
  refine kept_of_invalidateAll h rfl (fun organizationId hother => ?_)
  refine Registry.authority_of_agents rfl ?_
  rw [Registry.agentsOf, Registry.agentsOf, Table.update_rows hagents]
  apply Table.filter_updated
  intro a ha hpa
  have hselected : a ∈ db.agents.select p := List.mem_filter.mpr ⟨ha, hpa⟩
  constructor
  · refine beq_eq_false_iff_ne.mpr (fun heq => hother (List.mem_flatMap.mpr ⟨a, hselected, ?_⟩))
    simp [heq]
  · refine beq_eq_false_iff_ne.mpr (fun heq => hother (List.mem_flatMap.mpr ⟨a, hselected, ?_⟩))
    simp [heq]

lemma deleteAgents_kept {p : AgentRecord → Bool} (h : db.deleteAgents p = .ok db') :
    PoliciesKept db db' := by
  simp only [Registry.deleteAgents, bind_ok] at h
  obtain ⟨_, _, h⟩ := h
  refine kept_of_invalidateAll h rfl (fun organizationId hother => ?_)
  refine Registry.authority_of_agents rfl ?_
  apply Table.filter_delete
  intro a ha hpa
  have hselected : a ∈ db.agents.select p := List.mem_filter.mpr ⟨ha, hpa⟩
  exact beq_eq_false_iff_ne.mpr (fun heq => hother (List.mem_map.mpr ⟨a, hselected, heq⟩))

lemma isKeyOf_of_notMem {keys : List AgentKeyRow} {organizationId : OrganizationId} {k : AgentKeyRow}
    (hk : k ∈ keys) (hother : organizationId ∉ db.keyOrganizations keys) :
    db.isKeyOf organizationId k = false := by
  by_contra hkey
  have hfound := Registry.isKeyOf_iff.mp (Bool.not_eq_false _ ▸ hkey)
  exact hother (List.mem_filterMap.mpr ⟨k, hk, hfound⟩)

lemma insertKey_kept {row : AgentKeyRow} (h : db.insertKey row = .ok db') : PoliciesKept db db' := by
  simp only [Registry.insertKey, bind_ok] at h
  obtain ⟨_, _, keys, hkeys, h⟩ := h
  refine kept_of_invalidateAll h rfl (fun organizationId hother => ?_)
  refine Registry.authority_of_keys rfl ?_
  have hrow := isKeyOf_of_notMem List.mem_cons_self hother
  simp [Table.insert_rows hkeys, hrow, Registry.keysOf]

lemma updateKeys_kept {p : AgentKeyRow → Bool} {f : AgentKeyRow → AgentKeyRow}
    (h : db.updateKeys p f = .ok db') : PoliciesKept db db' := by
  simp only [Registry.updateKeys, bind_ok] at h
  obtain ⟨keys, hkeys, h⟩ := h
  refine kept_of_invalidateAll h rfl (fun organizationId hother => ?_)
  refine Registry.authority_of_keys rfl ?_
  rw [Table.update_rows hkeys]
  apply Table.filter_updated
  intro k hk hpk
  have hbefore := isKeyOf_of_notMem (List.mem_filter.mpr ⟨hk, hpk⟩) hother
  exact ⟨hbefore, hbefore⟩

lemma deleteKeys_kept {p : AgentKeyRow → Bool} (h : db.deleteKeys p = .ok db') :
    PoliciesKept db db' := by
  refine kept_of_invalidateAll h rfl (fun organizationId hother => ?_)
  refine Registry.authority_of_keys rfl ?_
  exact Table.filter_delete (fun k hk hpk => isKeyOf_of_notMem (List.mem_filter.mpr ⟨hk, hpk⟩) hother)

theorem run_kept {statement : AuthorityStatement} (h : statement.run db = .ok db') :
    PoliciesKept db db' := by
  cases statement with
  | insertAgent => exact insertAgent_kept h
  | updateAgents => exact updateAgents_kept h
  | deleteAgents => exact deleteAgents_kept h
  | insertKey => exact insertKey_kept h
  | updateKeys => exact updateKeys_kept h
  | deleteKeys => exact deleteKeys_kept h

lemma statements_kept {statements : List AuthorityStatement}
    (h : statements.foldlM AuthorityStatement.run db = .ok db') : PoliciesKept db db' := by
  induction statements generalizing db with
  | nil =>
    rw [List.foldlM_nil, pure_ok] at h
    subst h
    exact .frame rfl rfl rfl
  | cons statement rest ih =>
    rw [List.foldlM_cons, bind_ok] at h
    obtain ⟨db₁, hfirst, hrest⟩ := h
    exact (run_kept hfirst).trans (ih hrest)

lemma upsertAgent_kept {row : AgentRecord} (h : db.upsertAgent row = .ok db') :
    PoliciesKept db db' := by
  unfold Registry.upsertAgent at h
  split at h
  · exact updateAgents_kept h
  · exact insertAgent_kept h

lemma registerVerificationKey_kept {tools : RegistryTools} {agentId : AgentId}
    {purpose : AgentKeyPurpose} {publicJwk : Jwk} {registeredAt : Instant}
    (h : db.registerVerificationKey tools agentId purpose publicJwk registeredAt = .ok db') :
    PoliciesKept db db' := by
  simp only [Registry.registerVerificationKey, bind_ok, pure_ok] at h
  obtain ⟨keyId, _, _, _, db₁, hretired, db₂, hinserted, _, _, _, _, rfl⟩ := h
  apply (updateKeys_kept hretired).trans
  unfold Registry.insertKeyUnlessTaken at hinserted
  split at hinserted
  · exact insertKey_kept hinserted
  · simp only [pure_ok] at hinserted
    subst hinserted
    exact .frame rfl rfl rfl

lemma persistEnrollment_kept {tools : RegistryTools} {invitation : InvitationRow}
    {e : AgentEnrollmentRecord} {snapshot : GatewaySnapshot} {fingerprint : Bytes}
    {enrolledAt : Instant}
    (h : db.persistEnrollment tools invitation e snapshot fingerprint enrolledAt = .ok db') :
    PoliciesKept db db' := by
  simp only [Registry.persistEnrollment, bind_ok, pure_ok] at h
  obtain ⟨items, _, db₁, hagent, devices, _, db₂, htransport, db₃, hstate, invitations, _, rfl⟩ := h
  have hdevices : PoliciesKept db₁ { db₁ with devices := devices } := .frame rfl rfl rfl
  have hkeys := (registerVerificationKey_kept htransport).trans (registerVerificationKey_kept hstate)
  exact (((upsertAgent_kept hagent).trans hdevices).trans hkeys).trans (.frame rfl rfl rfl)

lemma enrollAgent_kept (tools : RegistryTools) (code : InvitationCode) (e : AgentEnrollmentRecord)
    (snapshot : GatewaySnapshot) (limit : InvitationAttemptLimit) (prepare : Except Error Unit)
    (now later : Instant) :
    PoliciesKept db (db.enrollAgent tools code e snapshot limit prepare now later).1 := by
  have hcall := Registry.enrollAgent_cases tools db code e snapshot limit prepare now later
  generalize db.enrollAgent tools code e snapshot limit prepare now later = result at hcall
  cases hcall with
  | enrolled i db' value hi hid hstate hexpires hpersist =>
    have hattempts : PoliciesKept db (db.withoutStale code now limit.window) := .frame rfl rfl rfl
    exact hattempts.trans (persistEnrollment_kept hpersist)
  | failed | rejected | replayed => exact .frame rfl rfl rfl

variable {now : Instant} {policy : PersistedRouterPolicy} {organizationId : OrganizationId}

lemma retireAgentCredentials_kept {agentId : AgentId} {audit : AuditContext}
    (h : db.retireAgentCredentials organizationId agentId audit now = .ok db') :
    PoliciesKept db db' := by
  simp only [Registry.retireAgentCredentials, bind_ok, pure_ok] at h
  obtain ⟨agent, _, _, _, retired, hretired, invitations, _, rfl⟩ := h
  apply (updateKeys_kept hretired).trans
  split <;> exact .frame rfl rfl rfl

/-- A Controller stored a policy that it built from the active Agents of the registry. -/
def Builds (tools : AuthorityTools) (db : Registry) (event : AuthorityEvent)
    (organizationId : OrganizationId) (generation : Nat) (policy : PreparedPolicy) : Prop :=
  ∃ controller startedAt signedAt now new, ∃ row ∈ db.policies.rows,
    event = .applyCurrentPolicy controller startedAt signedAt now ∧
    controller.organizationId = organizationId ∧
    controller.configurationDigest = policy.configurationDigest ∧
    row.organizationId = organizationId ∧ row.generation + 1 = generation ∧
    row.authorityRevision = policy.policyRevision ∧
    controller.build tools.toPolicyTools signedAt generation (db.activeAgents organizationId) =
      .ok new ∧
    new.digest = policy.policyDigest ∧ new.signedPolicy = policy.signedPolicy ∧
    new.expiresAt = policy.expiresAt ∧ now < new.expiresAt ∧
    ∃ row' ∈ (event.apply tools db).policies.rows, row'.organizationId = organizationId ∧
      row'.generation = generation ∧ row'.policy = some policy

def Acknowledges (tools : AuthorityTools) (db : Registry) (event : AuthorityEvent)
    (organizationId : OrganizationId) (generation : Nat) (policy : PreparedPolicy) (now : Instant) :
    Prop :=
  ∃ given checkedAt,
    event = .request (.acknowledgeRouterPolicy organizationId given checkedAt now) rfl ∧
    given.generation = generation ∧ given.digest = policy.policyDigest ∧
    checkedAt < policy.expiresAt ∧
    ∃ row ∈ (event.apply tools db).policies.rows, row.organizationId = organizationId ∧
      row.generation = generation ∧ row.policy = some policy ∧ row.acknowledgedAt = some now

inductive PolicyFrom (tools : AuthorityTools) (db : Registry) (event : AuthorityEvent)
    (p' : RouterPolicyRow) : Prop
  | kept (p : RouterPolicyRow) (hp : p ∈ db.policies.rows)
      (h : PolicyKept db (event.apply tools db) p p')
  | new (h : p'.policy = none)
  | built (policy : PreparedPolicy) (hpolicy : p'.policy = some policy)
      (hrevision : policy.policyRevision = p'.authorityRevision)
      (hacknowledged : p'.acknowledgedAt = none)
      (hbuilds : Builds tools db event p'.organizationId p'.generation policy)
      (hsame : (event.apply tools db).authority p'.organizationId =
        db.authority p'.organizationId)
  | acknowledged (p : RouterPolicyRow) (hp : p ∈ db.policies.rows) (policy : PreparedPolicy)
      (now : Instant) (hrow : p' = { p with acknowledgedAt := some now })
      (hpolicy : p.policy = some policy) (hrevision : policy.policyRevision = p.authorityRevision)
      (hacknowledges : Acknowledges tools db event p.organizationId p.generation policy now)
      (hsame : (event.apply tools db).authority p.organizationId = db.authority p.organizationId)

def PoliciesFrom (tools : AuthorityTools) (db : Registry) (event : AuthorityEvent) : Prop :=
  ∀ p' ∈ (event.apply tools db).policies.rows, PolicyFrom tools db event p'

variable {tools : AuthorityTools}

lemma PoliciesKept.policyFrom {event : AuthorityEvent}
    (h : PoliciesKept db (event.apply tools db)) : PoliciesFrom tools db event := by
  intro p' hp'
  obtain ⟨p, hp, hkept⟩ := h p' hp'
  exact .kept p hp hkept

lemma PoliciesKept.committed {result : Except Error Registry}
    (h : ∀ db', result = .ok db' → PoliciesKept db db') :
    PoliciesKept db (committed db result) := by
  cases result with
  | ok db' => exact h db' rfl
  | error => exact .frame rfl rfl rfl

lemma policyIn_spec {row : RouterPolicyRow} (h : db.policyIn organizationId = .ok row) :
    row ∈ db.policies.rows ∧ row.organizationId = organizationId := by
  rw [Registry.policyIn, orRaise_ok] at h
  obtain ⟨hmem, hid⟩ := Table.first_spec h
  exact ⟨hmem, beq_iff_eq.mp hid⟩

lemma prepareRouterPolicy_ok {configurationDigest : Bytes} {refreshBefore : Instant}
    {build : Nat → List RouterAgent → Except Error NewRouterPolicy}
    (h : db.prepareRouterPolicy organizationId configurationDigest refreshBefore build now =
      .ok (db', policy)) :
    db' = db ∨ ∃ row ∈ db.policies.rows, ∃ new policies, row.organizationId = organizationId ∧
      build (row.generation + 1) (db.activeAgents organizationId) = .ok new ∧ now < new.expiresAt ∧
      db' = { db with policies := policies } ∧
      policies.rows = Table.updated db.policies.rows (fun p => p.organizationId == organizationId)
        (fun _ => row.prepared configurationDigest new) := by
  simp only [Registry.prepareRouterPolicy, bind_ok] at h
  obtain ⟨row, hrow, h⟩ := h
  obtain ⟨hmem, horganization⟩ := policyIn_spec hrow
  split at h
  · simp only [bind_ok, pure_ok, Prod.mk.injEq] at h
    obtain ⟨_, _, hdb, _⟩ := h
    exact .inl hdb.symm
  · simp only [bind_ok, pure_ok, Prod.mk.injEq] at h
    obtain ⟨⟨db₁, row'⟩, hbuild, _, _, hdb, _⟩ := h
    simp only [Registry.buildPolicy, bind_ok, require_ok, decide_eq_true_eq, pure_ok,
      Prod.mk.injEq] at hbuild
    obtain ⟨_, _, new, hnew, _, hexpires, policies, hpolicies, hdb₁, _⟩ := hbuild
    refine .inr ⟨row, hmem, new, policies, horganization, hnew, hexpires, ?_, ?_⟩
    · rw [← hdb, ← hdb₁]
    · rw [Table.update_rows hpolicies, horganization]

lemma policyFrom_of_policies {event : AuthorityEvent} {result : Except Error Registry}
    (hevent : event.apply tools db = committed db result)
    (h : ∀ db', result = .ok db' → ∃ policies, db' = { db with policies := policies } ∧
      ((∀ id, (event.apply tools db).authority id = db.authority id) → ∀ p' ∈ policies.rows,
        p' ∈ (event.apply tools db).policies.rows →
          p' ∈ db.policies.rows ∨ PolicyFrom tools db event p')) :
    PoliciesFrom tools db event := by
  cases result with
  | error => exact PoliciesKept.policyFrom (hevent.symm ▸ .frame rfl rfl rfl)
  | ok db' =>
    obtain ⟨policies, rfl, hrows⟩ := h db' rfl
    have hdb : event.apply tools db = { db with policies := policies } := hevent
    have hsame : ∀ id, (event.apply tools db).authority id = db.authority id := by
      rw [hdb]
      exact fun id => Registry.authority_of_agents rfl rfl
    intro p' hp'
    rcases hrows hsame p' (by rwa [hdb] at hp') hp' with hold | hfrom
    · exact .kept p' hold ⟨.refl p', fun _ => hsame _⟩
    · exact hfrom

lemma mem_of_updated_policies {policies : List RouterPolicyRow} {row p' : RouterPolicyRow}
    (hp' : p' ∈ Table.updated policies (fun p => p.organizationId == organizationId) (fun _ => row)) :
    p' ∈ policies ∨ p' = row := by
  rcases Table.updated_cases rfl hp' with ⟨hp, -⟩ | ⟨_, -, -, rfl⟩
  · exact .inl hp
  · exact .inr rfl

lemma applyCurrentPolicy_policyFrom {controller : RouterAdmissionController} {startedAt : Instant}
    {signedAt : Router.Time} :
    PoliciesFrom tools db (.applyCurrentPolicy controller startedAt signedAt now) := by
  refine policyFrom_of_policies rfl (fun db' h => ?_)
  obtain ⟨⟨_, policy⟩, hprepare, rfl⟩ := map_ok.mp h
  rcases prepareRouterPolicy_ok hprepare with
    hreused | ⟨row, hmem, new, policies, horganization, hnew, hexpires, hdb', hrows⟩
  · exact ⟨db.policies, hreused, fun _ p' hp' _ => .inl hp'⟩
  · refine ⟨policies, hdb', fun hsame p' hp' hmem' => ?_⟩
    rw [hrows] at hp'
    rcases mem_of_updated_policies hp' with hold | rfl
    · exact .inl hold
    · refine .inr (.built _ rfl rfl rfl ?_ (hsame _))
      rw [← horganization] at hnew
      exact ⟨controller, startedAt, signedAt, now, new, row, hmem, rfl, horganization.symm, rfl, rfl,
        rfl, rfl, hnew, rfl, rfl, rfl, hexpires, row.prepared controller.configurationDigest new,
        hmem', rfl, rfl, rfl⟩

lemma acknowledgeRouterPolicy_ok {checkedAt : Instant} {admission : RouterAdmission}
    (h : db.acknowledgeRouterPolicy organizationId policy checkedAt now = .ok (db', admission)) :
    ∃ row ∈ db.policies.rows, ∃ prepared policies, row.organizationId = organizationId ∧
      row.generation = policy.generation ∧ row.policy = some prepared ∧
      prepared.policyDigest = policy.digest ∧
      prepared.policyRevision = row.authorityRevision ∧ checkedAt < prepared.expiresAt ∧
      db' = { db with policies := policies } ∧
      policies.rows = Table.updated db.policies.rows (fun p => p.organizationId == organizationId)
        (fun _ => { row with acknowledgedAt := some now }) := by
  simp only [Registry.acknowledgeRouterPolicy, bind_ok, require_ok, pure_ok, Prod.mk.injEq,
    Bool.and_eq_true, beq_iff_eq, Option.any_eq_true, decide_eq_true_eq] at h
  obtain ⟨row, hrow, _, ⟨hgeneration, prepared, hprepared, ⟨hdigest, hrevision⟩, hchecked⟩, policies,
    hpolicies, hdb, _⟩ := h
  obtain ⟨hmem, horganization⟩ := policyIn_spec hrow
  exact ⟨row, hmem, prepared, policies, horganization, hgeneration, hprepared, hdigest, hrevision,
    hchecked, hdb.symm, Table.update_rows hpolicies⟩

lemma acknowledge_policyFrom {checkedAt : Instant} :
    PoliciesFrom tools db
      (.request (.acknowledgeRouterPolicy organizationId policy checkedAt now) rfl) := by
  refine policyFrom_of_policies rfl (fun db' h => ?_)
  obtain ⟨⟨_, admission⟩, hacknowledge, rfl⟩ := map_ok.mp h
  obtain ⟨row, hmem, prepared, policies, rfl, hgeneration, hprepared, hdigest, hrevision, hchecked,
    hdb', hrows⟩ := acknowledgeRouterPolicy_ok hacknowledge
  refine ⟨policies, hdb', fun hsame p' hp' hmem' => ?_⟩
  rw [hrows] at hp'
  rcases mem_of_updated_policies hp' with hold | rfl
  · exact .inl hold
  · refine .inr (.acknowledged row hmem prepared now rfl hprepared hrevision ?_ (hsame _))
    exact ⟨policy, checkedAt, rfl, hgeneration.symm, hdigest.symm, hchecked,
      { row with acknowledgedAt := some now }, hmem', rfl, rfl, hprepared, rfl⟩

lemma Registry.SameAuthority.kept (h : Registry.SameAuthority db db') : PoliciesKept db db' :=
  .frame h.policies h.agents h.keys

lemma ensureOrganization_policyFrom :
    PoliciesFrom tools db (.request (.ensureOrganization organizationId) rfl) := by
  refine policyFrom_of_policies rfl (fun db' h => ?_)
  unfold Registry.ensureOrganization at h
  split at h
  · cases h
    exact ⟨db.policies, rfl, fun _ p' hp' _ => .inl hp'⟩
  · simp only [bind_ok, pure_ok] at h
    obtain ⟨policies, hinsert, rfl⟩ := h
    refine ⟨policies, rfl, fun _ p' hp' _ => ?_⟩
    rw [Table.insert_rows hinsert, List.mem_append, List.mem_singleton] at hp'
    rcases hp' with hold | rfl
    · exact .inl hold
    · exact .inr (.new rfl)

theorem apply_policyFrom (tools : AuthorityTools) (db : Registry) (event : AuthorityEvent) :
    PoliciesFrom tools db event := by
  cases event with
  | change =>
    exact PoliciesKept.policyFrom (.committed (fun db' h => statements_kept h))
  | applyCurrentPolicy => exact applyCurrentPolicy_policyFrom
  | request event hprepares =>
    cases event with
    | ensureOrganization => exact ensureOrganization_policyFrom
    | createInvitation =>
      exact PoliciesKept.policyFrom
        (.committed fun db' h => (Registry.createInvitation_closes h).toSameAuthority.kept)
    | invitation | invitations =>
      exact PoliciesKept.policyFrom
        (.committed fun db' h => (Registry.expireInvitations_closes h).toSameAuthority.kept)
    | revokeInvitation =>
      exact PoliciesKept.policyFrom (Registry.revokeInvitation_closes _ _ _ _).toSameAuthority.kept
    | enrollAgent code e snapshot limit prepare now later =>
      exact PoliciesKept.policyFrom (enrollAgent_kept _ code e snapshot limit prepare now later)
    | retireAgentCredentials =>
      exact PoliciesKept.policyFrom (.committed (fun db' h => retireAgentCredentials_kept h))
    | statusSnapshot =>
      refine PoliciesKept.policyFrom (.committed (fun db' h => ?_))
      exact (Registry.applySnapshot_same h).kept
    | prepareRouterPolicy => cases hprepares
    | acknowledgeRouterPolicy => exact acknowledge_policyFrom

end

def authorityAfter (tools : AuthorityTools) (events : List AuthorityEvent) : Registry :=
  events.foldl (AuthorityEvent.apply tools) {}

lemma authorityAfter_concat (tools : AuthorityTools) (events : List AuthorityEvent)
    (event : AuthorityEvent) :
    authorityAfter tools (events ++ [event]) = event.apply tools (authorityAfter tools events) := by
  simp [authorityAfter, List.foldl_append]

/-- The Agents and keys are those of the earlier state, and so is the revision. -/
def AuthorityStands (organizationId : OrganizationId) (revision : Nat) (db db' : Registry) : Prop :=
  db'.authority organizationId = db.authority organizationId ∧
    ∃ row ∈ db'.policies.rows, row.organizationId = organizationId ∧ row.authorityRevision = revision

/-- The policy was built, and while its revision stands, from the Agents and keys that there are. -/
structure PolicyHistory (tools : AuthorityTools) (earlier : List AuthorityEvent)
    (event : AuthorityEvent) (later : List AuthorityEvent) (p : RouterPolicyRow)
    (policy : PreparedPolicy) : Prop where
  builds : Builds tools (authorityAfter tools earlier) event p.organizationId p.generation policy
  revision : policy.policyRevision ≤ p.authorityRevision
  same : policy.policyRevision = p.authorityRevision → ∀ middle rest, later = middle ++ rest →
    AuthorityStands p.organizationId policy.policyRevision (authorityAfter tools earlier)
      (authorityAfter tools (earlier ++ event :: middle))
  acknowledged : ∀ t, p.acknowledgedAt = some t → ∃ middle acknowledgment rest,
    later = middle ++ acknowledgment :: rest ∧
    Acknowledges tools (authorityAfter tools (earlier ++ event :: middle)) acknowledgment
      p.organizationId p.generation policy t

section

variable {tools : AuthorityTools}

lemma PolicyHistory.next {earlier later : List AuthorityEvent} {event next : AuthorityEvent}
    {p p' : RouterPolicyRow} {policy : PreparedPolicy}
    (h : PolicyHistory tools earlier event later p policy)
    (hp' : p' ∈ (authorityAfter tools (earlier ++ event :: (later ++ [next]))).policies.rows)
    (horganization : p'.organizationId = p.organizationId) (hgeneration : p'.generation = p.generation)
    (hrevision : p.authorityRevision ≤ p'.authorityRevision)
    (hsame : p'.authorityRevision = p.authorityRevision →
      (authorityAfter tools (earlier ++ event :: (later ++ [next]))).authority p.organizationId =
        (authorityAfter tools (earlier ++ event :: later)).authority p.organizationId)
    (hacknowledged : ∀ t, p'.acknowledgedAt = some t → p.acknowledgedAt = some t ∨
      Acknowledges tools (authorityAfter tools (earlier ++ event :: later)) next p.organizationId
        p.generation policy t) :
    PolicyHistory tools earlier event (later ++ [next]) p' policy where
  builds := by
    rw [horganization, hgeneration]
    exact h.builds
  revision := h.revision.trans hrevision
  same hcurrent middle rest hcut := by
    have hle := h.revision
    have hstill : policy.policyRevision = p.authorityRevision := by omega
    have hold := h.same hstill
    rw [horganization]
    rcases concat_eq_append hcut with ⟨_, rfl⟩ | ⟨rest', hcut', _⟩
    · have hbefore := (hold later [] (List.append_nil _).symm).1
      exact ⟨(hsame (by omega)).trans hbefore, p', hp', horganization, hcurrent.symm⟩
    · exact hold middle rest' hcut'
  acknowledged t ht := by
    rw [horganization, hgeneration]
    rcases hacknowledged t ht with hbefore | hnow
    · obtain ⟨middle, acknowledgment, rest, hcut, hacknowledges⟩ := h.acknowledged t hbefore
      exact ⟨middle, acknowledgment, rest ++ [next], by simp [hcut], hacknowledges⟩
    · exact ⟨later, next, [], rfl, hnow⟩

theorem policy_history (tools : AuthorityTools) (events : List AuthorityEvent) :
    ∀ p ∈ (authorityAfter tools events).policies.rows, ∀ policy, p.policy = some policy →
      ∃ earlier event later, events = earlier ++ event :: later ∧
        PolicyHistory tools earlier event later p policy := by
  induction events using List.reverseRecOn with
  | nil =>
    intro p hp
    simp [authorityAfter] at hp
  | append_singleton events next ih =>
    intro p' hp' policy hpolicy
    have hafter := authorityAfter_concat tools events next
    have hmem := hp'
    rw [hafter] at hp'
    cases apply_policyFrom tools _ next p' hp' with
    | kept p hp hkept =>
      obtain ⟨earlier, event, later, rfl, hhistory⟩ := ih p hp policy (hkept.policy ▸ hpolicy)
      have hmem' : p' ∈ (authorityAfter tools (earlier ++ event :: (later ++ [next]))).policies.rows := by
        simpa using hmem
      refine ⟨earlier, event, later ++ [next], by simp, hhistory.next hmem' hkept.organizationId
        hkept.generation hkept.revision (fun hrevision => ?_)
        (fun t ht => .inl (hkept.acknowledgedAt t ht))⟩
      have hsame := hkept.same hrevision
      rw [← hafter] at hsame
      simpa using hsame
    | new hnone =>
      rw [hnone] at hpolicy
      cases hpolicy
    | built policy' hpolicy' hrevision hnone hbuilds hsame =>
      obtain rfl : policy' = policy := Option.some.inj (hpolicy'.symm.trans hpolicy)
      refine ⟨events, next, [], rfl, hbuilds, hrevision.le, fun _ middle rest hcut => ?_,
        fun t ht => ?_⟩
      · obtain ⟨rfl, -⟩ := List.append_eq_nil_iff.mp hcut.symm
        refine ⟨?_, p', hmem, rfl, hrevision.symm⟩
        rw [hafter]
        exact hsame
      · rw [hnone] at ht
        cases ht
    | acknowledged p hp policy' now hrow hpolicy' hrevision hacknowledges hsame =>
      subst hrow
      obtain rfl : policy' = policy := Option.some.inj (hpolicy'.symm.trans hpolicy)
      obtain ⟨earlier, event, later, rfl, hhistory⟩ := ih p hp policy' hpolicy'
      refine ⟨earlier, event, later ++ [next], by simp, hhistory.next (by simpa using hmem) rfl rfl
        (le_refl _) (fun _ => ?_) (fun t ht => .inr ?_)⟩
      · rw [← hafter] at hsame
        simpa using hsame
      · obtain rfl : now = t := Option.some.inj ht
        exact hacknowledges

end

/-- The signed policy has the generation and lists the Agents that it was built for. -/
lemma build_ok {controller : RouterAdmissionController} {tools : Router.PolicyTools}
    {now : Router.Time} {generation : Nat} {agents : List RouterAgent} {new : NewRouterPolicy}
    (h : controller.build tools now generation agents = .ok new) :
    ∃ signed : Router.SignedPolicy, new.signedPolicy = signed.toJson tools ∧
      new.digest = signed.policy.digest tools ∧ signed.policy.generation = generation ∧
      signed.policy.agents = agents.map (fun agent => ⟨agent.agentId.text, agent.namespace⟩) := by
  simp only [RouterAdmissionController.build, bind_ok, mapError_ok, pure_ok] at h
  obtain ⟨signed, hsigned, digest, hverified, rfl⟩ := h
  simp only [Router.SignedPolicy.sign, bind_ok, pure_ok] at hsigned
  obtain ⟨_, _, rfl⟩ := hsigned
  simp only [Router.SignedPolicy.verify, bind_ok, pure_ok] at hverified
  obtain ⟨_, _, _, _, _, _, _, _, _, _, rfl⟩ := hverified
  exact ⟨_, rfl, rfl, rfl, rfl⟩

/-- An admission rests on a stored and acknowledged policy that lists the Agent. It was built at the
current revision from Agents and keys that have not changed since. -/
theorem router_admission_sound (tools : AuthorityTools) (events : List AuthorityEvent)
    (admission : RouterAdmission) (agentId : String) (now : Instant)
    (h : (authorityAfter tools events).requireAdmissionIn admission agentId now = .ok ()) :
    ∃ row ∈ (authorityAfter tools events).policies.rows, ∃ policy acknowledgedAt,
      row.organizationId = admission.organizationId ∧ row.generation = admission.generation ∧
      row.policy = some policy ∧ policy.policyDigest = admission.digest ∧
      policy.policyRevision = row.authorityRevision ∧ now < policy.expiresAt ∧
      row.acknowledgedAt = some acknowledgedAt ∧ now < acknowledgedAt + acknowledgmentLifetime ∧
      now < admission.validUntil ∧
      (∃ signed : Router.SignedPolicy, policy.signedPolicy = signed.toJson tools.toPolicyTools ∧
        policy.policyDigest = signed.policy.digest tools.toPolicyTools ∧
        signed.policy.generation = admission.generation ∧
        ∃ agent ∈ signed.policy.agents, agent.commonName = agentId) ∧
      ∃ earlier event later, events = earlier ++ event :: later ∧
        Builds tools (authorityAfter tools earlier) event admission.organizationId
          admission.generation policy ∧
        (∃ agent ∈ (authorityAfter tools earlier).activeAgents admission.organizationId,
          agent.agentId.text = agentId) ∧
        (∀ middle rest, later = middle ++ rest →
          AuthorityStands admission.organizationId policy.policyRevision
            (authorityAfter tools earlier) (authorityAfter tools (earlier ++ event :: middle))) ∧
        ∃ middle acknowledgment rest, later = middle ++ acknowledgment :: rest ∧
          Acknowledges tools (authorityAfter tools (earlier ++ event :: middle)) acknowledgment
            admission.organizationId admission.generation policy acknowledgedAt := by
  simp only [Registry.requireAdmissionIn, bind_ok, require_ok, Bool.and_eq_true, beq_iff_eq,
    Option.any_eq_true, decide_eq_true_eq] at h
  obtain ⟨row, hrow, ⟨⟨⟨hvalid, hgeneration⟩, policy, hpolicy, ⟨hdigest, hrevision⟩, hexpires⟩,
    acknowledgedAt, hacknowledged, hlive⟩, hactive⟩ := h
  obtain ⟨hmem, horganization⟩ := policyIn_spec hrow
  obtain ⟨earlier, event, later, rfl, hhistory⟩ := policy_history tools events row hmem policy hpolicy
  have hsame := hhistory.same hrevision
  have hbuilds := hhistory.builds
  rw [horganization] at hsame
  rw [horganization, hgeneration] at hbuilds
  have hactive' : ∃ agent ∈ (authorityAfter tools earlier).activeAgents admission.organizationId,
      agent.agentId.text = agentId := by
    rw [← Registry.activeAgents_of_authority (hsame later [] (List.append_nil _).symm).1]
    exact Registry.isActiveAgent_iff.mp hactive
  refine ⟨row, hmem, policy, acknowledgedAt, horganization, hgeneration, hpolicy, hdigest, hrevision,
    hexpires, hacknowledged, Int.lt_add_of_sub_right_lt hlive, hvalid, ?_, earlier, event, later, rfl,
    hbuilds, hactive', hsame, ?_⟩
  · obtain ⟨_, _, _, _, new, _, _, _, _, _, _, _, _, hnew, hdigest, hjson, _⟩ := hbuilds
    obtain ⟨signed, hsigned, hsum, hnumber, hlist⟩ := build_ok hnew
    obtain ⟨agent, hagent, htext⟩ := hactive'
    refine ⟨signed, hjson ▸ hsigned, hdigest ▸ hsum, hnumber,
      ⟨agent.agentId.text, agent.namespace⟩, ?_, htext⟩
    rw [hlist]
    exact List.mem_map_of_mem hagent
  · rw [← horganization, ← hgeneration]
    exact hhistory.acknowledged acknowledgedAt hacknowledged

def policyTools : AuthorityTools := { onboardingTools, sampleCrypto with
  isWeak := fun _ => false
  rfc3339Nanos := fun t => String.ofList (Reference.autoSi (t / 1000)) }

def policyController : RouterAdmissionController :=
  ⟨sampleScope.organizationId, "fleet-1", ["controller-1"], "inari/agents", [], List.replicate 32 7⟩

def policyAgent : AgentId := ⟨"agt_0123456789abcdef01234567", by decide +kernel⟩

def policyDigest : Bytes :=
  (policyController.routerPolicy 1
    [⟨policyAgent.text, "inari/agents/agt_0123456789abcdef01234567"⟩] 1000000000).digest
    policyTools.toPolicyTools

def admittedRun : List AuthorityEvent :=
  [.request (.ensureOrganization sampleScope.organizationId) rfl,
    .request newInvitation rfl,
    .request (.enrollAgent invitationCode { sampleEnrollment with
      agentId := policyAgent
      «namespace» := "inari/agents/agt_0123456789abcdef01234567" } ⟨0, [], []⟩ attemptLimit (.ok ())
      0 0) rfl,
    .applyCurrentPolicy policyController 1000000 1000000000 1000000,
    .request (.acknowledgeRouterPolicy sampleScope.organizationId
      ⟨1, .null, policyDigest, 46000000, []⟩ 2000000 3000000) rfl]

def sampleAdmission : RouterAdmission := ⟨sampleScope.organizationId, 1, policyDigest, 13000000⟩

theorem sample_admission_built :
    (authorityAfter policyTools admittedRun).requireAdmissionIn sampleAdmission policyAgent.text
        4000000 = .ok () ∧
      ∃ (policy : PreparedPolicy) (signed : Router.SignedPolicy),
        policy.signedPolicy = signed.toJson policyTools.toPolicyTools ∧
        (∃ agent ∈ signed.policy.agents, agent.commonName = policyAgent.text) ∧
        ∃ earlier event later, admittedRun = earlier ++ event :: later ∧
          Builds policyTools (authorityAfter policyTools earlier) event sampleScope.organizationId 1
            policy := by
  have hadmitted : (authorityAfter policyTools admittedRun).requireAdmissionIn sampleAdmission
      policyAgent.text 4000000 = .ok () := by
    decide +kernel
  obtain ⟨_, _, policy, _, _, _, _, _, _, _, _, _, _, ⟨signed, hsigned, _, _, hlisted⟩, earlier,
    event, later, hrun, hbuilds, _⟩ :=
    router_admission_sound policyTools admittedRun sampleAdmission policyAgent.text 4000000 hadmitted
  exact ⟨hadmitted, policy, signed, hsigned, hlisted, earlier, event, later, hrun, hbuilds⟩

end Inari.Controller
