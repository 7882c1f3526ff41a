import Inari.Controller.RouterPolicy
import Inari.Lib.Moves

/-!
# What the statements on the registry write

One lemma for each operation says which tables it writes and how keys and invitations move.
-/

namespace Inari.Controller

open Lib

inductive KeyMove (k : AgentKeyRow) : AgentKeyRow → Prop
  | stays : KeyMove k k
  | retired (now : Instant) (h : k.retiredAt = none) :
      KeyMove k { k with retiredAt := some now }

lemma KeyMove.trans {a b c : AgentKeyRow} (h : KeyMove a b) (h' : KeyMove b c) : KeyMove a c := by
  cases h with
  | stays => exact h'
  | retired now h =>
    cases h' with
    | stays => exact .retired now h
    | retired now' h' => cases h'

abbrev KeyStep (db db' : Registry) : Prop :=
  Moves KeyMove (fun _ => True) db.keys.rows db'.keys.rows

lemma KeyStep.trans {db db' db'' : Registry} (h : KeyStep db db') (h' : KeyStep db' db'') :
    KeyStep db db'' :=
  Moves.trans (fun _ _ _ => KeyMove.trans) (fun _ _ _ _ => trivial) h h'

lemma KeyStep.frame {db db' : Registry} (h : db'.keys = db.keys) : KeyStep db db' := by
  rw [KeyStep, h]
  exact .refl (fun _ => .stays) _

/-- The event is neither an enrollment, nor the retirement of one, nor a snapshot. -/
def RegistryEvent.isQuiet : RegistryEvent → Bool
  | .enrollAgent .. | .retireAgentCredentials .. | .statusSnapshot .. => false
  | _ => true

namespace Registry

variable {tools : RegistryTools} {db db' : Registry}

variable {organizationId : OrganizationId} {now enrolledAt later : Instant} {agentId : AgentId}
  {e : AgentEnrollmentRecord} {snapshot : GatewaySnapshot} {α : Type} {code : InvitationCode}
  {limit : InvitationAttemptLimit} {audit : AuditContext}

lemma invalidate_ok (h : db.invalidate organizationId = .ok db') :
    ∃ policies, db' = { db with policies := policies } := by
  simp only [invalidate, bind_ok, pure_ok] at h
  obtain ⟨policies, _, rfl⟩ := h
  exact ⟨policies, rfl⟩

lemma invalidateAll_ok {organizations : List OrganizationId}
    (h : db.invalidateAll organizations = .ok db') :
    ∃ policies, db' = { db with policies := policies } := by
  induction organizations generalizing db with
  | nil =>
    simp only [invalidateAll, pure_ok] at h
    exact ⟨db.policies, by rw [← h]⟩
  | cons organizationId rest ih =>
    simp only [invalidateAll, bind_ok] at h
    obtain ⟨db₁, hfirst, hrest⟩ := h
    obtain ⟨_, rfl⟩ := invalidate_ok hfirst
    obtain ⟨policies, rfl⟩ := ih hrest
    exact ⟨policies, rfl⟩

lemma upsertAgent_ok {row : AgentRecord} (h : db.upsertAgent row = .ok db') :
    ∃ agents policies, db' = { db with agents := agents, policies := policies } := by
  unfold upsertAgent at h
  split at h
  · simp only [updateAgents, bind_ok] at h
    obtain ⟨agents, _, h⟩ := h
    obtain ⟨policies, rfl⟩ := invalidateAll_ok h
    exact ⟨agents, policies, rfl⟩
  · simp only [insertAgent, bind_ok] at h
    obtain ⟨agents, _, h⟩ := h
    obtain ⟨policies, rfl⟩ := invalidate_ok h
    exact ⟨agents, policies, rfl⟩

lemma updateKeys_ok {p : AgentKeyRow → Bool} {f : AgentKeyRow → AgentKeyRow}
    (h : db.updateKeys p f = .ok db') :
    ∃ keys policies, db' = { db with keys := keys, policies := policies } ∧
      keys.rows = Table.updated db.keys.rows p (fun k => { f k with agentId := k.agentId }) := by
  simp only [updateKeys, bind_ok] at h
  obtain ⟨keys, hkeys, h⟩ := h
  obtain ⟨policies, rfl⟩ := invalidateAll_ok h
  exact ⟨keys, policies, rfl, Table.update_rows hkeys⟩

/-- A retired key is not retired again. -/
lemma retireKeys_step {p : AgentKeyRow → Bool} (hp : ∀ k, p k = true → k.retiredAt = none)
    (h : db.updateKeys p (fun k => { k with retiredAt := some now }) = .ok db') :
    KeyStep db db' := by
  obtain ⟨keys, policies, rfl, hkeys⟩ := updateKeys_ok h
  rw [KeyStep, hkeys]
  exact .updated (fun _ => .stays) (fun k _ hk => .retired now (hp k hk))

lemma insertKeyUnlessTaken_ok {row : AgentKeyRow} (h : db.insertKeyUnlessTaken row = .ok db') :
    ∃ keys policies, db' = { db with keys := keys, policies := policies } ∧ KeyStep db db' := by
  unfold insertKeyUnlessTaken at h
  split at h
  · simp only [insertKey, bind_ok] at h
    obtain ⟨_, _, keys, hkeys, h⟩ := h
    obtain ⟨policies, rfl⟩ := invalidateAll_ok h
    refine ⟨keys, policies, rfl, ?_⟩
    rw [KeyStep, Table.insert_rows hkeys]
    exact .append (fun _ => .stays) trivial
  · simp only [pure_ok] at h
    subst h
    exact ⟨db.keys, db.policies, rfl, .frame rfl⟩

lemma registerVerificationKey_ok {purpose : AgentKeyPurpose} {publicJwk : Jwk}
    {registeredAt : Instant}
    (h : db.registerVerificationKey tools agentId purpose publicJwk registeredAt = .ok db') :
    ∃ keys policies, db' = { db with keys := keys, policies := policies } ∧ KeyStep db db' := by
  simp only [registerVerificationKey, bind_ok, pure_ok] at h
  obtain ⟨keyId, _, _, _, db₁, hretired, db₂, hinserted, _, _, _, _, rfl⟩ := h
  have hfirst : KeyStep db db₁ := by
    refine retireKeys_step (fun k hk => ?_) hretired
    simp only [Bool.and_eq_true, Option.isNone_iff_eq_none] at hk
    exact hk.2
  obtain ⟨_, _, rfl, _⟩ := updateKeys_ok hretired
  obtain ⟨keys, policies, rfl, hsecond⟩ := insertKeyUnlessTaken_ok hinserted
  exact ⟨keys, policies, rfl, hfirst.trans hsecond⟩

lemma persistEnrollment_writes {invitation : InvitationRow} {fingerprint : Bytes}
    (h : db.persistEnrollment tools invitation e snapshot fingerprint enrolledAt = .ok db') :
    (∃ items, parseInventory tools snapshot.inventory = .ok items ∧
      applyInventory (db.devices.delete (fun d => d.agentId == e.agentId)) items e.agentId e.siteId
        snapshot.generatedAt = .ok db'.devices) ∧
    (∃ db₁, db.upsertAgent (e.row enrolledAt) = .ok db₁ ∧ db'.agents = db₁.agents) ∧
    KeyStep db db' ∧
    db'.attempts = db.attempts.delete (fun a => a.invitationId == invitation.invitationId) ∧
    db'.invitations.rows = Table.updated db.invitations.rows
      (fun i => i.invitationId == invitation.invitationId)
      (fun _ => invitation.bound e snapshot fingerprint enrolledAt) := by
  simp only [persistEnrollment, bind_ok, pure_ok] at h
  obtain ⟨items, hitems, db₁, hagent, devices, hdevices, db₂, htransport, db₃, hstate, invitations,
    hinvitations, rfl⟩ := h
  have hagents := hagent
  obtain ⟨agents, _, rfl⟩ := upsertAgent_ok hagent
  obtain ⟨_, _, rfl, hfirst⟩ := registerVerificationKey_ok htransport
  obtain ⟨_, _, rfl, hsecond⟩ := registerVerificationKey_ok hstate
  exact ⟨⟨items, hitems, hdevices⟩, ⟨_, hagents, rfl⟩, KeyStep.trans hfirst hsecond, rfl,
    Table.update_rows hinvitations⟩

lemma persistEnrollment_ok {invitation : InvitationRow} {fingerprint : Bytes}
    (h : db.persistEnrollment tools invitation e snapshot fingerprint enrolledAt = .ok db') :
    KeyStep db db' ∧ db'.invitations.rows = Table.updated db.invitations.rows
      (fun i => i.invitationId == invitation.invitationId)
      (fun _ => invitation.bound e snapshot fingerprint enrolledAt) := by
  obtain ⟨_, _, hkeys, _, hinvitations⟩ := persistEnrollment_writes h
  exact ⟨hkeys, hinvitations⟩

def withoutStale (db : Registry) (code : InvitationCode) (now : Instant) (window : Nat) : Registry :=
  { db with attempts := db.attempts.delete (isStale code now window) }

/-- A call of `enroll_agent` records a wrong secret, repeats the stored enrollment, enrolls, or does
nothing. -/
inductive Enrolls (tools : RegistryTools) (db : Registry) (code : InvitationCode)
    (e : AgentEnrollmentRecord) (snapshot : GatewaySnapshot) (limit : InvitationAttemptLimit)
    (now : Instant) : Registry × Except Error (α × Instant) → Prop
  | failed (error : Error) : Enrolls tools db code e snapshot limit now (db, .error error)
  | rejected (i : InvitationRow) (attempts : Table attemptSpec) (hi : i ∈ db.invitations.rows)
      (hid : i.invitationId = code.id) (hwindow : limit.window ≤ maxWindow)
      (hroom : (db.withoutStale code now limit.window).attempts.rowcount
        (fun a => a.invitationId == code.id) < max limit.maxFailures 1)
      (hattempts : (db.withoutStale code now limit.window).attempts.insert ⟨code.id, now⟩ =
        (.ok attempts : Except Error _)) :
      Enrolls tools db code e snapshot limit now ({ db with attempts := attempts },
        .error rejectedSecret)
  | replayed (i : InvitationRow) (value : α) (enrolledAt : Instant) (hi : i ∈ db.invitations.rows)
      (hid : i.invitationId = code.id) (hstate : i.state = .enrolled) (hexpires : now < i.expiresAt)
      (hreplay : (db.withoutStale code now limit.window).replayedEnrollment i e
        (e.fingerprint tools) = .ok enrolledAt) :
      Enrolls tools db code e snapshot limit now (db.withoutStale code now limit.window,
        .ok (value, enrolledAt))
  | enrolled (i : InvitationRow) (db' : Registry) (value : α) (hi : i ∈ db.invitations.rows)
      (hid : i.invitationId = code.id) (hstate : i.state = .created) (hexpires : now < i.expiresAt)
      (hpersist : (db.withoutStale code now limit.window).persistEnrollment tools i e snapshot
        (e.fingerprint tools) now = .ok db') :
      Enrolls tools db code e snapshot limit now (db', .ok (value, now))

lemma enrollAgent_cases (tools : RegistryTools) (db : Registry) (code : InvitationCode)
    (e : AgentEnrollmentRecord) (snapshot : GatewaySnapshot) (limit : InvitationAttemptLimit)
    (prepare : Except Error α) (now later : Instant) :
    Enrolls tools db code e snapshot limit now
      (db.enrollAgent tools code e snapshot limit prepare now later) := by
  unfold enrollAgent
  split
  · rename_i result h
    obtain ⟨db', result⟩ := result
    simp only [enrollTransaction, bind_ok, orRaise_ok] at h
    obtain ⟨i, hfirst, ⟨db₁, failures⟩, hrecent, _, hroom, h⟩ := h
    simp only [recentFailures, bind_ok, pure_ok, Prod.mk.injEq, require_ok, decide_eq_true_eq]
      at hrecent
    obtain ⟨_, hwindow, rfl, rfl⟩ := hrecent
    simp only [require_ok, decide_eq_true_eq] at hroom
    obtain ⟨hi, hid⟩ := Table.first_spec hfirst
    rw [beq_iff_eq] at hid
    split at h
    · simp only [bind_ok, pure_ok, require_ok, decide_eq_true_eq, Prod.mk.injEq] at h
      obtain ⟨_, hexpires, _, _, ⟨db₂, value, enrolledAt⟩, hinvited, rfl, rfl⟩ := h
      unfold enrollInvited at hinvited
      split at hinvited
      · simp only [bind_ok, pure_ok, Prod.mk.injEq] at hinvited
        obtain ⟨_, -, _, hpersist, rfl, rfl, rfl⟩ := hinvited
        exact .enrolled i _ _ hi hid ‹_› hexpires hpersist
      · simp only [bind_ok, pure_ok, Prod.mk.injEq] at hinvited
        obtain ⟨_, hreplay, _, -, _, -, rfl, rfl, rfl⟩ := hinvited
        exact .replayed i _ _ hi hid ‹_› hexpires hreplay
      · cases hinvited
    · simp only [bind_ok, pure_ok, Prod.mk.injEq] at h
      obtain ⟨attempts, hattempts, rfl, rfl⟩ := h
      rw [hid] at hattempts
      exact .rejected i attempts hi hid hwindow hroom hattempts
  · exact .failed _

lemma retireAgentCredentials_ok
    (h : db.retireAgentCredentials organizationId agentId audit now = .ok db') :
    KeyStep db db' ∧ db'.invitations.rows = Table.updated db.invitations.rows
      (fun i => i.boundAgentId == some agentId && (i.state == .enrolled || i.state == .online))
      (fun i => { i with state := .revoked, revokedAt := some now }) ∧ db'.attempts = db.attempts ∧
      db'.devices = db.devices.delete (fun d => d.agentId == agentId) := by
  simp only [retireAgentCredentials, bind_ok, pure_ok] at h
  obtain ⟨agent, _, _, _, retired, hretired, invitations, hinvitations, rfl⟩ := h
  have hkeys : KeyStep db retired := by
    refine retireKeys_step (fun k hk => ?_) hretired
    simp only [Bool.and_eq_true, Option.isNone_iff_eq_none] at hk
    exact hk.2
  obtain ⟨keys, policies, rfl, _⟩ := updateKeys_ok hretired
  split <;> exact ⟨hkeys, Table.update_rows hinvitations, rfl, rfl⟩

structure SameAuthority (db db' : Registry) : Prop where
  agents : db'.agents = db.agents
  keys : db'.keys = db.keys
  policies : db'.policies = db.policies

inductive CloseMove (i : InvitationRow) : InvitationRow → Prop
  | expired : CloseMove i { i with state := .expired }
  | revoked (now : Instant) : CloseMove i { i with state := .revoked, revokedAt := some now }

structure Closes (db db' : Registry) : Prop extends SameAuthority db db' where
  devices : db'.devices = db.devices
  attempts : db'.attempts = db.attempts
  moves : Moves (Relation.ReflTransGen CloseMove) (fun i => i.boundAgentId = none)
    db.invitations.rows db'.invitations.rows

lemma Closes.refl (db : Registry) : Closes db db :=
  ⟨⟨rfl, rfl, rfl⟩, rfl, rfl, .refl (fun _ => .refl) _⟩

lemma Closes.trans {db'' : Registry} (h : Closes db db') (h' : Closes db' db'') :
    Closes db db'' := by
  refine ⟨⟨h'.agents.trans h.agents, h'.keys.trans h.keys, h'.policies.trans h.policies⟩,
    h'.devices.trans h.devices, h'.attempts.trans h.attempts,
    h.moves.trans (fun _ _ _ => .trans) (fun i i' hi hmoves => ?_) h'.moves⟩
  induction hmoves with
  | refl => exact hi
  | tail _ hmove ih => cases hmove <;> exact ih

lemma createInvitation_closes {digest : DigestTools} {siteId : SiteId} {label : Option String}
    {createdAt expiresAt : Instant}
    (h : db.createInvitation digest code organizationId siteId label createdAt expiresAt audit =
      .ok db') : Closes db db' := by
  simp only [createInvitation, bind_ok, pure_ok] at h
  obtain ⟨invitations, hinsert, rfl⟩ := h
  refine ⟨⟨rfl, rfl, rfl⟩, rfl, rfl, ?_⟩
  change Moves _ _ db.invitations.rows invitations.rows
  rw [Table.insert_rows hinsert]
  exact .append (fun _ => .refl) rfl

lemma expireInvitations_closes {p : InvitationRow → Bool} (h : db.expireInvitations p now = .ok db') :
    Closes db db' := by
  simp only [expireInvitations, bind_ok, pure_ok] at h
  obtain ⟨invitations, hupdate, rfl⟩ := h
  refine ⟨⟨rfl, rfl, rfl⟩, rfl, rfl, ?_⟩
  change Moves _ _ db.invitations.rows invitations.rows
  rw [Table.update_rows hupdate]
  exact .updated (fun _ => .refl) (fun _ _ _ => .single .expired)

lemma invitation_closes {invitationId : String} {row : InvitationRow}
    (h : db.invitation invitationId now = .ok (db', row)) : Closes db db' := by
  simp only [invitation, bind_ok, pure_ok, Prod.mk.injEq] at h
  obtain ⟨_, hexpire, _, _, rfl, _⟩ := h
  exact expireInvitations_closes hexpire

lemma revokeRow_closes {invitationId : String}
    (h : db.revokeRow invitationId now organizationId audit = .ok db') : Closes db db' := by
  simp only [revokeRow, bind_ok, pure_ok] at h
  obtain ⟨invitations, hupdate, rfl⟩ := h
  refine ⟨⟨rfl, rfl, rfl⟩, rfl, rfl, ?_⟩
  change Moves _ _ db.invitations.rows invitations.rows
  rw [Table.update_rows hupdate]
  exact .updated (fun _ => .refl) (fun _ _ _ => .single (.revoked now))

lemma revokeInvitation_closes (invitationId : String) (now : Instant)
    (organizationId : OrganizationId) (audit : AuditContext) :
    Closes db (db.revokeInvitation invitationId now organizationId audit).1 := by
  unfold revokeInvitation
  split
  · split
    · exact .refl db
    · rename_i db₁ hrevoke
      split
      · exact revokeRow_closes hrevoke
      · exact (revokeRow_closes hrevoke).trans (invitation_closes ‹_›)
  · split
    · exact .refl db
    · rename_i db₁ row hread
      split <;> exact invitation_closes hread

lemma applySnapshot_cases (h : db.applySnapshot tools agentId snapshot now = .ok db') :
    (db' = db ∧ ∀ agent i, db.agents.first (fun a => a.agentId == agentId) = some agent →
      db.boundInvitation agentId = some i → ¬appliesTo agent i snapshot = true) ∨
    ∃ items agent i, parseInventory tools snapshot.inventory = .ok items ∧
      db.agents.first (fun a => a.agentId == agentId) = some agent ∧
      db.boundInvitation agentId = some i ∧ appliesTo agent i snapshot = true ∧
      applyInventory db.devices items agentId agent.siteId snapshot.generatedAt = .ok db'.devices ∧
      db'.invitations.rows = Table.updated db.invitations.rows
        (fun j => j.invitationId == i.invitationId)
        (fun _ => { i with
          state := .online
          onlineAt := i.onlineAt.or (some now)
          latestSnapshot := some snapshot }) ∧
      db' = { db with devices := db'.devices, invitations := db'.invitations } := by
  simp only [applySnapshot, bind_ok] at h
  obtain ⟨items, hitems, h⟩ := h
  split at h
  · rename_i agent i hagent hi
    split at h
    · rename_i happlies
      simp only [bind_ok, pure_ok] at h
      obtain ⟨devices, hdevices, invitations, hinvitations, rfl⟩ := h
      exact .inr ⟨items, agent, i, hitems, hagent, hi, happlies, hdevices,
        Table.update_rows hinvitations, rfl⟩
    · cases h
      refine .inl ⟨rfl, fun agent' i' hagent' hi' => ?_⟩
      cases hagent.symm.trans hagent'
      cases hi.symm.trans hi'
      assumption
  · rename_i hnone
    cases h
    exact .inl ⟨rfl, fun agent i hagent hi => (hnone agent i hagent hi).elim⟩

lemma applySnapshot_same (h : db.applySnapshot tools agentId snapshot now = .ok db') :
    SameAuthority db db' := by
  rcases applySnapshot_cases h with ⟨rfl, -⟩ | ⟨_, _, _, _, _, _, _, _, _, hwrites⟩
  · exact ⟨rfl, rfl, rfl⟩
  · rw [hwrites]
    exact ⟨rfl, rfl, rfl⟩

lemma prepareRouterPolicy_policies {configurationDigest : Bytes} {refreshBefore : Instant}
    {build : Nat → List RouterAgent → Except Error NewRouterPolicy}
    (h : (db.prepareRouterPolicy organizationId configurationDigest refreshBefore build now).map
      Prod.fst = .ok db') : ∃ policies, db' = { db with policies := policies } := by
  obtain ⟨⟨_, policy⟩, hprepare, rfl⟩ := map_ok.mp h
  simp only [prepareRouterPolicy, bind_ok] at hprepare
  obtain ⟨row, _, hprepare⟩ := hprepare
  split at hprepare
  · simp only [bind_ok, pure_ok, Prod.mk.injEq] at hprepare
    obtain ⟨_, _, rfl, _⟩ := hprepare
    exact ⟨db.policies, rfl⟩
  · simp only [bind_ok, pure_ok, Prod.mk.injEq, buildPolicy] at hprepare
    obtain ⟨⟨db₁, row'⟩, ⟨_, _, _, _, _, _, policies, _, rfl, _⟩, _, _, rfl, _⟩ := hprepare
    exact ⟨policies, rfl⟩

lemma acknowledgeRouterPolicy_policies {policy : PersistedRouterPolicy} {checkedAt : Instant}
    (h : (db.acknowledgeRouterPolicy organizationId policy checkedAt now).map Prod.fst = .ok db') :
    ∃ policies, db' = { db with policies := policies } := by
  obtain ⟨⟨_, admission⟩, hacknowledge, rfl⟩ := map_ok.mp h
  simp only [acknowledgeRouterPolicy, bind_ok, pure_ok, Prod.mk.injEq] at hacknowledge
  obtain ⟨row, _, _, _, policies, _, rfl, _⟩ := hacknowledge
  exact ⟨policies, rfl⟩

lemma ensureOrganization_policies (h : db.ensureOrganization organizationId = .ok db') :
    ∃ policies, db' = { db with policies := policies } := by
  unfold ensureOrganization at h
  split at h
  · cases h
    exact ⟨db.policies, rfl⟩
  · simp only [bind_ok, pure_ok] at h
    obtain ⟨policies, _, rfl⟩ := h
    exact ⟨policies, rfl⟩

/-- A quiet event closes invitations at most, and may write the policy. -/
theorem apply_closes {event : RegistryEvent} (he : event.isQuiet = true) :
    Closes { db with policies := (event.apply tools db).policies } (event.apply tools db) := by
  have hsame : ∀ {db' : Registry}, Closes db db' → Closes { db with policies := db'.policies } db' := by
    intro db' h
    rw [h.policies]
    exact h
  have hpolicies : ∀ {result : Except Error Registry},
      (∀ db', result = .ok db' → ∃ policies, db' = { db with policies := policies }) →
      Closes { db with policies := (committed db result).policies } (committed db result) := by
    intro result h
    cases result with
    | error => exact .refl db
    | ok db' =>
      obtain ⟨policies, rfl⟩ := h db' rfl
      exact .refl _
  have hclosed : ∀ {result : Except Error Registry}, (∀ db', result = .ok db' → Closes db db') →
      Closes { db with policies := (committed db result).policies } (committed db result) := by
    intro result h
    cases result with
    | error => exact .refl db
    | ok db' => exact hsame (h db' rfl)
  cases event with
  | ensureOrganization => exact hpolicies fun db' => ensureOrganization_policies
  | prepareRouterPolicy => exact hpolicies fun db' => prepareRouterPolicy_policies
  | acknowledgeRouterPolicy => exact hpolicies fun db' => acknowledgeRouterPolicy_policies
  | createInvitation => exact hclosed fun db' => createInvitation_closes
  | invitation | invitations => exact hclosed fun db' => expireInvitations_closes
  | revokeInvitation => exact hsame (revokeInvitation_closes _ _ _ _)
  | enrollAgent | retireAgentCredentials | statusSnapshot => cases he

end Registry

end Inari.Controller
