import Inari.Controller.Samples
import Inari.Proofs.RegistryWrites

/-!
# An invitation enrolls one Agent

An invitation is bound when it leaves `created`. From then on an enrollment with its code is a
replay.
-/

namespace Inari.Controller

open Lib

def registryAfter (tools : RegistryTools) (events : List RegistryEvent) : Registry :=
  events.foldl (RegistryEvent.apply tools) {}

structure InvitationBinding where
  agentId : Option AgentId
  keyId : Option String
  fingerprint : Option Bytes
  enrolledAt : Option Instant

def InvitationRow.binding (i : InvitationRow) : InvitationBinding :=
  ⟨i.boundAgentId, i.boundKeyId, i.enrollmentFingerprint, i.enrolledAt⟩

inductive InvitationMove (i : InvitationRow) : InvitationRow → Prop
  | expired : InvitationMove i { i with state := .expired }
  | revoked (now : Instant) : InvitationMove i { i with state := .revoked, revokedAt := some now }
  | bound (e : AgentEnrollmentRecord) (snapshot : GatewaySnapshot) (fingerprint : Bytes)
      (enrolledAt : Instant) (h : i.state = .created) :
      InvitationMove i (i.bound e snapshot fingerprint enrolledAt)
  | online (snapshot : GatewaySnapshot) (now : Instant) :
      InvitationMove i { i with
        state := .online
        onlineAt := i.onlineAt.or (some now)
        latestSnapshot := some snapshot }

abbrev InvitationMoves : InvitationRow → InvitationRow → Prop :=
  Relation.ReflTransGen InvitationMove

/-- An invitation that was created unbound, and what became of it. -/
def InvitationRow.IsNew (i : InvitationRow) : Prop :=
  ∃ j : InvitationRow, j.boundAgentId = none ∧ InvitationMoves j i

abbrev InvitationStep (db db' : Registry) : Prop :=
  Moves InvitationMoves InvitationRow.IsNew db.invitations.rows db'.invitations.rows

section

variable {tools : RegistryTools} {db db' : Registry} {i i' : InvitationRow}
  {p : InvitationRow → Bool} {now : Instant} {organizationId : OrganizationId}
  {audit : AuditContext}

lemma InvitationMove.kept (h : InvitationMove i i') :
    i'.invitationId = i.invitationId ∧ i'.state ≠ .created ∧
      (i.state ≠ .created → i'.binding = i.binding) := by
  cases h with
  | expired | revoked => exact ⟨rfl, by simp, fun _ => rfl⟩
  | bound e snapshot fingerprint enrolledAt h =>
    exact ⟨rfl, by simp [InvitationRow.bound], fun hne => absurd h hne⟩
  | online => exact ⟨rfl, by simp, fun _ => rfl⟩

lemma InvitationMoves.kept (h : InvitationMoves i i') :
    i'.invitationId = i.invitationId ∧
      (i.state ≠ .created → i'.state ≠ .created ∧ i'.binding = i.binding) := by
  induction h with
  | refl => exact ⟨rfl, fun h => ⟨h, rfl⟩⟩
  | tail _ hmove ih =>
    refine ⟨hmove.kept.1.trans ih.1, fun h => ⟨hmove.kept.2.1, ?_⟩⟩
    exact (hmove.kept.2.2 (ih.2 h).1).trans (ih.2 h).2

lemma InvitationMoves.created (h : InvitationMoves i i') (hstate : i'.state = .created) :
    i' = i := by
  cases h.cases_tail with
  | inl h => exact h
  | inr h =>
    obtain ⟨_, _, hmove⟩ := h
    exact absurd hstate hmove.kept.2.1

lemma InvitationStep.frame (h : db'.invitations = db.invitations) : InvitationStep db db' := by
  rw [InvitationStep, h]
  exact .refl (fun _ => .refl) _

lemma InvitationStep.rows {f : InvitationRow → InvitationRow}
    (h : db'.invitations.rows = Table.updated db.invitations.rows p f)
    (hf : ∀ i ∈ db.invitations.rows, p i = true → InvitationMoves i (f i)) :
    InvitationStep db db' := by
  rw [InvitationStep, h]
  exact .updated (fun _ => .refl) hf

lemma InvitationStep.committed {result : Except Error Registry}
    (h : ∀ db', result = .ok db' → InvitationStep db db') :
    InvitationStep db (committed db result) := by
  cases result with
  | ok db' => exact h db' rfl
  | error => exact .frame rfl

lemma invitation_unique {j : InvitationRow} (hi : i ∈ db.invitations.rows)
    (hj : j ∈ db.invitations.rows) (h : i.invitationId = j.invitationId) : i = j :=
  db.invitations.eq_of_key (u := invitationIdKey) (by simp [invitationSpec]) hi hj rfl
    (by simp [invitationIdKey, h])

lemma enrolls_step {α : Type} {code : InvitationCode} {e : AgentEnrollmentRecord}
    {snapshot : GatewaySnapshot} {limit : InvitationAttemptLimit}
    {r : Registry × Except Error (α × Instant)}
    (h : Registry.Enrolls tools db code e snapshot limit now r) : InvitationStep db r.1 := by
  cases h with
  | enrolled i db' value hi hid hstate hexpires hpersist =>
    refine .rows (Registry.persistEnrollment_ok hpersist).2 (fun j hj hid => ?_)
    obtain rfl := invitation_unique hj hi (beq_iff_eq.mp hid)
    exact .single (.bound e snapshot _ now hstate)
  | failed | rejected | replayed => exact .frame rfl

lemma retireAgentCredentials_step {agentId : AgentId}
    (h : db.retireAgentCredentials organizationId agentId audit now = .ok db') :
    InvitationStep db db' :=
  .rows (Registry.retireAgentCredentials_ok h).2.1 (fun _ _ _ => .single (.revoked now))

lemma applySnapshot_step {agentId : AgentId} {snapshot : GatewaySnapshot}
    (h : db.applySnapshot tools agentId snapshot now = .ok db') : InvitationStep db db' := by
  rcases Registry.applySnapshot_cases h with ⟨rfl, -⟩ | ⟨_, _, i, _, _, hbound, _, _, hrows, _⟩
  · exact .frame rfl
  · refine .rows hrows (fun j hj hid => ?_)
    have hi : i ∈ db.invitations.rows := by
      simp only [Registry.boundInvitation, Option.bind_eq_bind, Option.bind_eq_some_iff] at hbound
      obtain ⟨_, _, hfirst⟩ := hbound
      exact (Table.first_spec hfirst).1
    obtain rfl := invitation_unique hj hi (beq_iff_eq.mp hid)
    exact .single (.online snapshot now)

lemma InvitationStep.closed (h : Moves (Relation.ReflTransGen Registry.CloseMove)
    (fun i => i.boundAgentId = none) db.invitations.rows db'.invitations.rows) :
    InvitationStep db db' := by
  refine h.mono (Relation.ReflTransGen.mono fun i i' hmove => ?_) (fun i hi => ⟨i, hi, .refl⟩)
  cases hmove with
  | expired => exact .expired
  | revoked now => exact .revoked now

theorem apply_invitations (tools : RegistryTools) (db : Registry) (event : RegistryEvent) :
    InvitationStep db (event.apply tools db) := by
  cases event with
  | enrollAgent code e snapshot limit prepare now later =>
    exact enrolls_step (Registry.enrollAgent_cases tools db code e snapshot limit prepare now later)
  | retireAgentCredentials =>
    exact .committed (fun db' h => retireAgentCredentials_step h)
  | statusSnapshot => exact .committed (fun db' h => applySnapshot_step h)
  | _ => exact .closed (Registry.apply_closes rfl).moves

end

def Registry.BoundOnce (db : Registry) : Prop :=
  ∀ i ∈ db.invitations.rows, i.state = .created → i.boundAgentId = none

lemma apply_boundOnce {tools : RegistryTools} {db : Registry} (h : db.BoundOnce)
    (event : RegistryEvent) : (event.apply tools db).BoundOnce := by
  intro i' hi' hstate
  rcases (apply_invitations tools db event).backward hi' with ⟨i, hi, hmoves⟩ | ⟨j, hj, hmoves⟩
  · obtain rfl := hmoves.created hstate
    exact h i' hi hstate
  · obtain rfl := hmoves.created hstate
    exact hj

variable {i : InvitationRow}

lemma foldl_invitations {tools : RegistryTools} (events : List RegistryEvent) {db : Registry}
    {i : InvitationRow} (hi : i ∈ db.invitations.rows) :
    ∃ i' ∈ (events.foldl (RegistryEvent.apply tools) db).invitations.rows, InvitationMoves i i' := by
  induction events generalizing db i with
  | nil => exact ⟨i, hi, .refl⟩
  | cons event events ih =>
    obtain ⟨i₁, hi₁, hfirst⟩ := (apply_invitations tools db event).forward hi
    obtain ⟨i₂, hi₂, hrest⟩ := ih hi₁
    exact ⟨i₂, hi₂, hfirst.trans hrest⟩

lemma registryAfter_boundOnce (tools : RegistryTools) (events : List RegistryEvent) :
    (registryAfter tools events).BoundOnce := by
  have hfold : ∀ db : Registry, db.BoundOnce →
      (events.foldl (RegistryEvent.apply tools) db).BoundOnce := by
    induction events with
    | nil => exact fun _ h => h
    | cons event events ih => exact fun db h => ih _ (apply_boundOnce h event)
  exact hfold {} (by simp [Registry.BoundOnce])

section Enrollments

variable {α : Type} {tools : RegistryTools} {db : Registry} {code : InvitationCode}
  {e : AgentEnrollmentRecord} {snapshot : GatewaySnapshot} {limit : InvitationAttemptLimit}
  {now : Instant} {r : Registry × Except Error (α × Instant)}

lemma enrolls_replay (h : Registry.Enrolls tools db code e snapshot limit now r)
    (hdb : db.BoundOnce) (hi : i ∈ db.invitations.rows) (hid : i.invitationId = code.id)
    (hbound : i.boundAgentId ≠ none) {value : α} {enrolledAt : Instant}
    (hr : r.2 = .ok (value, enrolledAt)) :
    i.binding = ⟨some e.agentId, some e.keyId, some (e.fingerprint tools), some enrolledAt⟩ ∧
      r.1 = { db with attempts := db.attempts.delete (Registry.isStale code now limit.window) } := by
  cases h with
  | failed | rejected => cases hr
  | enrolled j db' value hj hjid hstate =>
    obtain rfl := invitation_unique hi hj (hid.trans hjid.symm)
    exact absurd (hdb i hi hstate) hbound
  | replayed j value enrolledAt hj hjid hstate hexpires hreplay =>
    obtain rfl := invitation_unique hi hj (hid.trans hjid.symm)
    cases hr
    simp only [bind_ok, pure_ok, Registry.replayedEnrollment, require_ok, orRaise_ok,
      Bool.and_eq_true, beq_iff_eq] at hreplay
    obtain ⟨_, hagent, fingerprint, hfingerprint, _, ⟨hkey, rfl⟩, _, htime, _, _, rfl⟩ := hreplay
    refine ⟨?_, rfl⟩
    rw [InvitationRow.binding, hagent, hkey, hfingerprint, htime]

lemma enrolls_closed (h : Registry.Enrolls tools db code e snapshot limit now r)
    (hi : i ∈ db.invitations.rows) (hid : i.invitationId = code.id)
    (hclosed : i.state = .expired ∨ i.state = .revoked ∨ i.expiresAt ≤ now) :
    ∃ error, r.2 = .error error := by
  have hopen : ∀ {state j}, j ∈ db.invitations.rows → j.invitationId = code.id → j.state = state →
      now < j.expiresAt → state ≠ .expired → state ≠ .revoked → False := by
    intro state j hj hjid hstate hexpires hne hne'
    obtain rfl := invitation_unique hi hj (hid.trans hjid.symm)
    rcases hclosed with hexpired | hrevoked | htime
    · exact hne (hstate.symm.trans hexpired)
    · exact hne' (hstate.symm.trans hrevoked)
    · exact absurd hexpires (not_lt.mpr htime)
  cases h with
  | failed error => exact ⟨error, rfl⟩
  | rejected => exact ⟨_, rfl⟩
  | replayed j _ _ hj hjid hstate hexpires | enrolled j _ _ hj hjid hstate hexpires =>
    exact (hopen hj hjid hstate hexpires (by simp) (by simp)).elim

lemma enrolls_error (h : Registry.Enrolls tools db code e snapshot limit now r) {error : Error}
    (hr : r.2 = .error error) :
    r.1 = db ∨ error = rejectedSecret ∧ ∃ attempts, r.1 = { db with attempts := attempts } ∧
      attempts.rows = db.attempts.rows.filter (fun a => !Registry.isStale code now limit.window a) ++
        [⟨code.id, now⟩] := by
  cases h with
  | failed => exact .inl rfl
  | rejected i attempts hi hid hwindow hroom hattempts =>
    cases hr
    exact .inr ⟨rfl, attempts, rfl, Table.insert_rows hattempts⟩
  | replayed | enrolled => cases hr

end Enrollments

/-- An invitation is bound at most once, and later enrollments with its code are replays. -/
theorem invitations_are_one_use (tools : RegistryTools) (events : List RegistryEvent) :
    let db := registryAfter tools events
    (∀ later, ∀ i ∈ db.invitations.rows,
      ∃ i' ∈ (registryAfter tools (events ++ later)).invitations.rows,
        i'.invitationId = i.invitationId ∧
          (i.boundAgentId ≠ none → i'.binding = i.binding)) ∧
    ∀ (α : Type) (code : InvitationCode) (e : AgentEnrollmentRecord) (snapshot : GatewaySnapshot)
      (limit : InvitationAttemptLimit) (prepare : Except Error α) (now later : Instant),
      let result := db.enrollAgent tools code e snapshot limit prepare now later
      (∀ i ∈ db.invitations.rows, i.invitationId = code.id →
        (i.boundAgentId ≠ none → ∀ value enrolledAt, result.2 = .ok (value, enrolledAt) →
          i.binding = ⟨some e.agentId, some e.keyId, some (e.fingerprint tools), some enrolledAt⟩ ∧
            result.1 =
              { db with attempts := db.attempts.delete (Registry.isStale code now limit.window) }) ∧
        (i.state = .expired ∨ i.state = .revoked ∨ i.expiresAt ≤ now →
          ∃ error, result.2 = .error error)) ∧
      ∀ error, result.2 = .error error → result.1 = db ∨ error = rejectedSecret ∧
        ∃ attempts, result.1 = { db with attempts := attempts } ∧
          attempts.rows = db.attempts.rows.filter
            (fun a => !Registry.isStale code now limit.window a) ++ [⟨code.id, now⟩] := by
  intro db
  have hdb : db.BoundOnce := registryAfter_boundOnce tools events
  refine ⟨?_, ?_⟩
  · intro later i hi
    obtain ⟨i', hi', hmoves⟩ := @foldl_invitations tools later db i hi
    refine ⟨i', ?_, hmoves.kept.1, fun hbound => ?_⟩
    · rw [registryAfter, List.foldl_append]
      exact hi'
    · exact (hmoves.kept.2 (fun hstate => hbound (hdb i hi hstate))).2
  · intro α code e snapshot limit prepare now later result
    have hcall : Registry.Enrolls tools db code e snapshot limit now result :=
      Registry.enrollAgent_cases tools db code e snapshot limit prepare now later
    refine ⟨fun i hi hid => ⟨fun hbound value enrolledAt h => ?_, fun hclosed => ?_⟩, ?_⟩
    · exact enrolls_replay hcall hdb hi hid hbound h
    · exact enrolls_closed hcall hi hid hclosed
    · exact fun error h => enrolls_error hcall h

def failedAttempt : List RegistryEvent :=
  [newInvitation,
    .enrollAgent wrongCode sampleEnrollment ⟨0, [], []⟩ attemptLimit (.ok ()) 0 0]

theorem stale_attempt_deleted :
    let db := registryAfter onboardingTools failedAttempt
    let result := db.enrollAgent onboardingTools wrongCode sampleEnrollment ⟨0, [], []⟩ attemptLimit
      (.ok ()) 1000000000 1000000000
    db.attempts.rows = [⟨"AAAAAAAAAAAA", 0⟩] ∧ result.2 = .error rejectedSecret ∧
      result.1.attempts.rows = [⟨"AAAAAAAAAAAA", 1000000000⟩] ∧
      ¬(result.1.attempts.rows = db.attempts.rows ∨
        ∃ attempt, result.1.attempts.rows = db.attempts.rows ++ [attempt]) := by
  intro db result
  have hbefore : db.attempts.rows = [⟨"AAAAAAAAAAAA", 0⟩] := by decide +kernel
  have hafter : result.1.attempts.rows = [⟨"AAAAAAAAAAAA", 1000000000⟩] := by decide +kernel
  refine ⟨hbefore, by decide +kernel, hafter, ?_⟩
  rw [hbefore, hafter]
  simp

end Inari.Controller
