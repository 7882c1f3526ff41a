import Inari.Lib.Run
import Inari.Lib.Window
import Inari.Proofs.Invitations

/-!
# The throttle on invitation secrets

The wrong secrets of an invitation are the entries of a limiter, which an enrollment clears.
-/

namespace Inari.Controller

open Lib

def failuresIn (rows : List AttemptRow) (key : String) : List Instant :=
  (rows.filter (fun a => a.invitationId == key)).map (fun a => a.attemptedAt)

def Registry.failures (db : Registry) (key : String) : List Instant := failuresIn db.attempts.rows key

def RegistryEvent.attempt (key : String) : RegistryEvent → Option (InvitationAttemptLimit × Instant)
  | .enrollAgent code _ _ limit _ now _ => if code.id = key then some (limit, now) else none
  | _ => none

def Registry.enrolls (tools : RegistryTools) (db : Registry) (key : String) : RegistryEvent → Bool
  | .enrollAgent code e snapshot limit prepare now later =>
    code.id == key && (db.enrollAgent tools code e snapshot limit prepare now later).2.isOk &&
      db.invitations.rows.any (fun i => i.invitationId == key && i.state == .created)
  | _ => false

def recordedFailures (tools : RegistryTools) (key : String) : Registry → List RegistryEvent → List Instant
  | _, [] => []
  | db, event :: rest =>
    ((event.apply tools db).failures key).filter (fun t => !(db.failures key).contains t) ++
      recordedFailures tools key (event.apply tools db) rest

def InvitationAttemptLimit.bound (limit : InvitationAttemptLimit) : Nat := max limit.maxFailures 1

def tooManyFailures : Error := .forbidden "too many failed invitation attempts"

inductive FailureStep (tools : RegistryTools) (db : Registry) (key : String) (event : RegistryEvent) :
    List Instant → Prop
  | kept : FailureStep tools db key event (db.failures key)
  | dropped {limit : InvitationAttemptLimit} {now : Instant}
      (hattempt : event.attempt key = some (limit, now)) :
      FailureStep tools db key event (Window.recent (limit.window : Int) now (db.failures key))
  | recorded {limit : InvitationAttemptLimit} {now : Instant}
      (hattempt : event.attempt key = some (limit, now))
      (hinvited : ∃ i ∈ db.invitations.rows, i.invitationId = key)
      (hwindow : limit.window ≤ maxWindow)
      (hroom : (Window.recent (limit.window : Int) now (db.failures key)).length < limit.bound)
      (hnew : now ∉ db.failures key) :
      FailureStep tools db key event
        (Window.recent (limit.window : Int) now (db.failures key) ++ [now])
  | cleared (henrolls : db.enrolls tools key event = true) : FailureStep tools db key event []

section Calls

variable {tools : RegistryTools} {db : Registry} {key : String}

lemma mem_failuresIn {rows : List AttemptRow} {t : Instant} :
    t ∈ failuresIn rows key ↔ (⟨key, t⟩ : AttemptRow) ∈ rows := by
  simp only [failuresIn, List.mem_map, List.mem_filter, beq_iff_eq]
  constructor
  · rintro ⟨⟨id, at'⟩, ⟨hmem, rfl⟩, rfl⟩
    exact hmem
  · intro hmem
    exact ⟨_, ⟨hmem, rfl⟩, rfl⟩

lemma failuresIn_append (rows : List AttemptRow) (id : String) (t : Instant) :
    failuresIn (rows ++ [⟨id, t⟩]) key = failuresIn rows key ++ if id = key then [t] else [] := by
  rw [failuresIn, List.filter_append, List.map_append, failuresIn]
  congr 1
  by_cases hid : id = key
  · simp [hid]
  · simp [hid]

lemma failuresIn_window (rows : List AttemptRow) (code : InvitationCode) (now : Instant)
    (window : Nat) :
    failuresIn (rows.filter (fun a => !Registry.isStale code now window a)) code.id =
      Window.recent (window : Int) now (failuresIn rows code.id) := by
  rw [failuresIn, List.filter_filter, Window.recent, failuresIn, List.filter_map, List.filter_filter]
  congr 1
  apply List.filter_congr
  intro a _
  by_cases hid : a.invitationId = code.id
  · have hfresh : decide (now - (window : Int) ≤ a.attemptedAt) =
        !decide (a.attemptedAt < now - (window : Int)) := by
      rw [← decide_not, decide_eq_decide, not_lt]
    simp only [Registry.isStale, hid, beq_self_eq_true, Bool.true_and, Bool.and_true,
      Function.comp, hfresh]
  · rw [beq_eq_false_iff_ne.mpr hid, Bool.false_and, Bool.and_false]

lemma failuresIn_filter {rows : List AttemptRow} {p : AttemptRow → Bool}
    (h : ∀ a ∈ rows, a.invitationId = key → p a = true) :
    failuresIn (rows.filter p) key = failuresIn rows key := by
  rw [failuresIn, List.filter_filter, failuresIn]
  congr 1
  apply List.filter_congr
  intro a ha
  by_cases hid : a.invitationId = key
  · rw [h a ha hid, Bool.and_true]
  · rw [beq_eq_false_iff_ne.mpr hid, Bool.false_and]

lemma failures_withoutStale (code : InvitationCode) (now : Instant) (window : Nat) :
    (db.withoutStale code now window).failures code.id =
      Window.recent (window : Int) now (db.failures code.id) :=
  failuresIn_window db.attempts.rows code now window

variable {code : InvitationCode} {db' : Registry} {now : Instant}

lemma failures_other (now : Instant) (window : Nat) (hother : code.id ≠ key) :
    (db.withoutStale code now window).failures key = db.failures key := by
  refine failuresIn_filter (fun a _ hid => ?_)
  rw [Registry.isStale, hid, beq_eq_false_iff_ne.mpr hother.symm]
  rfl

lemma rowcount_failures : db.attempts.rowcount (fun a => a.invitationId == key) =
    (db.failures key).length := by
  rw [Registry.failures, failuresIn, List.length_map, Table.rowcount, List.countP_eq_length_filter]

lemma failures_same (h : db'.attempts = db.attempts) : db'.failures key = db.failures key := by
  rw [Registry.failures, h, Registry.failures]

lemma persistEnrollment_failures {e : AgentEnrollmentRecord} {snapshot : GatewaySnapshot}
    {fingerprint : Bytes} {window : Nat} {i : InvitationRow} (hid : i.invitationId = code.id)
    (h : (db.withoutStale code now window).persistEnrollment tools i e snapshot fingerprint now =
      .ok db') :
    db'.failures key = if code.id = key then [] else db.failures key := by
  obtain ⟨_, _, _, hattempts, _⟩ := Registry.persistEnrollment_writes h
  rw [hid] at hattempts
  rw [Registry.failures, hattempts, Table.delete_rows]
  by_cases hkey : code.id = key
  · rw [if_pos hkey, failuresIn, List.filter_filter, List.map_eq_nil_iff, List.filter_eq_nil_iff]
    intro a _
    simp [hkey]
  · rw [if_neg hkey, failuresIn_filter (fun a _ ha => by simp [ha, Ne.symm hkey])]
    exact failures_other now window hkey

lemma failures_rejected (key : String) {window : Nat} {attempts : Table attemptSpec}
    (h : (db.withoutStale code now window).attempts.insert ⟨code.id, now⟩ =
      (.ok attempts : Except Error _)) :
    failuresIn attempts.rows key = (db.withoutStale code now window).failures key ++
        (if code.id = key then [now] else []) ∧ now ∉ db.failures code.id := by
  refine ⟨by rw [Table.insert_rows h, failuresIn_append]; rfl, fun hmem => ?_⟩
  -- an attempt of the same instant is not too old, and its row has the key of the new one
  have hkept : (⟨code.id, now⟩ : AttemptRow) ∈ (db.withoutStale code now window).attempts.rows := by
    refine List.mem_filter.mpr ⟨mem_failuresIn.mp hmem, ?_⟩
    have hnow : ¬now < now - (window : Int) := not_lt.mpr (sub_le_self now (Int.natCast_nonneg _))
    simp [Registry.isStale, hnow]
  exact Table.append_fresh (Table.insert_rows h) List.mem_cons_self (u := attemptKey) rfl hkept rfl

lemma enrollAgent_failures (code : InvitationCode) (e : AgentEnrollmentRecord)
    (snapshot : GatewaySnapshot) (limit : InvitationAttemptLimit) (prepare : Except Error Unit)
    (now later : Instant) :
    FailureStep tools db key (.enrollAgent code e snapshot limit prepare now later)
      ((db.enrollAgent tools code e snapshot limit prepare now later).1.failures key) := by
  have hcall := Registry.enrollAgent_cases tools db code e snapshot limit prepare now later
  generalize hresult : db.enrollAgent tools code e snapshot limit prepare now later = result at hcall
  by_cases hkey : code.id = key
  · subst hkey
    have hattempt : (RegistryEvent.enrollAgent code e snapshot limit prepare now later).attempt
        code.id = some (limit, now) := if_pos rfl
    cases hcall with
    | failed => exact .kept
    | rejected i attempts hi hid hwindow hroom hattempts =>
      obtain ⟨hfailures, hnew⟩ := failures_rejected code.id hattempts
      rw [if_pos rfl, failures_withoutStale] at hfailures
      rw [rowcount_failures, failures_withoutStale] at hroom
      rw [show ({ db with attempts := attempts } : Registry).failures code.id = _ from hfailures]
      exact .recorded hattempt ⟨i, hi, hid⟩ hwindow hroom hnew
    | replayed =>
      rw [failures_withoutStale]
      exact .dropped hattempt
    | enrolled i db' value hi hid hstate hexpires hpersist =>
      rw [persistEnrollment_failures hid hpersist, if_pos rfl]
      refine .cleared ?_
      simp only [Registry.enrolls, hresult, beq_self_eq_true, Except.isOk, Except.toBool,
        Bool.true_and, List.any_eq_true, Bool.and_eq_true, beq_iff_eq]
      exact ⟨i, hi, hid, hstate⟩
  · have hkept : ∀ failures, failures = db.failures key → FailureStep tools db key
        (.enrollAgent code e snapshot limit prepare now later) failures := by
      rintro _ rfl
      exact .kept
    apply hkept
    cases hcall with
    | failed => rfl
    | rejected i attempts hi hid hwindow hroom hattempts =>
      refine (failures_rejected key hattempts).1.trans ?_
      rw [if_neg hkey, List.append_nil, failures_other now limit.window hkey]
    | replayed => exact failures_other now limit.window hkey
    | enrolled i db' value hi hid hstate hexpires hpersist =>
      rw [persistEnrollment_failures hid hpersist, if_neg hkey]

theorem apply_failures (tools : RegistryTools) (db : Registry) (key : String) (event : RegistryEvent) :
    FailureStep tools db key event ((event.apply tools db).failures key) := by
  have hkept : (event.apply tools db).attempts = db.attempts →
      FailureStep tools db key event ((event.apply tools db).failures key) := by
    intro h
    rw [failures_same h]
    exact .kept
  cases event with
  | enrollAgent code e snapshot limit prepare now later =>
    exact enrollAgent_failures code e snapshot limit prepare now later
  | retireAgentCredentials organizationId agentId audit now =>
    apply hkept
    rw [RegistryEvent.apply]
    cases h : db.retireAgentCredentials organizationId agentId audit now with
    | error => rfl
    | ok => exact (Registry.retireAgentCredentials_ok h).2.2.1
  | statusSnapshot agentId snapshot now =>
    apply hkept
    rw [RegistryEvent.apply]
    cases h : db.applySnapshot tools agentId snapshot now with
    | error => rfl
    | ok db' =>
      rcases Registry.applySnapshot_cases h with ⟨rfl, -⟩ | ⟨_, _, _, _, _, _, _, _, _, hwrites⟩
      · rfl
      · show db'.attempts = db.attempts
        rw [hwrites]
  | _ => exact hkept (Registry.apply_closes rfl).attempts

lemma enrollAgent_throttled {e : AgentEnrollmentRecord} {snapshot : GatewaySnapshot}
    {limit : InvitationAttemptLimit} {prepare : Except Error Unit} {later : Instant}
    (hinvited : ∃ i ∈ db.invitations.rows, i.invitationId = code.id)
    (hwindow : limit.window ≤ maxWindow)
    (hfull : limit.bound ≤ (Window.recent (limit.window : Int) now (db.failures code.id)).length) :
    db.enrollAgent tools code e snapshot limit prepare now later = (db, .error tooManyFailures) := by
  have hrun : db.enrollTransaction tools code e snapshot limit prepare now later =
      .error tooManyFailures := by
    obtain ⟨i, hi, hid⟩ := hinvited
    obtain ⟨j, hj⟩ : ∃ j, db.invitations.first (fun i => i.invitationId == code.id) = some j := by
      cases hfirst : db.invitations.first (fun i => i.invitationId == code.id) with
      | some j => exact ⟨j, rfl⟩
      | none =>
        have := Table.first_none hfirst hi
        simp [hid] at this
    have hrecent : db.recentFailures code now limit.window = .ok (db.withoutStale code now limit.window,
        (db.withoutStale code now limit.window).attempts.rowcount
          (fun a => a.invitationId == code.id)) := by
      rw [Registry.recentFailures, decide_eq_true hwindow]
      rfl
    rw [Registry.enrollTransaction, hj, hrecent, rowcount_failures, failures_withoutStale]
    have hfail : decide ((Window.recent (limit.window : Int) now (db.failures code.id)).length <
        max limit.maxFailures 1) = false := decide_eq_false (not_lt.mpr hfull)
    simp only [orRaise, hfail, require, Bool.false_eq_true, if_false, bind, Except.bind]
    rfl
  rw [Registry.enrollAgent, hrun]

end Calls

def registryStep (tools : RegistryTools) (db : Registry) (event : RegistryEvent) : Registry × Unit :=
  (event.apply tools db, ())

def attemptTimes (key : String) (events : List RegistryEvent) : List Instant :=
  events.filterMap (fun event => (event.attempt key).map Prod.snd)

def LimitedBy (limit : InvitationAttemptLimit) (key : String) (events : List RegistryEvent) : Prop :=
  ∀ event ∈ events, ∀ a ∈ event.attempt key, a.1 = limit

section Runs

variable {tools : RegistryTools} {limit : InvitationAttemptLimit} {key : String} {db : Registry}

lemma recordedFailures_append (events : List RegistryEvent) (event : RegistryEvent) :
    recordedFailures tools key db (events ++ [event]) =
      recordedFailures tools key db events ++
        ((event.apply tools (final (registryStep tools) db events)).failures key).filter
          (fun t => !((final (registryStep tools) db events).failures key).contains t) := by
  induction events generalizing db with
  | nil => simp [recordedFailures, final]
  | cons first rest ih =>
    rw [List.cons_append, recordedFailures, ih, recordedFailures, List.append_assoc]
    rfl

lemma filter_not_contains_of_subset {l kept : List Instant} (h : ∀ t ∈ kept, t ∈ l) :
    kept.filter (fun t => !l.contains t) = [] := by
  rw [List.filter_eq_nil_iff]
  intro t ht
  simp [h t ht]

lemma failures_bounded {events : List RegistryEvent} (hlimit : LimitedBy limit key events) :
    ((registryAfter tools events).failures key).length ≤ limit.bound := by
  induction events using List.reverseRecOn with
  | nil => exact Nat.zero_le _
  | append_singleton events event ih =>
    have hbefore := ih (fun e he => hlimit e (List.mem_append_left _ he))
    have hlast := hlimit event (List.mem_append_right _ List.mem_cons_self)
    have hafter : registryAfter tools (events ++ [event]) =
        event.apply tools (registryAfter tools events) := List.foldl_concat ..
    rw [hafter]
    have hstep := apply_failures tools (registryAfter tools events) key event
    generalize (event.apply tools (registryAfter tools events)).failures key = after at hstep ⊢
    cases hstep with
    | kept => exact hbefore
    | dropped => exact (List.length_filter_le _ _).trans hbefore
    | recorded hattempt hinvited hwindow hroom =>
      obtain rfl : _ = limit := hlast _ hattempt
      rw [List.length_append]
      exact hroom
    | cleared => exact Nat.zero_le _

lemma run_limited {events : List RegistryEvent} (hlimit : LimitedBy limit key events)
    (hclock : (attemptTimes key events).Pairwise (· ≤ ·))
    (hrun : RunOk (fun db event => db.enrolls tools key event = false) (registryStep tools) db events) :
    (∀ now, (∀ t ∈ attemptTimes key events, t ≤ now) →
      Window.Limited (limit.window : Int) limit.bound now (recordedFailures tools key db events)
        ((final (registryStep tools) db events).failures key)) ∧
    (recordedFailures tools key db events ≠ [] → limit.window ≤ maxWindow ∧
      ∃ i ∈ (final (registryStep tools) db events).invitations.rows, i.invitationId = key) := by
  induction events using List.reverseRecOn with
  | nil => exact ⟨fun now _ => .nil _ _ _ _, fun h => absurd rfl h⟩
  | append_singleton events event ih =>
    rw [attemptTimes, List.filterMap_append, List.pairwise_append] at hclock
    obtain ⟨hclock, -, hlater⟩ := hclock
    obtain ⟨hrun, henrolls⟩ := runOk_append.mp hrun
    obtain ⟨hbefore, hinvited⟩ := ih (fun e he => hlimit e (List.mem_append_left _ he)) hclock hrun
    have hlast := hlimit event (List.mem_append_right _ List.mem_cons_self)
    have hlater' : ∀ a ∈ event.attempt key, ∀ t ∈ attemptTimes key events, t ≤ a.2 := by
      intro a ha t ht
      refine hlater t ht a.2 ?_
      rw [List.filterMap_cons, ha]
      exact List.mem_cons_self
    have hnow' : ∀ now, (∀ t ∈ attemptTimes key (events ++ [event]), t ≤ now) →
        (∀ t ∈ attemptTimes key events, t ≤ now) ∧ ∀ a ∈ event.attempt key, a.2 ≤ now := by
      intro now hnow
      rw [attemptTimes, List.filterMap_append] at hnow
      refine ⟨fun t ht => hnow t (List.mem_append_left _ ht), fun a ha => ?_⟩
      refine hnow a.2 (List.mem_append_right _ ?_)
      rw [List.filterMap_cons, ha]
      exact List.mem_cons_self
    rw [recordedFailures_append, final_append]
    change _ ∧ (_ → _ ∧ ∃ i ∈ (event.apply tools _).invitations.rows, i.invitationId = key)
    change (∀ now, _ → Window.Limited _ _ now _ ((event.apply tools _).failures key)) ∧ _
    have henrolls' : (final (registryStep tools) db events).enrolls tools key event = false := henrolls.1
    generalize final (registryStep tools) db events = s at hbefore hinvited henrolls' ⊢
    have hkeeps : (∃ i ∈ s.invitations.rows, i.invitationId = key) →
        ∃ i ∈ (event.apply tools s).invitations.rows, i.invitationId = key := by
      rintro ⟨i, hi, hid⟩
      obtain ⟨i', hi', hmoves⟩ := (apply_invitations tools s event).forward hi
      exact ⟨i', hi', hmoves.kept.1.trans hid⟩
    have hrecent : ∀ w now, ∀ t ∈ Window.recent w now (s.failures key), t ∈ s.failures key :=
      fun w now t ht => List.mem_of_mem_filter ht
    have hstep := apply_failures tools s key event
    generalize (event.apply tools s).failures key = after at hstep ⊢
    cases hstep with
    | kept =>
      rw [filter_not_contains_of_subset (fun t ht => ht), List.append_nil]
      exact ⟨fun now hnow => hbefore now (hnow' now hnow).1,
        fun h => ⟨(hinvited h).1, hkeeps (hinvited h).2⟩⟩
    | @dropped limit' t hattempt =>
      obtain rfl : limit' = limit := hlast _ hattempt
      have hold := (hbefore t (hlater' _ hattempt)).drop
      rw [filter_not_contains_of_subset (hrecent _ _), List.append_nil]
      exact ⟨fun now hnow => hold.later ((hnow' now hnow).2 _ hattempt),
        fun h => ⟨(hinvited h).1, hkeeps (hinvited h).2⟩⟩
    | @recorded limit' t hattempt hknown hwindow hroom hnew =>
      obtain rfl : limit' = limit := hlast _ hattempt
      have hold := (hbefore t (hlater' _ hattempt)).record (Int.natCast_nonneg _) hnew hroom
      have hadded : (Window.recent (limit'.window : Int) t (s.failures key) ++ [t]).filter
          (fun t => !(s.failures key).contains t) = [t] := by
        rw [List.filter_append, filter_not_contains_of_subset (hrecent _ _)]
        simp [hnew]
      rw [hadded]
      exact ⟨fun now hnow => hold.later ((hnow' now hnow).2 _ hattempt),
        fun _ => ⟨hwindow, hkeeps hknown⟩⟩
    | cleared henrolled =>
      rw [henrolled] at henrolls'
      cases henrolls'

end Runs

/-- No more failures are on record than the limit permits, nor in a window while the clock does not
go back and nobody enrolls. -/
theorem enrollment_throttled (tools : RegistryTools) (limit : InvitationAttemptLimit) (key : String)
    (earlier events : List RegistryEvent) (hlimit : LimitedBy limit key (earlier ++ events)) :
    ((registryAfter tools (earlier ++ events)).failures key).length ≤ max limit.maxFailures 1 ∧
    ((attemptTimes key events).Pairwise (· ≤ ·) →
      RunOk (fun db event => db.enrolls tools key event = false) (registryStep tools)
        (registryAfter tools earlier) events →
      (∀ start, Window.count (limit.window : Int) start
          (recordedFailures tools key (registryAfter tools earlier) events) ≤
        max limit.maxFailures 1) ∧
      ∀ code e snapshot prepare now later, code.id = key → (∀ t ∈ attemptTimes key events, t ≤ now) →
        max limit.maxFailures 1 ≤ Window.count (limit.window : Int) (now - limit.window)
          (recordedFailures tools key (registryAfter tools earlier) events) →
        (registryAfter tools (earlier ++ events)).enrollAgent tools code e snapshot limit
            (prepare : Except Error Unit) now later =
          (registryAfter tools (earlier ++ events),
            .error (.forbidden "too many failed invitation attempts"))) := by
  have hafter : registryAfter tools (earlier ++ events) =
      final (registryStep tools) (registryAfter tools earlier) events := List.foldl_append ..
  refine ⟨failures_bounded hlimit, fun hclock hrun => ?_⟩
  obtain ⟨hlimited, hinvited⟩ :=
    run_limited (fun e he => hlimit e (List.mem_append_right _ he)) hclock hrun
  refine ⟨fun start => ?_, fun code e snapshot prepare now later hcode hnow hfull => ?_⟩
  · by_cases hany : attemptTimes key events = []
    · exact (hlimited 0 (by simp [hany])).bounded start
    · exact (hlimited ((attemptTimes key events).getLast hany)
        (fun t ht => hclock.rel_getLast ht)).bounded start
  · have hcount : Window.count (limit.window : Int) (now - limit.window)
        (recordedFailures tools key (registryAfter tools earlier) events) ≤ _ :=
      (hlimited now hnow).count_le (le_of_eq (sub_add_cancel now _).symm)
    have hrecorded : recordedFailures tools key (registryAfter tools earlier) events ≠ [] := by
      intro hnone
      rw [hnone, Window.count, List.countP_nil] at hfull
      exact absurd ((le_max_right _ _).trans hfull) (by decide)
    obtain ⟨hwindow, hknown⟩ := hinvited hrecorded
    subst hcode
    rw [hafter]
    exact enrollAgent_throttled hknown hwindow (hfull.trans hcount)

def twoFailures : InvitationAttemptLimit := ⟨60 * 1000000, 2⟩

def sampleAttempt (code : InvitationCode) (now : Instant) : RegistryEvent :=
  .enrollAgent code sampleEnrollment ⟨0, [], []⟩ twoFailures (.ok ()) now now

theorem right_secret_refused :
    recordedFailures onboardingTools invitationCode.id (registryAfter onboardingTools [newInvitation])
      [sampleAttempt wrongCode 1, sampleAttempt wrongCode 2] = [1, 2] ∧
    (registryAfter onboardingTools ([newInvitation] ++ [sampleAttempt wrongCode 1,
        sampleAttempt wrongCode 2])).enrollAgent onboardingTools invitationCode sampleEnrollment
          ⟨0, [], []⟩ twoFailures (.ok ()) 3 3 =
      (registryAfter onboardingTools ([newInvitation] ++ [sampleAttempt wrongCode 1,
        sampleAttempt wrongCode 2]), .error (.forbidden "too many failed invitation attempts")) := by
  have hlimit : LimitedBy twoFailures invitationCode.id ([newInvitation] ++
      [sampleAttempt wrongCode 1, sampleAttempt wrongCode 2]) := by
    intro event hevent a ha
    simp only [List.cons_append, List.nil_append, List.mem_cons, List.not_mem_nil, or_false] at hevent
    rcases hevent with rfl | rfl | rfl
    · cases ha
    · cases ha
      rfl
    · cases ha
      rfl
  refine ⟨by decide +kernel, ?_⟩
  exact ((enrollment_throttled onboardingTools twoFailures invitationCode.id [newInvitation] _
    hlimit).2 (by decide) (by decide +kernel)).2 invitationCode sampleEnrollment ⟨0, [], []⟩ (.ok ())
      3 3 rfl (by decide) (by decide +kernel)

/-- An enrollment clears the first failure, or the clock of a replica is ahead. -/
theorem three_failures_in_window :
    recordedFailures onboardingTools invitationCode.id (registryAfter onboardingTools [newInvitation])
      [sampleAttempt wrongCode 1, sampleAttempt invitationCode 2, sampleAttempt wrongCode 3,
        sampleAttempt wrongCode 4] = [1, 3, 4] ∧
    Window.count (twoFailures.window : Int) 0 [1, 3, 4] = 3 ∧
    recordedFailures onboardingTools invitationCode.id (registryAfter onboardingTools [newInvitation])
      [sampleAttempt wrongCode 1, sampleAttempt wrongCode 2, sampleAttempt wrongCode 100000000,
        sampleAttempt wrongCode 3] = [1, 2, 100000000, 3] ∧
    Window.count (twoFailures.window : Int) 0 [1, 2, 100000000, 3] = 3 := by
  decide +kernel

end Inari.Controller
