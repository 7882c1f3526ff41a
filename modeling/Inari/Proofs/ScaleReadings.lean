import Inari.Browser.DeviceInput
import Inari.Lib.Run

/-!
# Which scale readings are accepted

A reading is accepted only as the second of two that agree, and refused as unchanged if it has the
consumed value.
-/

namespace Inari.Browser

open Lib

def ScaleReading.value (r : ScaleReading) : ℚ := r.mantissa * 10 ^ r.exponent

def ScaleReading.resolutionValue (r : ScaleReading) : ℚ := r.resolution * 10 ^ r.exponent

def SameValue (first second : ScaleReading) : Prop :=
  first.unit = second.unit ∧ first.value = second.value

instance (first second : ScaleReading) : Decidable (SameValue first second) :=
  inferInstanceAs (Decidable (_ ∧ _))

lemma aligned_value (m : Int) {exponent base : Int} (h : base ≤ exponent) :
    (m : ℚ) * 10 ^ exponent = ((m * powerOfTen (exponent - base) : Int) : ℚ) * 10 ^ base := by
  obtain ⟨n, rfl⟩ := Int.le.dest h
  rw [powerOfTen, add_sub_cancel_left, Int.toNat_natCast, zpow_add₀ (by norm_num), zpow_natCast]
  push_cast
  ring

lemma sameExactValue_iff {first second : ScaleReading} :
    sameExactValue first second = true ↔ SameValue first second := by
  have hscale : (10 : ℚ) ^ min first.exponent second.exponent ≠ 0 := by positivity
  rw [SameValue, ScaleReading.value, ScaleReading.value,
    aligned_value _ (min_le_left first.exponent second.exponent),
    aligned_value _ (min_le_right first.exponent second.exponent), mul_left_inj' hscale,
    Int.cast_inj]
  simp [sameExactValue, alignMantissa]

lemma distanceWithinResolution_iff {first second : ScaleReading} :
    distanceWithinResolution first second = true ↔
      |first.value - second.value| ≤ max first.resolutionValue second.resolutionValue := by
  have hscale : (0 : ℚ) < 10 ^ min first.exponent second.exponent := by positivity
  rw [ScaleReading.value, ScaleReading.value, ScaleReading.resolutionValue,
    ScaleReading.resolutionValue,
    aligned_value first.mantissa (min_le_left first.exponent second.exponent),
    aligned_value second.mantissa (min_le_right first.exponent second.exponent),
    aligned_value first.resolution (min_le_left first.exponent second.exponent),
    aligned_value second.resolution (min_le_right first.exponent second.exponent), ← sub_mul,
    abs_mul, abs_of_pos hscale, ← max_mul_of_nonneg _ _ hscale.le, mul_le_mul_iff_left₀ hscale,
    ← Int.cast_sub, ← Int.cast_abs, ← Int.cast_max, Int.cast_le, abs_eq_max_neg]
  simp only [distanceWithinResolution, alignMantissa]
  grind

abbrev History := List (InputEvent × List PortCall)

def InputEvent.reading? : InputEvent → Option ScaleReading
  | .acceptScale arrival => some arrival.reading
  | _ => none

def readings (history : History) : List ScaleReading := history.filterMap (·.1.reading?)

def SameScale (first second : ScaleReading) : Prop :=
  first.agentBootId = second.agentBootId ∧ first.deviceId = second.deviceId

/-- At most one second old on arrival, stable, in range, unit compatible and positive. -/
structure Arrival.Eligible (arrival : Arrival) : Prop where
  age : arrival.now - arrival.reading.observedAt ≤ 1000
  stable : arrival.reading.stable = true
  inRange : arrival.reading.rangeState = .valid
  compatible : arrival.isUnitCompatible = true
  positive : 0 < arrival.reading.mantissa

/-- A payload is the newest of its scale so far, and nothing was invalidated since it was handled. -/
structure Stands (history : History) (first : Arrival) : Prop where
  since : ∃ between calls older, history = between ++ (.acceptScale first, calls) :: older ∧
    (∀ q ∈ readings older, SameScale q first.reading → q.sequence < first.reading.sequence) ∧
    ∀ entry ∈ between, ∀ reason, .invalidate reason ∉ entry.2
  newest : ∀ q ∈ readings history, SameScale q first.reading → q.sequence ≤ first.reading.sequence
  eligible : first.Eligible

def Confirms (arrival : Arrival) (earlier : History) : Prop :=
  arrival.Eligible ∧ ∃ first, Stands earlier first ∧ SameScale first.reading arrival.reading ∧
    first.reading.sequence < arrival.reading.sequence ∧
    first.reading.unit = arrival.reading.unit ∧
    |first.reading.value - arrival.reading.value| ≤
      max first.reading.resolutionValue arrival.reading.resolutionValue

/-- Each accepted reading confirms the one before it. -/
def AcceptsPairs : History → Prop
  | [] => True
  | (e, calls) :: earlier => AcceptsPairs earlier ∧ ∀ r, .accept r ∈ calls →
      ∃ arrival, e = .acceptScale arrival ∧ arrival.reading = r ∧ Confirms arrival earlier

/-- The last consumed reading, and the payloads received since. -/
def sinceConsumed : History → Option (ScaleReading × List ScaleReading)
  | [] => none
  | (_, [.consumed r]) :: _ => some (r, [])
  | (e, _) :: earlier => (sinceConsumed earlier).map (fun s => (s.1, e.reading?.toList ++ s.2))

def RefusesUnchanged : History → Prop
  | [] => True
  | (e, calls) :: earlier => RefusesUnchanged earlier ∧ ∀ arrival, e = .acceptScale arrival →
      .invalidate "weight_unchanged" ∈ calls →
        ∃ r since, sinceConsumed earlier = some (r, since) ∧ ∀ q ∈ since, SameValue q r

namespace InputAdapter

variable {a a' : InputAdapter} {e : InputEvent} {calls : List PortCall} {arrival : Arrival}

/-- The weight does not come back to the consumed value after another one was received. -/
def Unreturned (a : InputAdapter) : InputEvent → Prop
  | .acceptScale arrival => ∀ s ∈ sinceConsumed a.history, SameValue arrival.reading s.1 →
      ∀ q ∈ s.2, SameValue q s.1
  | _ => True

instance (a : InputAdapter) (e : InputEvent) : Decidable (a.Unreturned e) := by
  cases e <;> unfold Unreturned <;> infer_instance

def Fresh (a : InputAdapter) (r : ScaleReading) : Prop :=
  ∀ n ∈ a.lastScaleSequence (cursorKey r), n < r.sequence

structure Inv (a : InputAdapter) : Prop where
  cursor : ∀ q ∈ readings a.history, ∃ n, a.lastScaleSequence (cursorKey q) = some n ∧
    q.sequence ≤ n
  candidate : ∀ q, a.scaleCandidate = some q → a.lastScaleSequence (cursorKey q) = some q.sequence ∧
    ∃ first, first.reading = q ∧ Stands a.history first
  consumed : a.lastConsumedScaleReading = (sinceConsumed a.history).map Prod.fst
  pairs : AcceptsPairs a.history

variable {r : ScaleReading}

lemma cursorKey_congr {q : ScaleReading} (h : SameScale q r) : cursorKey q = cursorKey r := by
  rw [cursorKey, cursorKey, h.1, h.2]

lemma Inv.fresh (h : a.Inv) (hr : a.Fresh r) :
    ∀ q ∈ readings a.history, SameScale q r → q.sequence < r.sequence := by
  intro q hq hsame
  obtain ⟨n, hn, hle⟩ := h.cursor q hq
  exact hle.trans_lt (hr n (cursorKey_congr hsame ▸ hn))

lemma Inv.cursor_update (h : a.Inv) (hr : a.Fresh r) :
    ∀ q ∈ r :: readings a.history, ∃ n,
      Function.update a.lastScaleSequence (cursorKey r) (some r.sequence) (cursorKey q) = some n ∧
        q.sequence ≤ n := by
  intro q hq
  rcases List.mem_cons.mp hq with rfl | hq
  · exact ⟨_, Function.update_self .., le_rfl⟩
  · obtain ⟨n, hn, hle⟩ := h.cursor q hq
    by_cases heq : cursorKey q = cursorKey r
    · rw [heq] at hn ⊢
      exact ⟨_, Function.update_self .., hle.trans (hr n hn).le⟩
    · rw [Function.update_of_ne heq]
      exact ⟨n, hn, hle⟩

lemma Inv.untaken (h : a.Inv) (hhistory : a'.history = (e, calls) :: a.history)
    (hcursor : ∀ q ∈ readings a'.history, ∃ n, a'.lastScaleSequence (cursorKey q) = some n ∧
      q.sequence ≤ n)
    (hcandidate : a'.scaleCandidate = none ∨ a'.scaleCandidate = a.scaleCandidate ∧
      a'.lastScaleSequence = a.lastScaleSequence ∧ ∀ reason, .invalidate reason ∉ calls)
    (hconsumed : a'.lastConsumedScaleReading = (sinceConsumed a'.history).map Prod.fst)
    (haccept : ∀ r, .accept r ∉ calls) : a'.Inv := by
  refine ⟨hcursor, fun q hq => ?_, hconsumed, ?_⟩
  · rcases hcandidate with hnone | ⟨hold, hsame, hcalls⟩
    · cases hnone.symm.trans hq
    obtain ⟨hseq, first, rfl, ⟨between, calls', older, hsplit, hnewest, hbetween⟩, -, heligible⟩ :=
      h.candidate q (hold ▸ hq)
    refine ⟨hsame ▸ hseq, first, rfl, ⟨(e, calls) :: between, calls', older, ?_, hnewest, ?_⟩, ?_,
      heligible⟩
    · rw [hhistory, hsplit]
      rfl
    · intro entry hentry
      rcases List.mem_cons.mp hentry with rfl | hentry
      · exact hcalls
      · exact hbetween entry hentry
    · intro q hq hscale
      obtain ⟨n, hn, hle⟩ := hcursor q hq
      rw [cursorKey_congr hscale, hsame, hseq] at hn
      exact hle.trans (Option.some.inj hn).ge
  · rw [hhistory]
    exact ⟨h.pairs, fun r hr => absurd hr (haccept r)⟩

lemma Inv.taken (h : a.Inv) (hhistory : a'.history = (.acceptScale arrival, calls) :: a.history)
    (hfresh : a.Fresh arrival.reading)
    (hcursor : a'.lastScaleSequence =
      Function.update a.lastScaleSequence (cursorKey arrival.reading) (some arrival.reading.sequence))
    (hcandidate : a'.scaleCandidate = some arrival.reading) (heligible : arrival.Eligible)
    (hconsumed : a'.lastConsumedScaleReading = (sinceConsumed a'.history).map Prod.fst)
    (hpairs : ∀ r, .accept r ∈ calls → arrival.reading = r ∧ Confirms arrival a.history) :
    a'.Inv := by
  have hreadings : readings a'.history = arrival.reading :: readings a.history := by
    rw [hhistory]
    rfl
  refine ⟨by rw [hreadings, hcursor]; exact h.cursor_update hfresh, fun q hq => ?_, hconsumed, ?_⟩
  · obtain rfl := Option.some.inj (hcandidate.symm.trans hq)
    refine ⟨by rw [hcursor, Function.update_self], arrival, rfl, ⟨[], calls, a.history, hhistory,
      h.fresh hfresh, by simp⟩, ?_, heligible⟩
    intro q hq hscale
    rcases List.mem_cons.mp (hreadings ▸ hq) with rfl | hq
    · exact le_rfl
    · exact (h.fresh hfresh q hq hscale).le
  · rw [hhistory]
    exact ⟨h.pairs, fun r hr => ⟨arrival, rfl, hpairs r hr⟩⟩

lemma eligible_of_invalidReason (h : a.invalidReason arrival = none) : arrival.Eligible := by
  simp only [invalidReason] at h
  split_ifs at h with hage hstable hrange hunit hpositive hsame
  exact ⟨by omega, by simpa using hstable, by simpa using hrange, by simpa using hunit, by omega⟩

lemma acceptScale_cases (a : InputAdapter) (arrival : Arrival) :
    (∃ n, a.lastScaleSequence (cursorKey arrival.reading) = some n ∧ arrival.reading.sequence ≤ n ∧
        a.acceptScale arrival = (a, [])) ∨
      a.Fresh arrival.reading ∧
        (a.acceptScale arrival).1.lastScaleSequence = Function.update a.lastScaleSequence
          (cursorKey arrival.reading) (some arrival.reading.sequence) ∧
        (a.acceptScale arrival).1.lastConsumedScaleReading = a.lastConsumedScaleReading ∧
        ((∃ reason, a.invalidReason arrival = some reason ∧
            (a.acceptScale arrival).2 = [.invalidate reason] ∧
            (a.acceptScale arrival).1.scaleCandidate = none) ∨
          a.invalidReason arrival = none ∧
            (a.acceptScale arrival).1.scaleCandidate = some arrival.reading ∧
            ((a.acceptScale arrival).2 = [.invalidate "stabilizing"] ∨
              (a.acceptScale arrival).2 = [.accept arrival.reading] ∧
                ∃ c, a.scaleCandidate = some c ∧ agrees c arrival.reading = true)) := by
  by_cases hold : (a.lastScaleSequence (cursorKey arrival.reading)).any
      (arrival.reading.sequence ≤ ·) = true
  · obtain ⟨n, hn, hle⟩ := (Option.any_eq_true _ _).mp hold
    exact .inl ⟨n, hn, by simpa using hle, if_pos hold⟩
  · have hfresh : a.Fresh arrival.reading := by
      intro n hn
      by_contra hle
      exact hold ((Option.any_eq_true _ _).mpr ⟨n, hn, by simpa using hle⟩)
    refine .inr ⟨hfresh, ?_⟩
    rw [acceptScale, if_neg hold]
    have hreason : ∀ cursors, invalidReason { a with lastScaleSequence := cursors } arrival =
      a.invalidReason arrival := fun _ => rfl
    simp only [hreason]
    cases h : a.invalidReason arrival with
    | some reason => exact ⟨rfl, rfl, .inl ⟨reason, rfl, rfl, rfl⟩⟩
    | none =>
      dsimp only
      split
      · rename_i hagrees
        obtain ⟨c, hc, hagrees⟩ := (Option.any_eq_true _ _).mp hagrees
        exact ⟨rfl, rfl, .inr ⟨rfl, rfl, .inr ⟨rfl, c, hc, hagrees⟩⟩⟩
      · exact ⟨rfl, rfl, .inr ⟨rfl, rfl, .inl rfl⟩⟩

lemma Inv.confirms (h : a.Inv) {c : ScaleReading} (hc : a.scaleCandidate = some c)
    (hfresh : a.Fresh arrival.reading) (heligible : arrival.Eligible)
    (hagrees : agrees c arrival.reading = true) : Confirms arrival a.history := by
  obtain ⟨hseq, first, rfl, hstands⟩ := h.candidate c hc
  simp only [agrees, Bool.and_eq_true, beq_iff_eq] at hagrees
  obtain ⟨⟨⟨hboot, hdevice⟩, hunit⟩, hdistance⟩ := hagrees
  have hscale : SameScale first.reading arrival.reading := ⟨hboot, hdevice⟩
  rw [cursorKey_congr hscale] at hseq
  exact ⟨heligible, first, hstands, hscale, hfresh _ hseq, hunit,
    distanceWithinResolution_iff.mp hdistance⟩

lemma sinceConsumed_cons (hcalls : ∀ r, calls ≠ [.consumed r]) (history : History) :
    sinceConsumed ((e, calls) :: history) =
      (sinceConsumed history).map (fun s => (s.1, e.reading?.toList ++ s.2)) := by
  rw [sinceConsumed]
  exact hcalls

lemma Inv.consumed_cons (h : a.Inv) (hcalls : ∀ r, calls ≠ [.consumed r]) :
    a.lastConsumedScaleReading = (sinceConsumed ((e, calls) :: a.history)).map Prod.fst := by
  rw [sinceConsumed_cons hcalls, Option.map_map, h.consumed]
  rfl

lemma Inv.acceptScale (h : a.Inv) (arrival : Arrival) : (a.step (.acceptScale arrival)).1.Inv := by
  rcases acceptScale_cases a arrival with ⟨n, hn, hle, heq⟩ | ⟨hfresh, hcursor, hconsumed, hcase⟩
  · have hstep : (a.step (.acceptScale arrival)).1 =
        { a with history := (.acceptScale arrival, []) :: a.history } := by
      simp only [step, apply, heq]
    rw [hstep]
    refine h.untaken rfl (fun q hq => ?_) (.inr ⟨rfl, rfl, nofun⟩) (h.consumed_cons nofun) nofun
    rcases List.mem_cons.mp hq with rfl | hq
    · exact ⟨n, hn, hle⟩
    · exact h.cursor q hq
  · have hhistory : ∀ calls, (a.acceptScale arrival).2 = calls →
        (a.step (.acceptScale arrival)).1.history = (.acceptScale arrival, calls) :: a.history := by
      rintro _ rfl
      rfl
    have hkept : ∀ calls, (a.acceptScale arrival).2 = calls → (∀ r, calls ≠ [.consumed r]) →
        (a.step (.acceptScale arrival)).1.lastConsumedScaleReading =
          (sinceConsumed (a.step (.acceptScale arrival)).1.history).map Prod.fst := by
      intro calls hcalls hne
      rw [hhistory calls hcalls]
      exact hconsumed.trans (h.consumed_cons hne)
    rcases hcase with ⟨reason, -, hcalls, hnone⟩ | ⟨hreason, hcandidate, hcalls | ⟨hcalls, c, hc, hagrees⟩⟩
    · refine h.untaken (hhistory _ hcalls) ?_ (.inl hnone) (hkept _ hcalls (by simp)) (by simp)
      rw [show (a.step (.acceptScale arrival)).1.lastScaleSequence = _ from hcursor]
      exact h.cursor_update hfresh
    · exact h.taken (hhistory _ hcalls) hfresh hcursor hcandidate (eligible_of_invalidReason hreason)
        (hkept _ hcalls (by simp)) (by simp)
    · have heligible := eligible_of_invalidReason hreason
      refine h.taken (hhistory _ hcalls) hfresh hcursor hcandidate heligible
        (hkept _ hcalls (by simp)) ?_
      rintro r hr
      obtain rfl : r = arrival.reading := by simpa using hr
      exact ⟨rfl, h.confirms hc hfresh heligible hagrees⟩

lemma apply_cases (a : InputAdapter) (he : e.reading? = none) :
    (a.apply e).1.lastScaleSequence = a.lastScaleSequence ∧
      ((a.apply e).1.lastConsumedScaleReading = a.lastConsumedScaleReading ∧
          ((a.apply e).2 = [] ∧ (a.apply e).1.scaleCandidate = a.scaleCandidate ∨
            ∃ reason, (a.apply e).2 = [.invalidate reason] ∧ (a.apply e).1.scaleCandidate = none) ∨
        ∃ r, (a.apply e).2 = [.consumed r] ∧ (a.apply e).1.lastConsumedScaleReading = some r ∧
          (a.apply e).1.scaleCandidate = none) := by
  cases e with
  | acceptScale => cases he
  | onTransportState =>
    simp only [apply, onTransportState]
    split <;> simp [dropCandidate, invalidateScale]
  | setScaleActive active => cases active <;> simp [apply, dropCandidate, invalidateScale]
  | reconcile => simp [apply, dropCandidate, invalidateScale]
  | consumeScaleReading =>
    simp only [apply, consumeScaleReading]
    split
    · split <;> simp
    · simp
  | staleTimer =>
    simp only [apply]
    split
    · split <;> simp [dropCandidate, invalidateScale]
    · simp

lemma Inv.step (h : a.Inv) (e : InputEvent) : (a.step e).1.Inv := by
  cases he : e.reading? with
  | some =>
    cases e with
    | acceptScale arrival => exact h.acceptScale arrival
    | _ => cases he
  | none =>
    obtain ⟨hcursor, hcase⟩ := apply_cases a he
    have hcursors : ∀ q ∈ readings (a.step e).1.history, ∃ n,
        (a.step e).1.lastScaleSequence (cursorKey q) = some n ∧ q.sequence ≤ n := by
      change ∀ q ∈ List.filterMap _ ((e, _) :: a.history), ∃ n,
        (a.apply e).1.lastScaleSequence (cursorKey q) = some n ∧ _
      rw [List.filterMap_cons, he, hcursor]
      exact h.cursor
    have hhistory : (a.step e).1.history = (e, (a.apply e).2) :: a.history := rfl
    rcases hcase with ⟨hconsumed, ⟨hcalls, hsame⟩ | ⟨reason, hcalls, hnone⟩⟩ |
      ⟨r, hcalls, hconsumed, hnone⟩ <;> rw [hcalls] at hhistory
    · exact h.untaken hhistory hcursors (.inr ⟨hsame, hcursor, by simp⟩)
        (hconsumed.trans (by rw [hhistory]; exact h.consumed_cons (by simp))) (by simp)
    · exact h.untaken hhistory hcursors (.inl hnone)
        (hconsumed.trans (by rw [hhistory]; exact h.consumed_cons (by simp))) (by simp)
    · exact h.untaken hhistory hcursors (.inl hnone) (hconsumed.trans (by rw [hhistory]; rfl))
        (by simp)

lemma inv_start : Inv {} := ⟨nofun, nofun, rfl, trivial⟩

lemma RefusesUnchanged.step (h : a.Inv) (hrefuses : RefusesUnchanged a.history)
    (hunreturned : a.Unreturned e) : RefusesUnchanged (a.step e).1.history := by
  refine ⟨hrefuses, ?_⟩
  rintro arrival rfl hcall
  change _ ∈ (a.acceptScale arrival).2 at hcall
  have hreason : a.invalidReason arrival = some "weight_unchanged" := by
    rcases acceptScale_cases a arrival with ⟨n, -, -, heq⟩ |
      ⟨-, -, -, ⟨reason, hreason, hcalls, -⟩ | ⟨-, -, hcalls | ⟨hcalls, -⟩⟩⟩
    · simp [heq] at hcall
    · obtain rfl : "weight_unchanged" = reason := by simpa [hcalls] using hcall
      exact hreason
    · simp [hcalls] at hcall
    · simp [hcalls] at hcall
  obtain ⟨r, hr, hsame⟩ : ∃ r, a.lastConsumedScaleReading = some r ∧
      sameExactValue arrival.reading r = true := by
    have hany : a.lastConsumedScaleReading.any (sameExactValue arrival.reading) = true := by
      by_contra hnot
      cases hrange : arrival.reading.rangeState <;>
        simp [invalidReason, hnot, hrange, RangeState.value, ite_eq_iff] at hreason
    exact (Option.any_eq_true _ _).mp hany
  rw [h.consumed] at hr
  obtain ⟨⟨_, since⟩, hsince, rfl⟩ := Option.map_eq_some_iff.mp hr
  exact ⟨_, since, hsince, hunreturned _ hsince (sameExactValue_iff.mp hsame)⟩

end InputAdapter

/-- Each accepted reading confirms the newest one before it, and where the weight does not come
back, a refusal as unchanged means that no other value was received. -/
theorem scale_readings (events : List InputEvent) :
    Always (fun a => AcceptsPairs a.history) InputAdapter.step {} events ∧
      (RunOk InputAdapter.Unreturned InputAdapter.step {} events →
        Always (fun a => RefusesUnchanged a.history) InputAdapter.step {} events) := by
  constructor
  · intro earlier later _
    exact (final_of_step (fun a e (h : a.Inv) => h.step e) InputAdapter.inv_start earlier).pairs
  · intro hrun earlier later hevents
    rw [hevents, runOk_append] at hrun
    refine (final_invariant (I := fun a : InputAdapter => a.Inv ∧ RefusesUnchanged a.history)
      (fun a e h hok => ?_) ⟨InputAdapter.inv_start, trivial⟩ hrun.1).2
    exact ⟨h.1.step e, InputAdapter.RefusesUnchanged.step h.1 h.2 hok⟩

def sampleReading (sequence : Nat) (mantissa : Int) : ScaleReading :=
  ⟨"boot-1", "dev_scale", sequence, 0, mantissa, 1, -3, "kg", true, .valid⟩

def sampleArrival (sequence : Nat) (mantissa : Int) : InputEvent :=
  .acceptScale ⟨sampleReading sequence mantissa, 0, true, true⟩

def addedRun : List InputEvent :=
  [sampleArrival 1 1000, sampleArrival 2 1000, .consumeScaleReading, sampleArrival 3 1000,
    sampleArrival 4 500, sampleArrival 5 501]

theorem added_readings :
    RunOk InputAdapter.Unreturned InputAdapter.step {} addedRun ∧
      Always (fun a => RefusesUnchanged a.history) InputAdapter.step {} addedRun :=
  ⟨by decide +kernel, (scale_readings addedRun).2 (by decide +kernel)⟩

def replacedRun : List InputEvent :=
  [sampleArrival 1 1000, sampleArrival 2 1000, .consumeScaleReading, sampleArrival 3 0,
    sampleArrival 4 1000, sampleArrival 5 1000]

theorem replaced_item_refused :
    ¬ RefusesUnchanged (final InputAdapter.step {} replacedRun).history := by
  intro h
  obtain ⟨r, since, hsince, hsame⟩ := h.2 _ rfl (by decide +kernel)
  have hknown : ∀ s ∈ sinceConsumed (final InputAdapter.step {} (replacedRun.take 5)).history,
      ∃ q ∈ s.2, ¬ SameValue q s.1 := by decide +kernel
  obtain ⟨q, hq, hdiffers⟩ := hknown _ hsince
  exact hdiffers (hsame q hq)

end Inari.Browser
