import Mathlib

/-!
# Scale readings in the browser

`InariDeviceInputAdapter` of `device_input_adapter.js`, as far as it handles a scale. Times are
milliseconds.
-/

namespace Inari.Browser

inductive RangeState
  | valid | underload | overload
deriving DecidableEq

def RangeState.value : RangeState → String
  | .valid => "valid"
  | .underload => "underload"
  | .overload => "overload"

/-- The reading of a verified payload, as `exactReading` makes it -/
structure ScaleReading where
  agentBootId : String
  deviceId : String
  sequence : Nat
  observedAt : Int
  mantissa : Int
  resolution : Int
  exponent : Int
  unit : String
  stable : Bool
  rangeState : RangeState
deriving DecidableEq

def powerOfTen (exponent : Int) : Int := 10 ^ exponent.toNat

def alignMantissa (r : ScaleReading) (exponent : Int) : Int :=
  r.mantissa * powerOfTen (r.exponent - exponent)

def distanceWithinResolution (first second : ScaleReading) : Bool :=
  let exponent := min first.exponent second.exponent
  let distance := alignMantissa first exponent - alignMantissa second exponent
  let firstResolution := first.resolution * powerOfTen (first.exponent - exponent)
  let secondResolution := second.resolution * powerOfTen (second.exponent - exponent)
  let allowed := if firstResolution > secondResolution then firstResolution else secondResolution
  (if distance < 0 then -distance else distance) ≤ allowed

def sameExactValue (first second : ScaleReading) : Bool :=
  let exponent := min first.exponent second.exponent
  first.unit == second.unit && alignMantissa first exponent == alignMantissa second exponent

/-- A verified payload, with what the port answers about it -/
structure Arrival where
  reading : ScaleReading
  now : Int
  isUnitCompatible : Bool
  accepts : Bool

inductive InputEvent
  | acceptScale (arrival : Arrival)
  | onTransportState (name : String) (scaleActive : Bool)
  | setScaleActive (active : Bool)
  | reconcile
  | consumeScaleReading
  | staleTimer

inductive PortCall
  | accept (reading : ScaleReading)
  | invalidate (reason : String)
  | consumed (reading : ScaleReading)
deriving DecidableEq

structure InputAdapter where
  transport : String := "idle"
  scaleActive : Bool := false
  scaleValid : Bool := false
  scaleReason : Option String := some "inactive"
  scaleCandidate : Option ScaleReading := none
  scaleReading : Option ScaleReading := none
  lastConsumedScaleReading : Option ScaleReading := none
  lastScaleSequence : String → Option Nat := fun _ => none
  /-- The reading that the running timer is for -/
  staleTimer : Option ScaleReading := none
  /-- The events so far and what they did, the newest first -/
  history : List (InputEvent × List PortCall) := []

namespace InputAdapter

variable (a : InputAdapter)

def invalidateScale (reason : String) : InputAdapter × List PortCall :=
  ({ a with
    staleTimer := none
    scaleReading := none
    scaleValid := false
    scaleReason := some reason }, [.invalidate reason])

/-- Every invalidation also drops the candidate, except that of a new one. -/
def dropCandidate (reason : String) : InputAdapter × List PortCall :=
  { a with scaleCandidate := none }.invalidateScale reason

def cursorKey (r : ScaleReading) : String := r.agentBootId ++ "|" ++ r.deviceId

def invalidReason (arrival : Arrival) : Option String :=
  let reading := arrival.reading
  let age := arrival.now - reading.observedAt
  if age > 1000 ∨ age < -1000 then some "stale"
  else if !reading.stable then some "unstable"
  else if reading.rangeState ≠ .valid then some reading.rangeState.value
  else if !arrival.isUnitCompatible then some "unit_incompatible"
  else if reading.mantissa ≤ 0 then some "non_positive"
  else if a.lastConsumedScaleReading.any (sameExactValue reading) then some "weight_unchanged"
  else none

def agrees (candidate reading : ScaleReading) : Bool :=
  candidate.agentBootId == reading.agentBootId && candidate.deviceId == reading.deviceId &&
    candidate.unit == reading.unit && distanceWithinResolution candidate reading

def acceptScale (arrival : Arrival) : InputAdapter × List PortCall :=
  let reading := arrival.reading
  if (a.lastScaleSequence (cursorKey reading)).any (reading.sequence ≤ ·) then (a, [])
  else
    let cursors := Function.update a.lastScaleSequence (cursorKey reading) (some reading.sequence)
    let a := { a with lastScaleSequence := cursors }
    match a.invalidReason arrival with
    | some reason => a.dropCandidate reason
    | none =>
      if a.scaleCandidate.any (agrees · reading) then
        ({ a with
          scaleCandidate := some reading
          scaleReading := some reading
          scaleValid := true
          scaleReason := none
          staleTimer := if arrival.accepts then some reading else a.staleTimer },
          [.accept reading])
      else { a with scaleCandidate := some reading }.invalidateScale "stabilizing"

def consumeScaleReading : InputAdapter × List PortCall :=
  match a.scaleReading with
  | some reading =>
    if a.scaleValid then
      ({ a with lastConsumedScaleReading := some reading, scaleCandidate := none },
        [.consumed reading])
    else (a, [])
  | none => (a, [])

def onTransportState (name : String) (scaleActive : Bool) : InputAdapter × List PortCall :=
  let next := { a with transport := name, scaleActive := scaleActive && a.scaleActive }
  if a.scaleActive && name != "connected" then next.dropCandidate name else (next, [])

def apply : InputEvent → InputAdapter × List PortCall
  | .acceptScale arrival => a.acceptScale arrival
  | .onTransportState name scaleActive => a.onTransportState name scaleActive
  | .setScaleActive active =>
    -- the new state of the transport comes in a later event
    if active then ({ a with scaleActive := true }, [])
    else { a with scaleActive := false }.dropCandidate "inactive"
  | .reconcile => a.dropCandidate "reconciling"
  | .consumeScaleReading => a.consumeScaleReading
  | .staleTimer =>
    match a.staleTimer with
    | some reading =>
      let next := { a with staleTimer := none }
      if a.scaleReading = some reading then next.dropCandidate "stale" else (next, [])
    | none => (a, [])

def step (e : InputEvent) : InputAdapter × List PortCall :=
  let next := a.apply e
  ({ next.1 with history := (e, next.2) :: a.history }, next.2)

end InputAdapter

end Inari.Browser
