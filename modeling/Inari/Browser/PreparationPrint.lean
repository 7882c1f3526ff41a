import Inari.Contracts.Values
import Inari.Lib.Except

/-!
# Preparation print plans

`PreparationPlanBook` of `preparation_print.js` and `createLocalPrintPlan` of
`submission_context.js`. A `plan` call waits for a digest between its read and its write of the
book.
-/

namespace Inari.Browser

open Lib

/-- `SEGMENTS` -/
inductive Segment
  | new | cancelled | noteUpdate | notes
deriving DecidableEq

def Segment.value : Segment → String
  | .new => "new"
  | .cancelled => "cancelled"
  | .noteUpdate => "note_update"
  | .notes => "notes"

inductive OriginKind
  | pos | preparation
deriving DecidableEq

structure ReportBinding where
  bindingRevisionId : String
  deviceId : String

structure PosOrder where
  uuid : String
  serverId : Option Int
  /-- The `id`, if it is an integer -/
  id : Option Int

structure LocalPrintRequest where
  binding : ReportBinding
  order : PosOrder
  posSessionId : String
  documentKind : String
  copyOrdinal : Nat
  originKind : OriginKind
  preparationRevision : Option String
  segmentIndex : Option Nat
  segmentKind : Option Segment

structure LocalPrintPlan where
  printIntentId : String
  posSessionId : String
  offlineOrderId : String
  serverOrderId : Option String
  documentKind : String
  bindingRevisionId : String
  deviceId : String
  copyOrdinal : Nat
  originKind : OriginKind
  preparationRevision : Option String
  segmentIndex : Option Nat
  segmentKind : Option Segment
deriving DecidableEq

/-- What `trim` removes -/
def isJsSpace (c : Char) : Bool := (isRustSpace c && c.toNat != 0x85) || c.toNat == 0xFEFF

def requireString (value name : String) : Except String String := do
  require (strip isJsSpace value != "") (name ++ " must be a non-empty string")
  pure value

def serverOrderId (order : PosOrder) : Option String := (order.serverId.or order.id).map toString

/-- `randomIntentId`, for the UUID that is drawn -/
def randomIntentId (uuid : String) : String :=
  "pi_v1_" ++ String.ofList (uuid.toList.filter (· != '-'))

def createLocalPrintPlan (uuid : String) (r : LocalPrintRequest) : Except String LocalPrintPlan := do
  require (1 ≤ r.copyOrdinal) "print copy ordinal must be a positive integer"
  require (r.originKind == .pos || r.segmentIndex.any (· ≤ 63) &&
    r.preparationRevision.any (· != "") && r.segmentKind.isSome)
    "preparation planning requires its segment and revision"
  let posSessionId ← requireString r.posSessionId "pos_session_id"
  let offlineOrderId ← requireString r.order.uuid "offline_order_id"
  let documentKind ← requireString r.documentKind "document_kind"
  let bindingRevisionId ← requireString r.binding.bindingRevisionId "binding_revision_id"
  let deviceId ← requireString r.binding.deviceId "device_id"
  let plan : LocalPrintPlan :=
    ⟨randomIntentId uuid, posSessionId, offlineOrderId, serverOrderId r.order, documentKind,
      bindingRevisionId, deviceId, r.copyOrdinal, r.originKind, none, none, none⟩
  match r.originKind with
  | .pos => pure plan
  | .preparation =>
    let revision ← requireString (r.preparationRevision.getD "") "preparation_revision"
    pure { plan with
      preparationRevision := some revision
      segmentIndex := r.segmentIndex
      segmentKind := r.segmentKind }

lemma createLocalPrintPlan_identity {uuid : String} {r : LocalPrintRequest} {plan : LocalPrintPlan}
    (h : createLocalPrintPlan uuid r = .ok plan) :
    plan.printIntentId = randomIntentId uuid ∧ plan.copyOrdinal = r.copyOrdinal := by
  simp only [createLocalPrintPlan, bind_ok] at h
  obtain ⟨-, -, -, -, posSessionId, -, offlineOrderId, -, documentKind, -, bindingRevisionId, -,
    deviceId, -, h⟩ := h
  cases hkind : r.originKind with
  | pos =>
    rw [hkind] at h
    obtain rfl := pure_ok.mp h
    exact ⟨rfl, rfl⟩
  | preparation =>
    rw [hkind] at h
    obtain ⟨_, -, h⟩ := bind_ok.mp h
    obtain rfl := pure_ok.mp h
    exact ⟨rfl, rfl⟩

/-- A `PREPARATION_SOURCE`. Its order change is an object, here the number of that object. -/
structure PreparationSource where
  order : PosOrder
  orderChange : Nat
  reprint : Bool
  segment : Option Segment
  segmentIndex : Option Nat

def sourceKey (bindingRevisionId : String) (segment : Option Segment) : String :=
  bindingRevisionId ++ "|" ++ (segment.map Segment.value).getD "null"

inductive EntryState
  | planned | accepted | failed
deriving DecidableEq

structure PlanEntry where
  plan : LocalPrintPlan
  state : EntryState

/-- The order change, Binding Revision and segment that a call is for -/
structure PreparationCopy where
  orderChange : Nat
  bindingRevisionId : String
  segment : Option Segment
deriving DecidableEq

structure PlanRequest where
  binding : ReportBinding
  source : PreparationSource
  posSessionId : String
  /-- The order change as `preparationRevision` encodes it when the call starts -/
  content : String

def PlanRequest.copy (r : PlanRequest) : PreparationCopy :=
  ⟨r.source.orderChange, r.binding.bindingRevisionId, r.source.segment⟩

/-- A `plan` call that waits for its digest -/
structure WaitingPlan where
  request : PlanRequest
  copyOrdinal : Nat

inductive Observation
  | returned (copy : PreparationCopy) (plan : LocalPrintPlan)
  | settled (copy : PreparationCopy) (accepted : Bool)
deriving DecidableEq

structure PlanBook where
  /-- A `Map` is made for an order change on its first use: none is the same as an empty one. -/
  entries : Nat → String → Option PlanEntry := fun _ _ => none
  /-- The calls in the order in which they started, `none` for those that have ended -/
  calls : List (Option WaitingPlan) := []
  /-- What was seen so far, the newest first -/
  trace : List Observation := []

/-- The random source and the digest of the browser. No two calls draw the same UUID. -/
structure PlanTools where
  uuid : Nat → String
  distinct : Function.Injective (fun call => randomIntentId (uuid call))
  sha256 : String → String

/-- `plan` is called, the digest of a waiting call is there or has failed, `settle` is called. -/
inductive PlanEvent
  | plan (request : PlanRequest)
  | digested (call : Nat)
  | undigested (call : Nat) (error : String)
  | settle (copy : PreparationCopy) (accepted : Bool)

namespace PlanBook

def entry (b : PlanBook) (copy : PreparationCopy) : Option PlanEntry :=
  b.entries copy.orderChange (sourceKey copy.bindingRevisionId copy.segment)

def setEntry (b : PlanBook) (copy : PreparationCopy) (e : PlanEntry) : PlanBook :=
  { b with entries := fun orderChange key =>
      if orderChange = copy.orderChange ∧ key = sourceKey copy.bindingRevisionId copy.segment then
        some e
      else b.entries orderChange key }

def observe (b : PlanBook) (o : Observation) : PlanBook := { b with trace := o :: b.trace }

def start (b : PlanBook) (c : Option WaitingPlan) : PlanBook := { b with calls := b.calls ++ [c] }

def finish (b : PlanBook) (call : Nat) : PlanBook := { b with calls := b.calls.set call none }

/-- The first part of `plan`, up to the digest -/
def plan (b : PlanBook) (r : PlanRequest) : PlanBook × Option (Except String LocalPrintPlan) :=
  if r.binding.bindingRevisionId == "" || r.binding.deviceId == "" || r.source.segment.isNone then
    (b.start none,
      some (.error "preparation planning requires a Binding and receipt source"))
  else
    match b.entry r.copy with
    | some previous =>
      if previous.state = .accepted then
        (b.start (some ⟨r, previous.plan.copyOrdinal + 1⟩), none)
      else
        ((b.start none).observe (.returned r.copy previous.plan), some (.ok previous.plan))
    | none => (b.start (some ⟨r, if r.source.reprint then 2 else 1⟩), none)

/-- The rest of `plan` -/
def planned (tools : PlanTools) (b : PlanBook) (call : Nat) (c : WaitingPlan) :
    PlanBook × Option (Except String LocalPrintPlan) :=
  let r := c.request
  let result := createLocalPrintPlan (tools.uuid call)
    { binding := r.binding
      order := r.source.order
      posSessionId := r.posSessionId
      documentKind := "preparation_ticket"
      copyOrdinal := c.copyOrdinal
      originKind := .preparation
      preparationRevision := some ("sha256:" ++ tools.sha256 r.content)
      segmentIndex := r.source.segmentIndex
      segmentKind := r.source.segment }
  match result with
  | .ok plan =>
    (((b.finish call).setEntry r.copy ⟨plan, .planned⟩).observe (.returned r.copy plan), some result)
  | .error _ => (b.finish call, some result)

def settle (b : PlanBook) (copy : PreparationCopy) (accepted : Bool) : PlanBook :=
  let settled := match b.entry copy with
    | some e => b.setEntry copy { e with state := if accepted then .accepted else .failed }
    | none => b
  settled.observe (.settled copy accepted)

/-- One step, with the result of the call that ends in it -/
def step (tools : PlanTools) (b : PlanBook) :
    PlanEvent → PlanBook × Option (Except String LocalPrintPlan)
  | .plan r => b.plan r
  | .digested call =>
    match b.calls[call]? with
    | some (some c) => b.planned tools call c
    | _ => (b, none)
  | .undigested call e =>
    match b.calls[call]? with
    | some (some _) => (b.finish call, some (.error e))
    | _ => (b, none)
  | .settle copy accepted => (b.settle copy accepted, none)

end PlanBook

end Inari.Browser
