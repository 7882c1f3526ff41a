import Inari.Contracts.Values
import Inari.Lib.Except
import Inari.Lib.Table

/-!
# Device Bindings

`models/bindings.py` of the Odoo module. A Binding serves a Device Purpose through revisions, of
which at most one is active.
-/

namespace Inari.Odoo

open Lib

/-- The keys of `PURPOSES`. -/
inductive Purpose
  | posReceipt
  | posPreparation
  | posCashDrawer
  | posScale
  | posScanner
  | reportPdf
  | stockLabel

def Purpose.value : Purpose → String
  | posReceipt => "pos_receipt"
  | posPreparation => "pos_preparation"
  | posCashDrawer => "pos_cash_drawer"
  | posScale => "pos_scale"
  | posScanner => "pos_scanner"
  | reportPdf => "report_pdf"
  | stockLabel => "stock_label"

/-- `PURPOSE_OPERATIONS` -/
def Purpose.operation : Purpose → String
  | posReceipt | posPreparation => "receipt_image"
  | posCashDrawer => "open_cash_drawer"
  | posScale => "scale_reading"
  | posScanner => "barcode_event"
  | reportPdf => "report_pdf"
  | stockLabel => "label_document"

inductive ScopeType
  | posConfig
  | site

def ScopeType.value : ScopeType → String
  | posConfig => "pos_config"
  | site => "site"

inductive BindingState
  | draft
  | active
  | attention
  | disabled
deriving DecidableEq

inductive RevisionState
  | draft
  | tested
  | active
  | inactive
  | attention
deriving DecidableEq

inductive TestOutcome
  | passed
  | failedEnvironment
  | failedContract
  | notRun
deriving DecidableEq

structure Device where
  id : Nat
  deviceId : String
  companyId : Nat
  driverProfileDigest : Option String

structure Capability where
  id : Nat
  deviceId : Nat
  operation : String

/-- `inari.device.binding` -/
structure Binding where
  id : Nat
  companyId : Nat
  siteId : Nat
  siteControllerUuid : String
  scopeType : ScopeType
  purpose : Purpose
  active : Bool
  state : BindingState
  activeRevisionId : Option Nat

/-- `inari.device.binding.revision` -/
structure Revision where
  id : Nat
  bindingId : Nat
  companyId : Nat
  siteId : Nat
  deviceId : Nat
  capabilityId : Nat
  driverProfileDigest : Option String
  normalizedOptions : Json
  authorizationDigest : String
  revisionNumber : Nat
  state : RevisionState
  latestObservedTestId : Option Nat
  latestPassedTestId : Option Nat

/-- `inari.device.test.result` -/
structure TestResult where
  id : Nat
  companyId : Nat
  bindingRevisionId : Nat
  result : TestOutcome

inductive BindingError
  | accessError (message : String)
  | userError (message : String)
  | validationError (message : String)
  | missingError
  | integrityError
  /-- The transaction fails for a reason outside these models. -/
  | rolledBack

instance : SqlError BindingError := ⟨.integrityError, .missingError⟩

def bindingPrimaryKey : UniqueIndex Binding := ⟨fun b => some b.id⟩

/-- `_active_revision_binding_uniq` -/
def uqActiveRevision : UniqueIndex Binding := ⟨fun b => b.activeRevisionId⟩

def bindingSpec : TableSpec Binding := ⟨fun _ => true, [bindingPrimaryKey, uqActiveRevision]⟩

def revisionPrimaryKey : UniqueIndex Revision := ⟨fun r => some r.id⟩

/-- `_revision_number_uniq` -/
def uqRevisionNumber : UniqueIndex Revision := ⟨fun r => some (r.bindingId, r.revisionNumber)⟩

/-- `_authorization_digest_uniq` -/
def uqAuthorizationDigest : UniqueIndex Revision :=
  ⟨fun r => some (r.bindingId, r.authorizationDigest)⟩

def revisionSpec : TableSpec Revision :=
  ⟨fun _ => true, [revisionPrimaryKey, uqRevisionNumber, uqAuthorizationDigest]⟩

def resultPrimaryKey : UniqueIndex TestResult := ⟨fun t => some t.id⟩

def resultSpec : TableSpec TestResult := ⟨fun _ => true, [resultPrimaryKey]⟩

structure Store where
  bindings : Table bindingSpec
  revisions : Table revisionSpec
  results : Table resultSpec

/-- `self.env` -/
structure Env where
  isSuperuser : Bool
  isOperator : Bool
  isManager : Bool

namespace Store

variable (s : Store)

def binding (id : Nat) : Except BindingError Binding :=
  orRaise (s.bindings.first (·.id == id)) .missingError

def revision (id : Nat) : Except BindingError Revision :=
  orRaise (s.revisions.first (·.id == id)) .missingError

/-- `InariDeviceBinding.write` -/
def writeBinding (env : Env) (id : Nat) (f : Binding → Binding) : Except BindingError Store := do
  require (env.isSuperuser || !env.isOperator || env.isManager)
    (.accessError "Device Operators cannot change Device Bindings.")
  let bindings ← s.bindings.update (·.id == id) f
  pure { s with bindings }

/-- `InariDeviceBindingRevision.write`, never called here for an immutable field. -/
def writeRevision (id : Nat) (f : Revision → Revision) : Except BindingError Store := do
  let revisions ← s.revisions.update (·.id == id) f
  pure { s with revisions }

/-- `self.revision_ids` -/
def revisionsOf (binding : Binding) : List Revision :=
  s.revisions.select (·.bindingId == binding.id)

/-- The Python expression `first or second` for two texts. -/
def orText (first second : Option String) : Option String :=
  if first.getD "" = "" then second else first

def digestInput (binding : Binding) (device : Device) (capability : Capability)
    (profile : Option String) (options : Json) : Json :=
  .obj [("device", .str device.deviceId), ("capability", .int capability.id),
    ("profile", .str (profile.getD "")), ("options", options),
    ("purpose", .str binding.purpose.value), ("scope", .str binding.scopeType.value),
    ("site", .str binding.siteControllerUuid)]

/-- `action_create_revision`; `newId` is what the sequence of the table hands out. -/
def actionCreateRevision (digestOf : Json → String) (env : Env) (bindingId : Nat) (device : Device)
    (capability : Capability) (normalizedOptions : Option Json)
    (driverProfileDigest : Option String) (newId : Nat) :
    Except BindingError (Store × Revision) := do
  let binding ← s.binding bindingId
  require (env.isSuperuser || env.isManager)
    (.accessError "A Device Manager is required to create a Binding Revision.")
  require (device.companyId == binding.companyId && capability.deviceId == device.id)
    (.validationError "The Device and Capability must match the Binding company and Device.")
  require (capability.operation == binding.purpose.operation)
    (.validationError "The Device Capability does not support this Binding Purpose.")
  let options := normalizedOptions.getD (.obj [])
  let profile := orText driverProfileDigest device.driverProfileDigest
  let digest := digestOf (digestInput binding device capability profile options)
  -- At most one row has the digest, so the last one of the records is the first one found.
  match (s.revisionsOf binding).find? (·.authorizationDigest == digest) with
  | some existing => pure (s, existing)
  | none =>
    let revision : Revision :=
      { id := newId
        bindingId := binding.id
        companyId := binding.companyId
        siteId := binding.siteId
        deviceId := device.id
        capabilityId := capability.id
        driverProfileDigest := profile
        normalizedOptions := options
        authorizationDigest := digest
        revisionNumber := ((s.revisionsOf binding).map (·.revisionNumber)).foldl max 0 + 1
        state := .draft
        latestObservedTestId := none
        latestPassedTestId := none }
    let revisions ← s.revisions.insert revision
    pure ({ s with revisions }, revision)

def observe (record : TestResult) (revision : Revision) : Revision :=
  if record.result = .passed then
    { revision with
      latestObservedTestId := some record.id
      latestPassedTestId := some record.id
      state := .tested }
  else if revision.state = .active ∧ record.result = .failedContract then
    { revision with latestObservedTestId := some record.id, state := .attention }
  else { revision with latestObservedTestId := some record.id }

/-- `InariDeviceTestResult.create` for one record. -/
def createTestResult (record : TestResult) : Except BindingError Store := do
  let results ← s.results.insert record
  let revision ← s.revision record.bindingRevisionId
  require (revision.companyId == record.companyId)
    (.validationError "The Device Test company must match the Binding Revision.")
  ({ s with results } : Store).writeRevision revision.id (observe record)

/-- The active revision of the Binding becomes inactive, unless it is the one to keep. -/
def retire (binding : Binding) (keep : Option Nat) : Except BindingError Store :=
  match binding.activeRevisionId with
  | some old =>
    if keep = some old then pure s
    else s.writeRevision old fun r => { r with state := .inactive }
  | none => pure s

def actionActivateRevision (env : Env) (bindingId revisionId : Nat) :
    Except BindingError Store := do
  let binding ← s.binding bindingId
  let revision ← s.revision revisionId
  require (revision.bindingId == binding.id && revision.companyId == binding.companyId)
    (.validationError "The Binding Revision does not belong to this Binding.")
  let latest := revision.latestPassedTestId.bind fun id => s.results.first (·.id == id)
  require (revision.state == .tested && latest.any (·.result == .passed))
    (.userError "A passed Device Test is required before activation.")
  let s ← s.retire binding (some revision.id)
  let s ← s.writeRevision revision.id fun r => { r with state := .active }
  s.writeBinding env binding.id fun b =>
    { b with activeRevisionId := some revision.id, active := true, state := .active }

/-- `action_deactivate` for one record. -/
def actionDeactivate (env : Env) (bindingId : Nat) : Except BindingError Store := do
  let record ← s.binding bindingId
  let s ← s.retire record none
  s.writeBinding env record.id fun b =>
    { b with activeRevisionId := none, active := false, state := .disabled }

end Store

inductive BindingCall
  | createRevision (env : Env) (bindingId : Nat) (device : Device) (capability : Capability)
      (normalizedOptions : Option Json) (driverProfileDigest : Option String) (newId : Nat)
  | createTestResult (record : TestResult)
  | activateRevision (env : Env) (bindingId revisionId : Nat)
  | deactivate (env : Env) (bindingId : Nat)

/-- A call, and whether its transaction commits. -/
structure BindingRequest where
  call : BindingCall
  commits : Bool

variable (digestOf : Json → String)

def Store.perform (s : Store) : BindingCall → Except BindingError Store
  | .createRevision env bindingId device capability options profile newId =>
    (s.actionCreateRevision digestOf env bindingId device capability options profile newId).map
      (·.1)
  | .createTestResult record => s.createTestResult record
  | .activateRevision env bindingId revisionId => s.actionActivateRevision env bindingId revisionId
  | .deactivate env bindingId => s.actionDeactivate env bindingId

/-- One transaction: a call that raises leaves the tables as they were. -/
def bindingStep (s : Store) (e : BindingRequest) : Store × Except BindingError Unit :=
  match if e.commits then s.perform digestOf e.call else .error .rolledBack with
  | .ok s' => (s', .ok ())
  | .error error => (s, .error error)

end Inari.Odoo
