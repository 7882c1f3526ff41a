import Inari.Agent.CommandDispatcher
import Inari.Contracts.CanonicalJson
import Inari.Controller.Json

/-!
# What the Agent reads of a Controller message

The JSON of a command as the models of the Agent read it, with their bounds stated of the
Controller's values.
-/

namespace Inari.Controller

open Lib Read Agent

/-- The length bound of a short text, after it is stripped. -/
def IsShort (s : String) : Prop :=
  1 ≤ (strip isRustSpace s).length ∧ (strip isRustSpace s).length ≤ 256

instance (s : String) : Decidable (IsShort s) := by unfold IsShort; infer_instance

lemma shortText_str {s t : String} :
    shortText (.str s) = .ok t ↔ IsShort s ∧ strip isRustSpace s = t := by
  simp [shortText, IsShort, and_assoc]

lemma isShort_identifier {start : String} {limit : Nat} {allowed : Char → Bool}
    [PlainIdentifier start limit allowed] (id : Identifier start limit allowed) :
    IsShort id.text := by
  rw [IsShort, id.strip_text]
  exact id.length_bounds

@[simp] lemma shortText_identifier {start : String} {limit : Nat} {allowed : Char → Bool}
    [PlainIdentifier start limit allowed] (id : Identifier start limit allowed) {t : String} :
    shortText (.str id.text) = .ok t ↔ id.text = t := by
  rw [shortText_str, id.strip_text]
  exact and_iff_right (isShort_identifier id)

def DeviceCommand.InAgentBounds : DeviceCommand → Prop
  | .openCashDrawer => True
  | .printTestPage => True
  | .feedLines count => 1 ≤ count.toNat ∧ count.toNat ≤ 24
  | .feedDots count => 1 ≤ count.toNat
  | .cutPaper mode => mode = "full" ∨ mode = "partial"

instance (c : DeviceCommand) : Decidable c.InAgentBounds := by
  cases c <;> (unfold DeviceCommand.InAgentBounds; infer_instance)

lemma lookup_cutMode {mode : String} :
    (∃ m, CutMode.values.lookup mode = some m) ↔ mode = "full" ∨ mode = "partial" := by
  simp only [CutMode.values, List.lookup]
  by_cases hfull : mode = "full"
  · simp [hfull]
  · by_cases hcut : mode = "partial"
    · simp [hcut]
    · simp [hfull, hcut, beq_false_of_ne hfull, beq_false_of_ne hcut]

lemma read_deviceCommand (c : DeviceCommand) :
    (∃ p, GatewayDeviceCommandPayload.modelValidate c.toJson = .ok p) ↔ c.InAgentBounds := by
  cases c with
  | openCashDrawer | printTestPage | feedLines =>
    simp [DeviceCommand.InAgentBounds, DeviceCommand.toJson,
      GatewayDeviceCommandPayload.modelValidate, bind_ok, List.lookup, field, forbidExtra]
  | feedDots count =>
    have hcount := count.toNat_lt
    simp [DeviceCommand.InAgentBounds, DeviceCommand.toJson,
      GatewayDeviceCommandPayload.modelValidate, bind_ok, List.lookup, field, forbidExtra]
    omega
  | cutPaper =>
    rw [DeviceCommand.InAgentBounds, ← lookup_cutMode]
    simp [DeviceCommand.toJson, GatewayDeviceCommandPayload.modelValidate, bind_ok, List.lookup, field, fieldD,
      forbidExtra]

def ExecuteDeviceCommand.InAgentBounds (c : ExecuteDeviceCommand) : Prop :=
  IsShort c.target.deviceId ∧ c.command.InAgentBounds

instance (c : ExecuteDeviceCommand) : Decidable c.InAgentBounds := by
  unfold ExecuteDeviceCommand.InAgentBounds; infer_instance

lemma read_executeDeviceCommand (c : ExecuteDeviceCommand) :
    (∃ p, ControllerExecuteDeviceCommandPayload.modelValidate c.toJson = .ok p) ↔
      c.InAgentBounds := by
  rw [ExecuteDeviceCommand.InAgentBounds, ← read_deviceCommand]
  simp [ExecuteDeviceCommand.toJson, ControllerExecuteDeviceCommandPayload.modelValidate,
    targetDeviceId, bind_ok, List.lookup, field, fieldD, forbidExtra, shortText_str]

def ManagedDispatchAuthenticatedData.InAgentBounds (d : ManagedDispatchAuthenticatedData) : Prop :=
  (1 ≤ d.idempotencyKey.length ∧ d.idempotencyKey.length ≤ 128) ∧
    isHexDigest (strip isRustSpace d.payloadFingerprint) = true ∧ 1 ≤ d.dispatchEpoch ∧
    1 ≤ d.sequence

def ManagedDispatchAuthenticatedData.asRead (d : ManagedDispatchAuthenticatedData) :
    ManagedDispatchAuthenticatedDataPayload :=
  ⟨d.organizationId.text, d.siteId.text, d.agentId.text, d.managedWorkId.text, d.idempotencyKey,
    strip isRustSpace d.payloadFingerprint, d.dispatchEpoch, d.sequence, d.issuedAt, d.expiresAt,
    d.workExpiresAt⟩

variable {tools : WireTools} {content : ControllerCommandContent}

lemma read_authenticatedData {d : ManagedDispatchAuthenticatedData} {j : Json}
    (htime : tools.representsTime d.workExpiresAt)
    (hj : j = d.toJson tools ∨ j = (d.toJson tools).sorted)
    {p : ManagedDispatchAuthenticatedDataPayload} :
    ManagedDispatchAuthenticatedDataPayload.modelValidate tools j = .ok p ↔
      d.InAgentBounds ∧ d.asRead = p := by
  rcases hj with rfl | rfl <;>
    simp [ManagedDispatchAuthenticatedData.InAgentBounds, ManagedDispatchAuthenticatedData.asRead,
      ManagedDispatchAuthenticatedData.toJson,
      ManagedDispatchAuthenticatedDataPayload.modelValidate, Json.sorted, bind_ok, List.lookup, field,
      forbidExtra_of, htime.2, and_assoc]

def SealedManagedDispatch.InAgentBounds (s : SealedManagedDispatch) : Prop :=
  s.protocolVersion = 1 ∧ IsShort s.keyId ∧
    1 ≤ (strip isRustSpace s.encapsulatedKeyBase64url).length ∧
    1 ≤ (strip isRustSpace s.ciphertextBase64url).length

def SealedManagedDispatch.asRead (s : SealedManagedDispatch) : SealedManagedDispatchPayload :=
  ⟨strip isRustSpace s.keyId, strip isRustSpace s.encapsulatedKeyBase64url,
    strip isRustSpace s.ciphertextBase64url⟩

lemma read_sealed {s : SealedManagedDispatch} {p : SealedManagedDispatchPayload} :
    SealedManagedDispatchPayload.modelValidate s.toJson = .ok p ↔
      s.InAgentBounds ∧ s.asRead = p := by
  have hversion : (1 ≤ s.protocolVersion ∧ s.protocolVersion ≤ 1) ↔ s.protocolVersion = 1 := by
    omega
  simp [SealedManagedDispatch.InAgentBounds, SealedManagedDispatch.asRead,
    SealedManagedDispatchPayload.modelValidate, SealedManagedDispatch.toJson, bind_ok, List.lookup, field,
    fieldD, forbidExtra, shortText_str, hversion, and_assoc]

def DispatchDeviceWork.InAgentBounds (d : DispatchDeviceWork) : Prop :=
  d.authenticatedData.InAgentBounds ∧ d.sealedEnvelope.InAgentBounds

instance (d : DispatchDeviceWork) : Decidable d.InAgentBounds := by
  unfold DispatchDeviceWork.InAgentBounds ManagedDispatchAuthenticatedData.InAgentBounds
    SealedManagedDispatch.InAgentBounds
  infer_instance

def DispatchDeviceWork.asRead (d : DispatchDeviceWork) : DispatchDeviceWorkPayload :=
  ⟨d.managedWorkId.text, d.authenticatedData.asRead, d.sealedEnvelope.asRead⟩

lemma read_dispatchDeviceWork {d : DispatchDeviceWork}
    (htime : tools.representsTime d.authenticatedData.workExpiresAt) {p : DispatchDeviceWorkPayload} :
    DispatchDeviceWorkPayload.modelValidate tools (d.toJson tools) = .ok p ↔
      d.InAgentBounds ∧ d.asRead = p := by
  simp [DispatchDeviceWorkPayload.modelValidate, DispatchDeviceWork.toJson,
    DispatchDeviceWork.InAgentBounds, DispatchDeviceWork.asRead, bind_ok, List.lookup, field, forbidExtra,
    read_authenticatedData htime (.inl rfl), read_sealed, and_assoc]

def CommandBody.InAgentBounds : CommandBody → Prop
  | .executeDeviceCommand payload => payload.InAgentBounds
  | .cancelJob _ => True
  | .dispatchDeviceWork payload => payload.InAgentBounds

instance (b : CommandBody) : Decidable b.InAgentBounds := by
  cases b <;> (unfold CommandBody.InAgentBounds; infer_instance)

inductive CommandBody.ReadsAs : CommandBody → ControllerCommandContent → Prop
  | executeDeviceCommand {payload : ExecuteDeviceCommand}
      {p : ControllerExecuteDeviceCommandPayload}
      (h : ControllerExecuteDeviceCommandPayload.modelValidate payload.toJson = .ok p) :
      ReadsAs (.executeDeviceCommand payload) (.executeDeviceCommand p)
  | cancelJob (jobId : String) : ReadsAs (.cancelJob jobId) (.cancelJob (strip isRustSpace jobId))
  | dispatchDeviceWork {payload : DispatchDeviceWork} (h : payload.InAgentBounds) :
      ReadsAs (.dispatchDeviceWork payload) (.dispatchDeviceWork payload.asRead)

lemma readsAs_executeDeviceCommand {payload : ExecuteDeviceCommand} :
    (CommandBody.executeDeviceCommand payload).ReadsAs content ↔
      ∃ p, ControllerExecuteDeviceCommandPayload.modelValidate payload.toJson = .ok p ∧
        .executeDeviceCommand p = content :=
  ⟨fun h => by cases h with | executeDeviceCommand h => exact ⟨_, h, rfl⟩,
    fun ⟨_, h, hc⟩ => hc ▸ .executeDeviceCommand h⟩

lemma readsAs_cancelJob {jobId : String} :
    (CommandBody.cancelJob jobId).ReadsAs content ↔
      .cancelJob (strip isRustSpace jobId) = content :=
  ⟨fun h => by cases h with | cancelJob => rfl, fun hc => hc ▸ .cancelJob jobId⟩

lemma readsAs_dispatchDeviceWork {payload : DispatchDeviceWork} :
    (CommandBody.dispatchDeviceWork payload).ReadsAs content ↔
      payload.InAgentBounds ∧ .dispatchDeviceWork payload.asRead = content :=
  ⟨fun h => by cases h with | dispatchDeviceWork h => exact ⟨h, rfl⟩,
    fun ⟨h, hc⟩ => hc ▸ .dispatchDeviceWork h⟩

lemma exists_readsAs {b : CommandBody} : (∃ content, b.ReadsAs content) ↔ b.InAgentBounds := by
  cases b with
  | executeDeviceCommand =>
    rw [CommandBody.InAgentBounds, ← read_executeDeviceCommand]
    exact ⟨fun ⟨_, .executeDeviceCommand h⟩ => ⟨_, h⟩, fun ⟨_, h⟩ => ⟨_, .executeDeviceCommand h⟩⟩
  | cancelJob jobId => exact ⟨fun _ => trivial, fun _ => ⟨_, .cancelJob jobId⟩⟩
  | dispatchDeviceWork =>
    exact ⟨fun ⟨_, .dispatchDeviceWork h⟩ => h, fun h => ⟨_, .dispatchDeviceWork h⟩⟩

def ControllerCommand.RepresentsTimes (tools : WireTools) (m : ControllerCommand) : Prop :=
  tools.representsTime m.issuedAt ∧
    ∀ payload, m.body = .dispatchDeviceWork payload →
      tools.representsTime payload.authenticatedData.workExpiresAt

def ControllerCommand.asRead (m : ControllerCommand) (content : ControllerCommandContent) :
    ControllerCommandMessage :=
  ⟨strip isRustSpace m.messageId, strip isRustSpace m.commandId, m.sequence, some m.issuedAt,
    content⟩

lemma read_command {m : ControllerCommand} (htime : m.RepresentsTimes tools)
    {y : ControllerCommandMessage} :
    ControllerCommandMessage.modelValidate tools (m.toJson tools) = .ok y ↔
      1 ≤ m.sequence ∧ ∃ content, m.body.ReadsAs content ∧ m.asRead content = y := by
  obtain ⟨messageId, commandId, sequence, issuedAt, body⟩ := m
  have hissued := htime.1.1
  cases body with
  | executeDeviceCommand =>
    simp [ControllerCommandMessage.modelValidate, ControllerCommand.toJson,
      CommandBody.messageType, CommandBody.field, controllerMessage, bind_ok, List.lookup, field,
      fieldD, forbidExtra, map_ok, hissued, ControllerCommand.asRead, readsAs_executeDeviceCommand]
  | cancelJob =>
    simp [ControllerCommandMessage.modelValidate, ControllerCommand.toJson,
      CommandBody.messageType, CommandBody.field, controllerMessage, bind_ok, List.lookup, field,
      fieldD, forbidExtra, map_ok, hissued, ControllerCommand.asRead, readsAs_cancelJob]
  | dispatchDeviceWork payload =>
    have hwork : tools.representsTime payload.authenticatedData.workExpiresAt :=
      htime.2 payload rfl
    simp [ControllerCommandMessage.modelValidate, ControllerCommand.toJson,
      CommandBody.messageType, CommandBody.field, controllerMessage, bind_ok, List.lookup, field,
      forbidExtra, map_ok, hissued, ControllerCommand.asRead, readsAs_dispatchDeviceWork,
      read_dispatchDeviceWork hwork]

lemma read_history {h : CommandHistory} {ys : List ControllerCommandMessage} :
    parseHistoryPayload tools (h.toJson tools) = .ok ys ↔
      List.Forall₂ (fun (m : ControllerCommand) y =>
        ControllerCommandMessage.modelValidate tools (m.toJson tools) = .ok y) h.commands ys := by
  simp [parseHistoryPayload, CommandHistory.toJson, historyCommands, controllerCommandList,
    bind_ok, List.lookup, fieldD, forbidExtra, items_arr, List.forall₂_map_left_iff]

end Inari.Controller
