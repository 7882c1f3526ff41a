import Inari.Contracts.Wire
import Inari.Controller.Protocol

/-!
# JSON forms of the gateway protocol

What `serde` writes for the messages of the protocol.
-/

namespace Inari.Controller

def ReportBindingClaim.toJson (b : ReportBindingClaim) : Json :=
  .obj [("report_binding_id", .str b.reportBindingId),
    ("binding_revision_id", .str b.bindingRevisionId),
    ("report_action_id", .str b.reportActionId),
    ("report_contract_digest", .str b.reportContractDigest),
    ("template_digest", .str b.templateDigest),
    ("command_profile_id", .text? b.commandProfileId),
    ("layout_profile_id", .text? b.layoutProfileId),
    ("hardware_matrix_digest", .text? b.hardwareMatrixDigest)]

def ReportSource.toJson : ReportSource → Json
  | .records model orderedIds =>
    .obj [("kind", .str "records"), ("model", .str model),
      ("ordered_ids", .arr (orderedIds.map .int))]
  | .wizard model inputDigest =>
    .obj [("kind", .str "wizard"), ("model", .str model), ("input_digest", .str inputDigest)]

def ReportPrintOrigin.toJson (o : ReportPrintOrigin) : Json :=
  .obj [("binding", o.binding.toJson), ("route", .str o.route.text), ("source", o.source.toJson),
    ("rendered_document_index", .int o.renderedDocumentIndex),
    ("copy_ordinal", .int o.copyOrdinal)]

def ManagedWorkScope.toJson (s : ManagedWorkScope) : Json :=
  .obj [("database", .str s.database), ("company_id", .str s.companyId),
    ("organization_id", .str s.organizationId.text), ("site_id", .str s.siteId.text),
    ("agent_id", .str s.agentId.text)]

def ManagedDocument.toJson (d : ManagedDocument) : Json :=
  .obj [("operation", .str d.operation.text), ("content_base64", .str d.contentBase64)]

def ManagedDeviceWork.toJson (w : ManagedDeviceWork) : Json :=
  .obj [("contract_major", .int w.contractMajor), ("scope", w.scope.toJson),
    ("print_intent_id", .str w.printIntentId.text), ("device_id", .str w.deviceId.text),
    ("origin", w.origin.toJson), ("document", w.document.toJson),
    ("normalized_device_options", .obj w.normalizedDeviceOptions)]

variable (tools : WireTools)

def ManagedDispatchAuthenticatedData.toJson (d : ManagedDispatchAuthenticatedData) : Json :=
  .obj [("organization_id", .str d.organizationId.text), ("site_id", .str d.siteId.text),
    ("agent_id", .str d.agentId.text), ("managed_work_id", .str d.managedWorkId.text),
    ("idempotency_key", .str d.idempotencyKey),
    ("payload_fingerprint", .str d.payloadFingerprint),
    ("dispatch_epoch", .int d.dispatchEpoch), ("sequence", .int d.sequence),
    ("issued_at", .int d.issuedAt), ("expires_at", .int d.expiresAt),
    ("work_expires_at", .str (tools.rfc3339Micros d.workExpiresAt))]

def ManagedDispatchClaims.toJson (c : ManagedDispatchClaims) : Json :=
  .obj [("iss", .str c.issuer), ("aud", .str c.audience.text),
    ("authenticated_data", c.authenticatedData.toJson tools), ("work", c.work.toJson)]

def SealedManagedDispatch.toJson (s : SealedManagedDispatch) : Json :=
  .obj [("protocol_version", .int s.protocolVersion), ("key_id", .str s.keyId),
    ("suite", .str "dhkem_x25519_hkdf_sha256_hkdf_sha256_aes256_gcm"),
    ("encapsulated_key_base64url", .str s.encapsulatedKeyBase64url),
    ("ciphertext_base64url", .str s.ciphertextBase64url)]

def DispatchDeviceWork.toJson (d : DispatchDeviceWork) : Json :=
  .obj [("managed_work_id", .str d.managedWorkId.text),
    ("authenticated_data", d.authenticatedData.toJson tools),
    ("sealed_envelope", d.sealedEnvelope.toJson)]

def DeviceCommand.toJson : DeviceCommand → Json
  | .openCashDrawer => .obj [("kind", .str "open_cash_drawer")]
  | .printTestPage => .obj [("kind", .str "print_test_page")]
  | .feedLines count => .obj [("kind", .str "feed_lines"), ("count", .int count.toNat)]
  | .feedDots count => .obj [("kind", .str "feed_dots"), ("count", .int count.toNat)]
  | .cutPaper mode => .obj [("kind", .str "cut_paper"), ("mode", .str mode)]

def ExecuteDeviceCommand.toJson (c : ExecuteDeviceCommand) : Json :=
  .obj [("target", .obj [("device_id", .str c.target.deviceId)]), ("command", c.command.toJson),
    ("metadata", .obj c.metadata)]

def CommandBody.field : CommandBody → String × Json
  | .executeDeviceCommand payload => ("payload", payload.toJson)
  | .cancelJob jobId => ("job_id", .str jobId)
  | .dispatchDeviceWork payload => ("payload", payload.toJson tools)

def JobRequest.toJson (r : JobRequest) : Json :=
  .obj [("type", .str r.command.body.messageType), r.command.body.field tools]

def ControllerCommand.toJson (c : ControllerCommand) : Json :=
  .obj [("type", .str c.body.messageType), ("message_id", .str c.messageId),
    ("command_id", .str c.commandId), ("sequence", .int c.sequence),
    ("issued_at", .str (tools.rfc3339 c.issuedAt)), c.body.field tools]

def CommandHistory.toJson (h : CommandHistory) : Json :=
  .obj [("selected_protocol_version", .str h.selectedProtocolVersion),
    ("commands", .arr (h.commands.map (·.toJson tools)))]

end Inari.Controller
