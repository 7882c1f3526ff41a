import Inari.Proofs.CommandChannel
import Inari.Proofs.CommandExecution
import Inari.Proofs.PayloadFingerprints

/-!
# Managed Work from the Controller to the Agent

What the Controller signs and seals, verified by the Agent under rules of its own for texts,
numbers and times.
-/

namespace Inari.Controller

open Lib Read Agent

/-- `ManagedDispatchSigner::enrollment` -/
def ManagedDispatchSigner.enrollment (crypto : CryptoTools) (signer : ManagedDispatchSigner)
    (scope : ManagedWorkScope) : ManagedDispatchEnrollment :=
  ⟨⟨scope.organizationId.text, scope.siteId.text, scope.agentId.text⟩, signer.issuer, signer.epoch,
    ⟨Base64.urlSafe.encode (crypto.verifyingKey signer.signingKey), signer.keyId⟩⟩

variable (f : String → String)

def ReportBindingClaim.payload (b : ReportBindingClaim) : ReportBindingClaimPayload :=
  ⟨f b.reportBindingId, f b.bindingRevisionId, f b.reportActionId, f b.reportContractDigest,
    f b.templateDigest, b.commandProfileId.map f, b.layoutProfileId.map f,
    b.hardwareMatrixDigest.map f⟩

def ReportSource.payload : ReportSource → ReportSourcePayload
  | .records model orderedIds => .records (f model) orderedIds
  | .wizard model inputDigest => .wizard (f model) (f inputDigest)

def ReportRoute.payload : ReportRoute → ReportRoutePayload
  | .manual => .manual
  | .automatic => .automatic

def ReportPrintOrigin.payload (o : ReportPrintOrigin) : ReportPrintOriginPayload :=
  ⟨o.binding.payload f, o.route.payload, o.source.payload f, o.renderedDocumentIndex,
    o.copyOrdinal⟩

def ManagedDocument.payload (d : ManagedDocument) : ManagedDocumentPayload :=
  match d.operation with
  | .reportPdf => .reportPdf (f d.contentBase64)
  | .labelDocument => .labelDocument (f d.contentBase64)

/-- The work with its texts passed through `f`: what the Agent reads when `f` strips. -/
def ManagedDeviceWork.payload (options : StructuredFields → StructuredFields)
    (w : ManagedDeviceWork) :
    ManagedDeviceWorkPayload :=
  ⟨⟨f w.scope.database, f w.scope.companyId, w.scope.organizationId.text, w.scope.siteId.text,
    w.scope.agentId.text⟩, w.printIntentId.text, w.deviceId.text, w.origin.payload f,
    w.document.payload f, options (sortedFields w.normalizedDeviceOptions)⟩

def ReportBindingClaim.shortTexts (b : ReportBindingClaim) : List String :=
  [b.reportBindingId, b.bindingRevisionId, b.reportActionId, b.reportContractDigest,
    b.templateDigest]

def ReportSource.shortTexts : ReportSource → List String
  | .records model _ => [model]
  | .wizard model inputDigest => [model, inputDigest]

def ManagedDeviceWork.shortTexts (w : ManagedDeviceWork) : List String :=
  [w.scope.database, w.scope.companyId] ++ w.origin.binding.shortTexts ++
    w.origin.source.shortTexts

lemma nullable_text? {t : Option String} {x : Option String} :
    nullable text (Json.text? t).sorted = .ok x ↔ t.map (strip isRustSpace) = x := by
  cases t <;> simp [Json.text?, Json.sorted, nullable, text, Except.map]

lemma read_binding {b : ReportBindingClaim} {p : ReportBindingClaimPayload} :
    ReportBindingClaimPayload.modelValidate b.toJson.sorted = .ok p ↔
      (∀ s ∈ b.shortTexts, IsShort s) ∧ b.payload (strip isRustSpace) = p := by
  simp [ReportBindingClaimPayload.modelValidate, ReportBindingClaim.toJson, Json.sorted, bind_ok,
    field, fieldD, List.lookup, shortText_str, nullable_text?, ReportBindingClaim.shortTexts,
    ReportBindingClaim.payload, and_assoc]

lemma read_source {r : ReportSource} {p : ReportSourcePayload} :
    ReportSourcePayload.modelValidate r.toJson.sorted = .ok p ↔
      (∀ s ∈ r.shortTexts, IsShort s) ∧ r.payload (strip isRustSpace) = p := by
  have hids : ∀ ns ms : List Int, items integer (.arr (ns.map .int)) = .ok ms ↔ ns = ms := by
    intro ns ms
    simp [items_arr, List.forall₂_map_left_iff]
  cases r <;>
    simp [ReportSourcePayload.modelValidate, ReportSource.toJson, Json.sorted, bind_ok, field,
      List.lookup, shortText_str, hids, ReportSource.shortTexts, ReportSource.payload, and_assoc]

lemma read_origin {o : ReportPrintOrigin} {p : ReportPrintOriginPayload} :
    ReportPrintOriginPayload.modelValidate o.toJson.sorted = .ok p ↔
      ((∀ s ∈ o.binding.shortTexts, IsShort s) ∧ (∀ s ∈ o.source.shortTexts, IsShort s) ∧
        1 ≤ o.copyOrdinal) ∧ o.payload (strip isRustSpace) = p := by
  have hroute : ReportRoutePayload.values.lookup o.route.text = some o.route.payload := by
    cases o.route <;> rfl
  simp [ReportPrintOriginPayload.modelValidate, ReportPrintOrigin.toJson, Json.sorted, bind_ok,
    field, List.lookup, read_binding, read_source, hroute, ReportPrintOrigin.payload, and_assoc]

lemma read_document {d : ManagedDocument} {p : ManagedDocumentPayload} :
    ManagedDocumentPayload.modelValidate d.toJson.sorted = .ok p ↔
      d.payload (strip isRustSpace) = p := by
  obtain ⟨operation, content⟩ := d
  cases operation <;>
    simp [ManagedDocumentPayload.modelValidate, ManagedDocument.toJson, Json.sorted, bind_ok,
      ManagedDocumentOperation.text, field, List.lookup, ManagedDocument.payload]

lemma read_scope {s : ManagedWorkScope} {p : ManagedWorkScopePayload} :
    ManagedWorkScopePayload.modelValidate s.toJson.sorted = .ok p ↔
      (IsShort s.database ∧ IsShort s.companyId) ∧ ⟨strip isRustSpace s.database,
        strip isRustSpace s.companyId, s.organizationId.text, s.siteId.text, s.agentId.text⟩ = p := by
  simp [ManagedWorkScopePayload.modelValidate, ManagedWorkScope.toJson, Json.sorted, bind_ok, field,
    List.lookup, shortText_str, isShort_identifier, and_assoc]

lemma read_work {w : ManagedDeviceWork} (hmajor : w.contractMajor = 1)
    {p : ManagedDeviceWorkPayload} :
    ManagedDeviceWorkPayload.modelValidate w.toJson.sorted = .ok p ↔
      ((∀ s ∈ w.shortTexts, IsShort s) ∧ 1 ≤ w.origin.copyOrdinal) ∧
        w.payload (strip isRustSpace) stripFields = p := by
  have hread : natural 1 (some 1) (.int 1) = .ok 1 := rfl
  simp [ManagedDeviceWorkPayload.modelValidate, ManagedDeviceWork.toJson, Json.sorted, bind_ok,
    hmajor, hread, field, fieldD, List.lookup, read_scope, read_origin, read_document,
    ManagedDeviceWork.shortTexts, ManagedDeviceWork.payload, and_assoc, forall_and, or_imp]

def ManagedDispatchClaims.asRead (c : ManagedDispatchClaims) : ManagedDispatchClaimsPayload :=
  ⟨strip isRustSpace c.issuer, c.audience.text, c.authenticatedData.asRead,
    c.work.payload (strip isRustSpace) stripFields⟩

lemma read_claims {tools : WireTools} {c : ManagedDispatchClaims}
    (htime : tools.representsTime c.authenticatedData.workExpiresAt)
    (hmajor : c.work.contractMajor = 1) {p : ManagedDispatchClaimsPayload} :
    ManagedDispatchClaimsPayload.modelValidate tools (c.toJson tools).sorted = .ok p ↔
      (IsShort c.issuer ∧ c.authenticatedData.InAgentBounds ∧ (∀ s ∈ c.work.shortTexts, IsShort s) ∧
        1 ≤ c.work.origin.copyOrdinal) ∧
        c.asRead = p := by
  simp [ManagedDispatchClaimsPayload.modelValidate, ManagedDispatchClaims.toJson, Json.sorted,
    bind_ok, field, List.lookup, shortText_str, isShort_identifier, ManagedDispatchClaims.asRead,
    read_authenticatedData htime (.inr rfl), read_work hmajor, and_assoc]

lemma read_header {keyId : String} {p : DispatchJwsHeader} :
    DispatchJwsHeader.modelValidate (dispatchHeader keyId).sorted = .ok p ↔
      ⟨"EdDSA", strip isRustSpace keyId, dispatchJwsType⟩ = p := by
  have halg : strip isRustSpace "EdDSA" = "EdDSA" := by decide +kernel
  have htyp : strip isRustSpace dispatchJwsType = dispatchJwsType := by decide +kernel
  simp [DispatchJwsHeader.modelValidate, dispatchHeader, Json.sorted, bind_ok, field, List.lookup,
    halg, htyp]

@[simp] lemma strip_urlSafe (bytes : Bytes) :
    strip isRustSpace (Base64.urlSafe.encode bytes) = Base64.urlSafe.encode bytes := by
  have hplain : ('=' :: Base64.urlSafe.alphabet).all (fun c => !isRustSpace c) = true := by
    decide +kernel
  apply strip_of_forall
  intro c hc
  have hmem := List.mem_cons.mpr (Base64.urlSafe.mem_encode hc).symm
  simpa using List.all_eq_true.mp hplain c hmem

lemma decodeBase64url_encode {bytes : Bytes} (h : bytes ≠ []) :
    decodeBase64url (Base64.urlSafe.encode bytes) = .ok bytes := by
  have hne := Base64.urlSafe.encode_ne_empty h
  simp [decodeBase64url, hne, require, orRaise, bind, Except.bind]

lemma dot_not_mem_encode (bytes : Bytes) : '.' ∉ (Base64.urlSafe.encode bytes).toList := by
  intro h
  rcases Base64.urlSafe.mem_encode h with h | h
  · exact absurd h (by decide)
  · cases h

lemma split_compactJws {segments : List String} (hne : segments ≠ [])
    (hdot : ∀ s ∈ segments, '.' ∉ s.toList) :
    ((compactJws segments).toList.splitOn '.').map String.ofList = segments := by
  rw [compactJws, String.toList_ofList, List.splitOn_intercalate _ (by simpa using hdot)
    (by simpa using hne), List.map_map]
  simp

variable {tools : WireTools} {crypto : CryptoTools} {signer : ManagedDispatchSigner}

lemma parseCanonicalModel_canonical {α : Type} {j : Json} (h : tools.Canonicalizes j)
    {read : Json → Validated α} {a : α} :
    parseCanonicalModel tools (tools.canonical j) read = .ok a ↔ read j.sorted = .ok a := by
  simp only [parseCanonicalModel, h.reads, h.order, bind_ok, orRaise_ok, require_ok,
    beq_self_eq_true, Option.some.injEq, exists_eq_left', exists_const, true_and]
  cases read j.sorted <;> simp [Except.toOption]

lemma verifyJws_sign {claims : ManagedDispatchClaims} {scope : ManagedWorkScope}
    (hheader : tools.Canonicalizes (dispatchHeader signer.keyId))
    (hclaims : tools.Canonicalizes (claims.toJson tools)) {p : ManagedDispatchClaimsPayload} :
    verifyJws tools crypto (encode (signer.sign tools crypto claims))
        (signer.enrollment crypto scope) = .ok p ↔
      strip isRustSpace signer.keyId = signer.keyId ∧
        ManagedDispatchClaimsPayload.modelValidate tools (claims.toJson tools).sorted = .ok p := by
  have hkey := crypto.verifyingKey_length signer.signingKey
  have hdecodedKey := decodeBase64url_encode (List.ne_nil_of_length_eq_add_one hkey)
  have hdecodedHeader := decodeBase64url_encode hheader.nonempty
  have hdecodedClaims := decodeBase64url_encode hclaims.nonempty
  rw [ManagedDispatchSigner.sign]
  generalize hh : Base64.urlSafe.encode (tools.canonical (dispatchHeader signer.keyId)) = header at *
  generalize hp : Base64.urlSafe.encode (tools.canonical (claims.toJson tools)) = payload at *
  have hlength := crypto.sign_length signer.signingKey (encode (compactJws [header, payload]))
  have hverify := crypto.verify_sign signer.signingKey (encode (compactJws [header, payload]))
  generalize crypto.sign signer.signingKey (encode (compactJws [header, payload])) = signature at *
  have hdecodedSignature := decodeBase64url_encode (List.ne_nil_of_length_eq_add_one hlength)
  have hsplit : ((compactJws [header, payload, Base64.urlSafe.encode signature]).toList.splitOn
      '.').map String.ofList = [header, payload, Base64.urlSafe.encode signature] := by
    apply split_compactJws (by simp)
    simp only [← hh, ← hp, List.mem_cons, List.not_mem_nil, or_false, forall_eq_or_imp, forall_eq]
    exact ⟨dot_not_mem_encode _, dot_not_mem_encode _, dot_not_mem_encode _⟩
  have hinput : header ++ "." ++ payload = compactJws [header, payload] := by
    simp [compactJws, ← String.toList_inj]
  have hfilled : ∀ {s : String} {b : Bytes}, decodeBase64url s = .ok b → s.isEmpty = false := by
    intro s b h
    simp only [decodeBase64url, bind_ok, require_ok, Bool.not_eq_true'] at h
    exact h.choose_spec.1
  simp only [verifyJws, decodeUtf8_encode, bind_ok, orRaise_ok, require_ok, Option.some.injEq,
    Except.ok.injEq, exists_eq_left', exists_const, hsplit, ManagedDispatchSigner.enrollment,
    List.getD_cons_zero, List.getD_cons_succ, hdecodedHeader, hdecodedClaims, hdecodedSignature,
    hdecodedKey, hinput, hverify, hkey, hlength, parseCanonicalModel_canonical hheader,
    parseCanonicalModel_canonical hclaims, read_header, dispatchJwsType]
  simp [hfilled hdecodedHeader, hfilled hdecodedClaims, hfilled hdecodedSignature]

lemma isHexDigest_strip {s : String} {bytes : Bytes} (h : Hex.decode s = some bytes) :
    strip isRustSpace s = s := by
  apply strip_of_forall
  have hplain : (Hex.lowerDigits ++ Hex.upperDigits).all (fun c => !isRustSpace c) = true := by
    decide +kernel
  intro c hc
  simpa using List.all_eq_true.mp hplain c (List.mem_append.mpr (Hex.isHex_of_decode h c hc))

lemma encode_of_isHexDigest {s : String} {bytes : Bytes} (h : Hex.decode s = some bytes)
    (hs : isHexDigest s = true) : Hex.encode bytes = s := by
  have hlower : ∀ c ∈ s.toList, c ∈ Hex.lowerDigits := by
    intro c hc
    have hchar := List.all_eq_true.mp (Bool.and_eq_true_iff.mp hs).2 c hc
    have hboth : Hex.upperDigits.all (fun c => !(c.isDigit || ('a' ≤ c && c ≤ 'f')) ||
        decide (c ∈ Hex.lowerDigits)) = true := by decide +kernel
    refine (Hex.isHex_of_decode h c hc).elim id fun hupper => ?_
    have := List.all_eq_true.mp hboth c hupper
    simpa [hchar] using this
  rw [Hex.encode, Hex.flatMap_of_decode h hlower, String.ofList_toList]

/-- Before 1970 the Agent rounds seconds up. -/
lemma wholeSeconds_eq (t : Int) :
    wholeSeconds t = if 0 ≤ t then t / 1000000 else -(-t / 1000000) := by
  rw [wholeSeconds]
  split
  · exact Int.tdiv_eq_ediv_of_nonneg ‹_›
  · rw [← Int.tdiv_eq_ediv_of_nonneg (by omega), Int.neg_tdiv, neg_neg]

lemma document_payload (d : ManagedDocument) :
    (d.payload id).contentBase64 = d.contentBase64 ∧ (d.payload id).operation = d.operation.text ∧
      (d.payload id).mediaType = d.operation.mediaType ∧
      (d.payload id).limit = documentLimit d.operation := by
  obtain ⟨operation, content⟩ := d
  cases operation <;> exact ⟨rfl, rfl, rfl, rfl⟩

/-- One dispatch: what the Controller signs and seals, and the key of the Agent. -/
structure Dispatch where
  tools : WireTools
  crypto : CryptoTools
  signer : ManagedDispatchSigner
  allocation : ManagedDispatchAllocation
  idempotencyKey : String
  submission : ManagedWorkSubmission
  keyPair : DispatchEncryptionKeyPair
  random : Bytes

namespace Dispatch

variable (d : Dispatch)

def aad : ManagedDispatchAuthenticatedData :=
  d.signer.authenticatedData d.allocation d.idempotencyKey d.submission

def claims : ManagedDispatchClaims :=
  ⟨d.signer.issuer, d.submission.work.scope.agentId, d.aad, d.submission.work⟩

def payload : DispatchDeviceWork :=
  let sealed := d.crypto.hpkeSeal (d.crypto.hpkePublicKey d.keyPair.privateKey)
    (Agent.dispatchInfo d.aad.agentId.text d.keyPair.keyId)
    (d.tools.canonical (d.aad.toJson d.tools)) (encode (d.signer.sign d.tools d.crypto d.claims))
    d.random
  ⟨d.allocation.managedWorkId, d.aad, ⟨managedDispatchVersion, d.keyPair.keyId,
    Base64.urlSafe.encode sealed.1, Base64.urlSafe.encode sealed.2⟩⟩

def message (content : ControllerCommandContent) : ControllerCommandMessage :=
  ⟨strip isRustSpace d.allocation.messageId, strip isRustSpace d.allocation.commandId,
    d.allocation.sequence, some d.allocation.issuedAt, content⟩

def trust : ManagedDispatchEnrollment := d.signer.enrollment d.crypto d.submission.work.scope

/-- The submission passes every check, and `command` is what is committed. -/
structure Commits (document : Bytes) (command : ControllerCommand) : Prop where
  checked : Checked d.submission document
  built : ∃ payloadFingerprint,
    decodeFingerprint d.submission.payloadFingerprint = .ok payloadFingerprint ∧
      buildDispatch d.tools d.crypto d.signer d.idempotencyKey d.submission payloadFingerprint
        d.random d.allocation = .ok command

structure EnrolledWith (enrollment : GatewayEnrollmentRecord) : Prop where
  actions : .managedWorkDispatch ∈ enrollment.controllerActions
  trust : enrollment.managedDispatch = some d.trust
  recipientKey : d.allocation.recipientKey = ⟨d.keyPair.keyId,
    Base64.urlSafe.encode (d.crypto.hpkePublicKey d.keyPair.privateKey)⟩

/-- Both sides can represent what the dispatch consists of. -/
structure Represents : Prop where
  issuedAt : d.tools.representsTime d.allocation.issuedAt
  workExpiresAt : d.tools.representsTime d.allocation.workExpiresAt
  header : d.tools.Canonicalizes (dispatchHeader d.signer.keyId)
  claims : d.tools.Canonicalizes (d.claims.toJson d.tools)
  options : d.tools.canonical (.obj (sortedFields d.submission.work.normalizedDeviceOptions)) =
    d.tools.canonical (.obj d.submission.work.normalizedDeviceOptions)

def Receives (enrollment : GatewayEnrollmentRecord) (command : ControllerCommand) (now : Int)
    (verified : VerifiedManagedDispatch) : Prop :=
  ∃ message issuedAt payload,
    ControllerCommandMessage.modelValidate d.tools (command.toJson d.tools) = .ok message ∧
      message.issuedAt = some issuedAt ∧ message.content = .dispatchDeviceWork payload ∧
      verify d.tools d.crypto d.keyPair message issuedAt payload enrollment now = .ok verified

/-- The result is what was submitted, up to the order of the options. -/
structure Carries (document : Bytes) (verified : VerifiedManagedDispatch) : Prop where
  managedWorkId : verified.managedWorkId = d.allocation.managedWorkId.text
  idempotencyKey : verified.idempotencyKey = d.idempotencyKey
  work : verified.work = d.submission.work.payload id id
  documentBytes : verified.documentBytes = document
  expiresAt : verified.expiresAt = d.allocation.workExpiresAt

def issued : Int := timestamp d.allocation.issuedAt

def expiry : Int := timestamp (d.signer.dispatchExpiry d.allocation)

structure Readable : Prop where
  aad : d.aad.InAgentBounds
  issuer : IsShort d.signer.issuer ∧ strip isRustSpace d.signer.issuer = d.signer.issuer
  recipientKey : IsShort d.keyPair.keyId ∧ strip isRustSpace d.keyPair.keyId = d.keyPair.keyId
  signingKey : strip isRustSpace d.signer.keyId = d.signer.keyId
  shortTexts : ∀ s ∈ d.submission.work.shortTexts, IsShort s
  copyOrdinal : 1 ≤ d.submission.work.origin.copyOrdinal
  trimmed : d.submission.work.payload (strip isRustSpace) stripFields = d.submission.work.payload id id

/-- Both sides round the issue time alike, and the dispatch expires after 1970 and in a later second. -/
structure Dated : Prop where
  issued : wholeSeconds d.allocation.issuedAt = d.issued
  later : d.issued < d.expiry
  positive : 0 < d.expiry

variable {d} {document : Bytes} {command : ControllerCommand} {enrollment : GatewayEnrollmentRecord}
  {now : Int} {verified : VerifiedManagedDispatch}

lemma Commits.spec (h : d.Commits document command) (henrolled : d.EnrolledWith enrollment) :
    command = ⟨d.allocation.messageId, d.allocation.commandId, d.allocation.sequence,
      d.allocation.issuedAt, .dispatchDeviceWork d.payload⟩ ∧
    Hex.decode d.submission.payloadFingerprint = some (d.tools.sha256 (fingerprintFormat ++
      (workFields d.tools.canonical d.submission.work document
        (d.tools.formatDeadline d.allocation.workExpiresAt)).flatMap lengthPrefix)) := by
  obtain ⟨hchecked, fingerprint, hdecode, hbuilt⟩ := h
  simp only [decodeFingerprint, bind_ok, orRaise_ok, require_ok, pure_ok] at hdecode
  obtain ⟨_, hdecode, _, -, rfl⟩ := hdecode
  simp only [buildDispatch, managedWorkFingerprint_eq hchecked, bind_ok, require_ok, beq_iff_eq,
    Except.ok.injEq, exists_eq_left', exists_const] at hbuilt
  obtain ⟨rfl, hcommand⟩ := hbuilt
  refine ⟨?_, hdecode⟩
  simp only [ManagedDispatchSigner.command, sealDispatch, henrolled.recipientKey,
    Base64.decode_encode, bind_ok, orRaise_ok, require_ok, pure_ok, Option.some.injEq,
    exists_eq_left', exists_const] at hcommand
  obtain ⟨-, _, ⟨-, rfl⟩, rfl⟩ := hcommand
  rfl

lemma checkAuthenticatedData_iff {u : Unit} :
    checkAuthenticatedData (d.message (.dispatchDeviceWork d.payload.asRead)) d.allocation.issuedAt
        d.payload.asRead d.trust now = .ok u ↔
      wholeSeconds d.allocation.issuedAt = d.issued ∧ wholeSeconds now < d.expiry ∧
        d.issued ≤ wholeSeconds now + 30 ∧ d.issued < d.expiry := by
  simp [checkAuthenticatedData, bind_ok, message, payload, aad, DispatchDeviceWork.asRead, trust,
    issued, expiry, ManagedDispatchAuthenticatedData.asRead,
    ManagedDispatchSigner.authenticatedData, ManagedDispatchSigner.enrollment]
  exact fun _ => and_congr decide_eq_true_iff (and_congr decide_eq_true_iff decide_eq_true_iff)

lemma decrypt_payload
    (hhex : strip isRustSpace d.submission.payloadFingerprint = d.submission.payloadFingerprint)
    {plaintext : Bytes} :
    decrypt d.tools d.crypto d.keyPair d.payload.asRead = .ok plaintext ↔
      strip isRustSpace d.keyPair.keyId = d.keyPair.keyId ∧
        encode (d.signer.sign d.tools d.crypto d.claims) = plaintext := by
  have hdump : d.aad.asRead.modelDump d.tools = d.aad.toJson d.tools := by
    simp [ManagedDispatchAuthenticatedDataPayload.modelDump,
      ManagedDispatchAuthenticatedData.asRead, ManagedDispatchAuthenticatedData.toJson, aad,
      ManagedDispatchSigner.authenticatedData, hhex]
  have hagent : d.aad.asRead.agentId = d.aad.agentId.text := rfl
  have hne := d.crypto.hpkeSeal_nonempty
  simp only [decrypt, payload, DispatchDeviceWork.asRead, hdump, hagent,
    SealedManagedDispatch.asRead, strip_urlSafe, bind_ok, require_ok, beq_iff_eq, orRaise_ok,
    exists_const, decodeBase64url_encode (hne _ _ _ _ _).1,
    decodeBase64url_encode (hne _ _ _ _ _).2, Except.ok.injEq, exists_eq_left']
  refine and_congr_right fun hkey => ?_
  rw [hkey, d.crypto.hpkeOpen_seal, Option.some.injEq]

lemma read_message (hrep : d.Represents) {message : ControllerCommandMessage} :
    ControllerCommandMessage.modelValidate d.tools (ControllerCommand.toJson d.tools
        ⟨d.allocation.messageId, d.allocation.commandId, d.allocation.sequence, d.allocation.issuedAt,
          .dispatchDeviceWork d.payload⟩) = .ok message ↔
      (d.aad.InAgentBounds ∧ IsShort d.keyPair.keyId) ∧
        d.message (.dispatchDeviceWork d.payload.asRead) = message := by
  rw [read_command ⟨hrep.issuedAt, fun _ h => by cases h; exact hrep.workExpiresAt⟩]
  have hlength : ∀ {b : Bytes}, b ≠ [] → 1 ≤ (Base64.urlSafe.encode b).length := by
    intro b hb
    rw [Nat.one_le_iff_ne_zero, ← String.length_toList, Ne, List.length_eq_zero_iff]
    simpa using Base64.urlSafe.encode_ne_empty hb
  have hne := d.crypto.hpkeSeal_nonempty
  have hsealed : d.payload.InAgentBounds ↔ d.aad.InAgentBounds ∧ IsShort d.keyPair.keyId := by
    simp only [DispatchDeviceWork.InAgentBounds, SealedManagedDispatch.InAgentBounds, payload,
      managedDispatchVersion, true_and, strip_urlSafe, hlength (hne _ _ _ _ _).1,
      hlength (hne _ _ _ _ _).2, and_true]
  simp only [readsAs_dispatchDeviceWork, hsealed, and_assoc, exists_and_left, exists_eq_left',
    ControllerCommand.asRead]
  exact and_iff_right_of_imp fun h => h.1.2.2.2

lemma receives_iff (hcommits : d.Commits document command) (henrolled : d.EnrolledWith enrollment)
    (hrep : d.Represents) :
    d.Receives enrollment command now verified ↔
      (d.aad.InAgentBounds ∧ IsShort d.keyPair.keyId) ∧
      (wholeSeconds d.allocation.issuedAt = d.issued ∧ wholeSeconds now < d.expiry ∧
        d.issued ≤ wholeSeconds now + 30 ∧ d.issued < d.expiry) ∧
      strip isRustSpace d.keyPair.keyId = d.keyPair.keyId ∧
      strip isRustSpace d.signer.keyId = d.signer.keyId ∧
      (IsShort d.signer.issuer ∧ d.aad.InAgentBounds ∧
        (∀ s ∈ d.submission.work.shortTexts, IsShort s) ∧
        1 ≤ d.submission.work.origin.copyOrdinal) ∧
      ∃ documentBytes, checkClaims d.tools d.claims.asRead d.aad.asRead d.trust = .ok documentBytes ∧
        ⟨d.allocation.managedWorkId.text, d.idempotencyKey,
          d.submission.work.payload (strip isRustSpace) stripFields, documentBytes, d.signer.epoch,
          d.allocation.sequence, d.allocation.workExpiresAt⟩ = verified := by
  obtain ⟨rfl, hhex⟩ := hcommits.spec henrolled
  have haad : d.payload.asRead.authenticatedData = d.aad.asRead := rfl
  have hissued : ∀ {content}, (d.message content).issuedAt = some d.allocation.issuedAt := rfl
  have hcontent : ∀ {content}, (d.message content).content = content := rfl
  have hclaims : ∀ {p}, ManagedDispatchClaimsPayload.modelValidate d.tools
      (d.claims.toJson d.tools).sorted = .ok p ↔ _ :=
    read_claims hrep.workExpiresAt hcommits.checked.contractMajor
  have hjws : ∀ {p}, verifyJws d.tools d.crypto (encode (d.signer.sign d.tools d.crypto d.claims))
      d.trust = .ok p ↔ _ := verifyJws_sign hrep.header hrep.claims
  simp only [Receives, read_message hrep, verify, bind_ok, require_ok, List.contains_eq_mem,
    decide_eq_true_eq, pure_ok, orRaise_ok, henrolled.actions, henrolled.trust, haad, hissued,
    hcontent, hjws, hclaims, Option.some.injEq, ControllerCommandContent.dispatchDeviceWork.injEq,
    checkAuthenticatedData_iff, decrypt_payload (isHexDigest_strip hhex), and_assoc,
    exists_and_left, exists_eq_left', exists_const, true_and]
  rfl

lemma issuer_of_checkClaims
    (h : checkClaims d.tools d.claims.asRead d.aad.asRead d.trust = .ok document) :
    strip isRustSpace d.signer.issuer = d.signer.issuer := by
  simp only [checkClaims, bind_ok, require_ok, Bool.and_eq_true, beq_iff_eq] at h
  exact h.choose_spec.2.choose_spec.1.1

lemma expiry_le : d.expiry * 1000000 ≤ d.allocation.workExpiresAt := by
  have := min_le_right (d.allocation.issuedAt + d.signer.envelopeTtl) d.allocation.workExpiresAt
  simp only [expiry, timestamp, ManagedDispatchSigner.dispatchExpiry]
  omega

lemma checkClaims_readable (hcommits : d.Commits document command)
    (henrolled : d.EnrolledWith enrollment) (hrep : d.Represents) (h : d.Readable) :
    checkClaims d.tools d.claims.asRead d.aad.asRead d.trust = .ok document := by
  obtain ⟨-, hhex⟩ := hcommits.spec henrolled
  have htrimmed := isHexDigest_strip hhex
  have hread : d.claims.asRead = ⟨d.signer.issuer, d.submission.work.scope.agentId.text, d.aad.asRead,
      d.submission.work.payload id id⟩ := by
    rw [ManagedDispatchClaims.asRead, ← h.trimmed]
    exact congrArg (ManagedDispatchClaimsPayload.mk · _ _ _) h.issuer.2
  obtain ⟨hcontent, hoperation, hmedia, hlimit⟩ := document_payload d.submission.work.document
  have hdocument : decodeDocument (d.submission.work.document.payload id) = .ok document := by
    simp only [decodeDocument, hcontent, hlimit, hcommits.checked.decoded.1, bind_ok, orRaise_ok,
      require_ok, pure_ok, decide_eq_true_eq]
    exact ⟨document, rfl, (), hcommits.checked.decoded.2, rfl⟩
  have hsame : (d.submission.work.payload id id).fingerprintInput d.tools document
      d.allocation.workExpiresAt = ⟨d.submission.work.contractMajor,
        d.submission.work.document.operation.text, d.submission.work.deviceId.text,
        d.submission.work.document.operation.mediaType, document,
        d.tools.canonical (.obj d.submission.work.normalizedDeviceOptions),
        d.allocation.workExpiresAt⟩ := by
    rw [hcommits.checked.contractMajor, ← hrep.options, ← hoperation, ← hmedia]
    rfl
  have hfingerprint : Hex.encode (fingerprintDeviceWork d.tools.toDigestTools
      ((d.submission.work.payload id id).fingerprintInput d.tools document
        d.allocation.workExpiresAt)) = strip isRustSpace d.submission.payloadFingerprint := by
    rw [hsame, fingerprintDeviceWork_eq, htrimmed]
    exact encode_of_isHexDigest hhex (htrimmed ▸ h.aad.2.1)
  simp only [checkClaims, hread, bind_ok, require_ok, pure_ok]
  exact ⟨(), beq_self_eq_true _, (), by simp [trust, ManagedDispatchSigner.enrollment], (),
    by simp [ManagedDeviceWork.payload, ManagedDispatchAuthenticatedData.asRead, aad,
      ManagedDispatchSigner.authenticatedData],
    document, hdocument, (), decide_eq_true expiry_le, (), beq_iff_eq.mpr hfingerprint, rfl⟩

/-- The Agent verifies a committed dispatch until it expires, and finds in it what was submitted,
exactly when it reads every text and number as it stands and the dispatch expires in a later second.
-/
theorem accepted_iff (d : Dispatch) (document : Bytes) (command : ControllerCommand)
    (hcommits : d.Commits document command) (enrollment : GatewayEnrollmentRecord)
    (henrolled : d.EnrolledWith enrollment) (hrep : d.Represents) :
    (∀ now, (d.issued - 30) * 1000000 ≤ now → now < d.expiry * 1000000 → ∃ verified,
      d.Receives enrollment command now verified ∧ d.Carries document verified) ↔
        (d.issued - 30 < d.expiry → d.Readable ∧ d.Dated) := by
  constructor
  · intro hall hopen
    obtain ⟨verified, hreceives, hcarries⟩ := hall (d.expiry * 1000000 - 1) (by omega) (by omega)
    obtain ⟨⟨haad, hkey⟩, ⟨hissued, hlast, -, hlater⟩, hrecipient, hsigner,
      ⟨hissuer, -, htexts, hcopy⟩, _, hclaims, rfl⟩ :=
      (receives_iff hcommits henrolled hrep).mp hreceives
    refine ⟨⟨haad, ⟨hissuer, issuer_of_checkClaims hclaims⟩, ⟨hkey, hrecipient⟩, hsigner, htexts,
      hcopy, hcarries.work⟩, hissued, hlater, ?_⟩
    rw [wholeSeconds_eq] at hlast
    split at hlast <;> omega
  · intro h now hfrom huntil
    obtain ⟨hreadable, hdated⟩ := h (by omega)
    have hpositive := hdated.positive
    refine ⟨_, (receives_iff hcommits henrolled hrep).mpr ⟨⟨hreadable.aad, hreadable.recipientKey.1⟩,
      ⟨hdated.issued, ?_, ?_, hdated.later⟩, hreadable.recipientKey.2, hreadable.signingKey,
      ⟨hreadable.issuer.1, hreadable.aad, hreadable.shortTexts, hreadable.copyOrdinal⟩, document,
      checkClaims_readable hcommits henrolled hrep hreadable, rfl⟩, rfl, rfl, hreadable.trimmed,
      rfl, rfl⟩ <;> rw [wholeSeconds_eq] <;> split <;> omega

/-- The reference implementations, which read the header and the claims of one dispatch. -/
def dispatchWire (claims : Json) : WireTools :=
  Reference.wire (fun b => ([dispatchHeader "key-1", claims].find? (fun j =>
    Reference.toVec j.sorted == b)).map Json.sorted)

lemma dispatchWire_canonicalizes {claims : Json} {fields : List (String × Json)}
    (hfields : claims = .obj fields) (h : (Reference.toVec (dispatchHeader "key-1").sorted ==
      Reference.toVec claims.sorted) = false) : (dispatchWire claims).Canonicalizes claims := by
  subst hfields
  exact Reference.wire_canonicalizes (by simp [List.find?, h])

lemma dispatchWire_header (claims : Json) :
    (dispatchWire claims).Canonicalizes (dispatchHeader "key-1") :=
  Reference.wire_canonicalizes (by simp [List.find?, dispatchHeader])

variable (upper : Bool)

def plain : Dispatch where
  tools := sampleWire
  crypto := sampleCrypto
  signer := ⟨"controller", "key-1", 1, 120 * 1000000, []⟩
  allocation := ⟨sampleWork, 1, "cmd_1", "msg_1", 1000000,
    ⟨"dispatch-a", Base64.urlSafe.encode (sampleCrypto.hpkePublicKey [])⟩, 61000000⟩
  idempotencyKey := "print-42"
  submission := { sampleSubmission with
    payloadFingerprint := String.ofList
      ("c49ef21bc71eae01c2f20a84e03b5cb043fa0a4e3d2eaf2de582afb64bccbf2d".toList.map
        (fun c => if upper then c.toUpper else c)) }
  keyPair := ⟨"dispatch-a", []⟩
  random := []

def sample : Dispatch :=
  { plain upper with tools := dispatchWire ((plain upper).claims.toJson sampleWire) }

def sampleCommand : ControllerCommand :=
  ⟨"msg_1", "cmd_1", 1, 1000000, .dispatchDeviceWork (sample upper).payload⟩

def sampleRecord : GatewayEnrollmentRecord :=
  { Gateway.sampleEnrolled.record with
    controllerActions := [.managedWorkDispatch]
    managedDispatch := some (sample upper).trust }

lemma sample_enrolled : (sample upper).EnrolledWith (sampleRecord upper) :=
  ⟨List.mem_cons_self, rfl, rfl⟩

lemma sample_represents : (sample upper).Represents where
  issuedAt := by cases upper <;> decide +kernel
  workExpiresAt := by cases upper <;> decide +kernel
  header := dispatchWire_header _
  claims := dispatchWire_canonicalizes rfl (by cases upper <;> decide +kernel)
  options := by cases upper <;> decide +kernel

lemma sample_commits : (sample upper).Commits (encode "%PDF-1.4") (sampleCommand upper) := by
  have hchecked : Checked (sample upper).submission (encode "%PDF-1.4") := by
    cases upper <;> exact ⟨by decide +kernel, by decide +kernel⟩
  refine ⟨hchecked, (sampleWire.sha256 (fingerprintFormat ++
    (workFields sampleWire.canonical sampleSubmission.work (encode "%PDF-1.4")
      (sampleWire.formatDeadline 61000000)).flatMap lengthPrefix)), by cases upper <;> decide +kernel, ?_⟩
  simp only [buildDispatch, managedWorkFingerprint_eq hchecked, ManagedDispatchSigner.command,
    sealDispatch, (sample_enrolled upper).recipientKey, Base64.decode_encode, bind_ok, orRaise_ok,
    require_ok, pure_ok]
  exact ⟨_, rfl, (), by cases upper <;> decide +kernel, (), rfl, _, ⟨_, rfl, (), rfl, rfl⟩, rfl⟩

theorem lower_case_accepted :
    (sample false).Readable ∧ ∀ now : Int, -29000000 ≤ now → now < 61000000 → ∃ verified,
      (sample false).Receives (sampleRecord false) (sampleCommand false) now verified ∧
        (sample false).Carries (encode "%PDF-1.4") verified := by
  have hreadable : (sample false).Readable :=
    ⟨by unfold ManagedDispatchAuthenticatedData.InAgentBounds; decide +kernel, by decide +kernel,
      by decide +kernel, by decide +kernel, by decide +kernel, by decide +kernel, by decide +kernel⟩
  exact ⟨hreadable, (accepted_iff (sample false) _ _ (sample_commits false) _ (sample_enrolled false)
    (sample_represents false)).mpr fun _ => ⟨hreadable, by decide, by decide, by decide⟩⟩

/-- The Controller takes a fingerprint in upper case, which the Agent does not read. -/
theorem upper_case_refused :
    (sample true).Commits (encode "%PDF-1.4") (sampleCommand true) ∧
      (sample true).EnrolledWith (sampleRecord true) ∧ (sample true).Represents ∧
      ((sample true).issued, (sample true).expiry) = (1, 61) ∧
      ∀ now verified, ¬(sample true).Receives (sampleRecord true) (sampleCommand true) now verified := by
  refine ⟨sample_commits _, sample_enrolled _, sample_represents _, by decide, ?_⟩
  intro now verified h
  have haad := ((receives_iff (sample_commits _) (sample_enrolled _) (sample_represents _)).mp h).1.1
  exact absurd haad.2.1 (by decide +kernel)

end Dispatch

end Inari.Controller
