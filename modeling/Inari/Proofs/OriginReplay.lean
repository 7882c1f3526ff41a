import Inari.Proofs.Retries

/-!
# New requests for an origin that was printed

The comparison drops the deadline, but keeps the payload fingerprint, which is made with it.
-/

namespace Inari.Agent

open Lib DurableSpoolAdmissionStore SpoolAdmissionLedger DocumentAdmissionService

/-- What `origin_json` says of the context. -/
def DocumentSubmissionContext.originValues : DocumentSubmissionContext → Json
  | .submission c => localOriginValues c
  | .managed c => managedOriginValues c

def DurableAdmission.fingerprintInput (d : DurableAdmission) : DeviceWorkFingerprintInput :=
  DocumentAdmissionService.fingerprintInput d.work d.mediaType d.normalizedOptions
    d.deadline.expiresAt

structure SameSubmission (d d' : DurableAdmission) : Prop where
  device : d.work.context.fields.deviceId = d'.work.context.fields.deviceId
  document : d.work.document = d'.work.document
  options : d.normalizedOptions = d'.normalizedOptions
  origin : d.work.context.originValues = d'.work.context.originValues

@[mk_iff]
structure SameAuthority (m m' : AdmissionManifest) : Prop where
  grantId : m.grantId = m'.grantId
  grantPairingId : m.grantPairingId = m'.grantPairingId
  grantGeneration : m.grantGeneration = m'.grantGeneration
  actorId : m.actorId = m'.actorId
  authorizationDigest : m.authorizationDigest = m'.authorizationDigest
  grantScopeDigest : m.grantScopeDigest = m'.grantScopeDigest
  bindingRevisionId : m.bindingRevisionId = m'.bindingRevisionId
  contractMajor : m.contractMajor = m'.contractMajor
  copyOrdinal : m.copyOrdinal = m'.copyOrdinal

structure SameScope (m m' : AdmissionManifest) : Prop where
  scopeKind : m.scopeKind = m'.scopeKind
  organizationId : m.organizationId = m'.organizationId
  siteId : m.siteId = m'.siteId
  posConfigurationId : m.posConfigurationId = m'.posConfigurationId
  pairedClientId : m.pairedClientId = m'.pairedClientId

variable {tools : DocumentTools} {d d' : DurableAdmission} {m m' : AdmissionManifest}

/-- The manifest of an admission, with what its checks say of its origin. -/
structure ManifestOf (tools : DocumentTools) (d : DurableAdmission) (m : AdmissionManifest) :
    Prop where
  scope : ScopeOk m
  deviceId : m.deviceId = d.work.context.fields.deviceId
  operation : m.operation = d.work.operation.value
  mediaType : m.mediaType = expectedMediaType d.work.operation
  optionsDigest : m.normalizedOptionsDigest = tools.sha256 d.normalizedOptions
  size : m.originalSizeBytes = d.work.document.content.length
  contractMajor : m.contractMajor = d.work.context.fields.contractMajor.toNat
  fingerprint : m.fingerprint = fingerprintDeviceWork tools.toDigestTools d.fingerprintInput
  input : d.fingerprintInput = ⟨m.contractMajor, m.operation, m.deviceId, m.mediaType,
    d.work.document.content, d.normalizedOptions, d.deadline.expiresAt⟩
  originJson : tools.canonicalJson d.work.context.originValues = some m.originJson
  context : (∃ c : SubmissionContext, d.work.context = .submission c ∧ m.scopeKind = .pairedClient ∧
      m.managedWorkId = none ∧ m.database = c.origin.database ∧
      m.originKind = if c.origin.segment.isSome then .preparation else .pos) ∨
    ∃ c : ManagedSubmissionContext, d.work.context = .managed c ∧ m.scopeKind = .deviceManager ∧
      m.managedWorkId = some c.managedWorkId ∧ m.database = c.database ∧ m.originKind = .report

lemma manifestOf_of_ok (h : manifestFromAdmission tools d = .ok m) : ManifestOf tools d m := by
  obtain ⟨hmedia, -, columns, hcolumns, -, hfingerprint, originJson, horigin, authorizationJson, -,
    rfl⟩ := manifestFromAdmission_ok.mp h
  have horigin : tools.canonicalJson columns.originValues = some originJson := orRaise_ok.mp horigin
  have hinput : d.fingerprintInput = ⟨d.work.context.fields.contractMajor.toNat,
      d.work.operation.value, d.work.context.fields.deviceId, d.mediaType,
      d.work.document.content, d.normalizedOptions, d.deadline.expiresAt⟩ := rfl
  rcases scopeColumns_ok hcolumns with ⟨g, c, -, hc, rfl⟩ | ⟨g, c, -, hc, rfl⟩
  · refine ⟨nofun, rfl, rfl, hmedia, rfl, rfl, rfl, hfingerprint.symm, hinput, ?_,
      .inl ⟨c, hc, rfl, rfl, rfl, rfl⟩⟩
    rw [hc]
    exact horigin
  · refine ⟨fun _ => ⟨rfl, rfl⟩, rfl, rfl, hmedia, rfl, rfl, rfl, hfingerprint.symm, hinput, ?_,
      .inr ⟨c, hc, rfl, rfl, rfl, rfl⟩⟩
    rw [hc]
    exact horigin

lemma ManifestOf.origin_columns (h : ManifestOf tools d m) (h' : ManifestOf tools d' m')
    (hkind : m.scopeKind = m'.scopeKind)
    (horigin : d.work.context.originValues = d'.work.context.originValues) :
    m.managedWorkId = m'.managedWorkId ∧ m.database = m'.database ∧ m.originKind = m'.originKind ∧
      m.originJson = m'.originJson := by
  have hjson : m.originJson = m'.originJson := by
    have hjson := h.originJson
    rw [horigin, h'.originJson] at hjson
    exact (Option.some.inj hjson).symm
  rcases h.context with ⟨c, hc, hk, hw, hdb, hok⟩ | ⟨c, hc, hk, hw, hdb, hok⟩ <;>
    rcases h'.context with ⟨c', hc', hk', hw', hdb', hok'⟩ | ⟨c', hc', hk', hw', hdb', hok'⟩
  · rw [hc, hc'] at horigin
    simp only [DocumentSubmissionContext.originValues, localOriginValues, Json.obj.injEq,
      List.cons_append, List.nil_append, List.cons.injEq, Prod.mk.injEq, Json.str.injEq,
      true_and] at horigin
    obtain ⟨-, hdatabase, -, -, -, -, -, -, -, -, hsegment⟩ := horigin
    have hsome : c.origin.segment.isSome = c'.origin.segment.isSome := by
      cases hs : c.origin.segment <;> cases hs' : c'.origin.segment <;>
        simp [hs, hs'] at hsegment ⊢
    exact ⟨hw.trans hw'.symm, by rw [hdb, hdb', hdatabase], by rw [hok, hok', hsome], hjson⟩
  · rw [hk, hk'] at hkind
    cases hkind
  · rw [hk, hk'] at hkind
    cases hkind
  · rw [hc, hc'] at horigin
    simp only [DocumentSubmissionContext.originValues, managedOriginValues, Json.obj.injEq,
      List.cons.injEq, Prod.mk.injEq, Json.str.injEq, true_and] at horigin
    obtain ⟨-, -, hdatabase, hwork, -⟩ := horigin
    exact ⟨by rw [hw, hw', hwork], by rw [hdb, hdb', hdatabase], hok.trans hok'.symm, hjson⟩

lemma kind_of_value {k k' : DocumentKind} (h : k.value = k'.value) : k = k' := by
  revert h
  cases k <;> cases k' <;> decide

structure Separated (tools : DocumentTools) (d d' : DurableAdmission) : Prop where
  fingerprint : fingerprintDeviceWork tools.toDigestTools d.fingerprintInput =
    fingerprintDeviceWork tools.toDigestTools d'.fingerprintInput →
      d.fingerprintInput = d'.fingerprintInput
  origin : tools.canonicalJson d.work.context.originValues =
    tools.canonicalJson d'.work.context.originValues →
      d.work.context.originValues = d'.work.context.originValues

lemma originComparison_iff (h : ManifestOf tools d m) (h' : ManifestOf tools d' m')
    (hscope : SameScope m m') (hkey : m.originSubmissionKey = m'.originSubmissionKey)
    (hsep : Separated tools d d') :
    m.comparison.toOriginComparison = m'.comparison.toOriginComparison ↔
      SameSubmission d d' ∧ d.deadline.expiresAt = d'.deadline.expiresAt ∧ SameAuthority m m' := by
  constructor
  · intro heq
    have hfingerprint : m.fingerprint = m'.fingerprint := congrArg OriginComparison.fingerprint heq
    have horigin : m.originJson = m'.originJson := congrArg OriginComparison.originJson heq
    rw [h.fingerprint, h'.fingerprint] at hfingerprint
    have hinput := hsep.fingerprint hfingerprint
    rw [h.input, h'.input] at hinput
    simp only [DeviceWorkFingerprintInput.mk.injEq] at hinput
    obtain ⟨-, hop, hdev, -, hcontent, hoptions, hdeadline⟩ := hinput
    have hdocument : d.work.document = d'.work.document := by
      rw [h.operation, h'.operation] at hop
      have hkind : d.work.document.kind = d'.work.document.kind := kind_of_value hop
      cases hd : d.work.document
      cases hd' : d'.work.document
      simp only [hd, hd'] at hkind hcontent
      rw [hkind, hcontent]
    refine ⟨⟨by rw [← h.deviceId, ← h'.deviceId, hdev], hdocument, hoptions, hsep.origin ?_⟩,
      hdeadline, ?_⟩
    · rw [h.originJson, h'.originJson, horigin]
    · exact ⟨congrArg OriginComparison.grantId heq, congrArg OriginComparison.grantPairingId heq,
        congrArg OriginComparison.grantGeneration heq, congrArg OriginComparison.actorId heq,
        congrArg OriginComparison.authorizationDigest heq,
        congrArg OriginComparison.grantScopeDigest heq,
        congrArg OriginComparison.bindingRevisionId heq,
        congrArg OriginComparison.contractMajor heq, congrArg OriginComparison.copyOrdinal heq⟩
  · rintro ⟨hsub, hdeadline, hauth⟩
    obtain ⟨hwork, hdatabase, hkind, hjson⟩ := h.origin_columns h' hscope.scopeKind hsub.origin
    have hdevice : m.deviceId = m'.deviceId := by rw [h.deviceId, h'.deviceId, hsub.device]
    have hoperation : m.operation = m'.operation := by
      rw [h.operation, h'.operation, DocumentWork.operation, DocumentWork.operation, hsub.document]
    have hmedia : m.mediaType = m'.mediaType := by
      rw [h.mediaType, h'.mediaType, DocumentWork.operation, DocumentWork.operation, hsub.document]
    have hdigest : m.normalizedOptionsDigest = m'.normalizedOptionsDigest := by
      rw [h.optionsDigest, h'.optionsDigest, hsub.options]
    have hsize : m.originalSizeBytes = m'.originalSizeBytes := by
      rw [h.size, h'.size, hsub.document]
    have hfingerprint : m.fingerprint = m'.fingerprint := by
      rw [h.fingerprint, h'.fingerprint, h.input, h'.input, hauth.contractMajor, hoperation, hdevice,
        hmedia, hsub.document, hsub.options, hdeadline]
    simp only [AdmissionManifest.comparison, OriginComparison.mk.injEq]
    exact ⟨hscope.scopeKind, hwork, hauth.grantId, hauth.grantPairingId, hauth.grantGeneration,
      hauth.actorId, hauth.authorizationDigest, hauth.bindingRevisionId, hauth.contractMajor,
      hauth.copyOrdinal, hdatabase, hdevice, hfingerprint, hauth.grantScopeDigest, hmedia, hdigest,
      hoperation, hscope.organizationId, hjson, hkind, hkey, hsize, hscope.pairedClientId,
      hscope.posConfigurationId, hscope.siteId⟩

section Answer

variable {db : Db} {a : AdmissionRow}

lemma sameScope_of_inScope (hrow : a.comparison = m.comparison) (hm' : ScopeOk m')
    (hscope : inScope m' a = true) : SameScope m m' := by
  have hkind : a.scopeKind = m.scopeKind := congrArg (·.scopeKind) hrow
  have horg : a.organizationId = m.organizationId := congrArg (·.organizationId) hrow
  have hsite : a.siteId = m.siteId := congrArg (·.siteId) hrow
  have hpos : a.posConfigurationId = m.posConfigurationId := congrArg (·.posConfigurationId) hrow
  have hclient : a.pairedClientId = m.pairedClientId := congrArg (·.pairedClientId) hrow
  cases hk : m'.scopeKind with
  | pairedClient =>
    simp only [inScope, hk, Bool.and_eq_true, beq_iff_eq] at hscope
    obtain ⟨⟨⟨hkind', horg'⟩, hsite'⟩, hpos', hclient'⟩ := hscope
    exact ⟨(hkind.symm.trans hkind').trans hk.symm, horg.symm.trans horg', hsite.symm.trans hsite',
      hpos.symm.trans hpos', hclient.symm.trans hclient'⟩
  | deviceManager =>
    simp only [inScope, hk, Bool.and_eq_true, beq_iff_eq, Option.isNone_iff_eq_none] at hscope
    obtain ⟨⟨⟨hkind', horg'⟩, hsite'⟩, hpos', hclient'⟩ := hscope
    obtain ⟨hnone, hnone'⟩ := hm' hk
    exact ⟨(hkind.symm.trans hkind').trans hk.symm, horg.symm.trans horg', hsite.symm.trans hsite',
      (hpos.symm.trans hpos').trans hnone.symm, (hclient.symm.trans hclient').trans hnone'.symm⟩

lemma replay_origin_conflict (hlinks : SpoolLinks db) (ha : a ∈ db.admissions.rows)
    (hscope : inScope m' a = true) (hkey : a.originSubmissionKey = m'.originSubmissionKey)
    (hne : a.comparison.toOriginComparison ≠ m'.comparison.toOriginComparison) :
    ∃ code, (code = .requestConflict ∨ code = .idempotencyConflict) ∧
      replay db m' = .error (.plain code) := by
  cases hfind : findIdempotency db m' with
  | some b =>
    obtain ⟨hb, hp⟩ := Table.first_spec hfind
    simp only [Bool.and_eq_true, beq_iff_eq] at hp
    refine ⟨.idempotencyConflict, .inr rfl, replay_conflict hb hp.1 hp.2 (fun heq => hne ?_)⟩
    -- an admission under the new key with the same fields would be the one of the origin
    have hkeyb : b.originSubmissionKey = m'.originSubmissionKey :=
      congrArg (·.originSubmissionKey) heq
    obtain rfl := hlinks.origin a ha b hb (scope_of_inScope hscope hp.1) (hkey.trans hkeyb.symm)
    rw [heq]
  | none =>
    refine ⟨.requestConflict, .inl rfl, ?_⟩
    rw [replay, hfind, findOrigin_eq hlinks ha hscope hkey]
    simp [sameOriginSubmission, hne, require, bind, Except.bind]

end Answer

/-- The same submission gets the job of its origin and another is refused, exactly when it has the
same deadline and authority and no other admission has its key. -/
theorem origin_replay_iff {tools : DocumentTools} {d d' : DurableAdmission}
    {m m' : AdmissionManifest} (hm : manifestFromAdmission tools d = .ok m)
    (hm' : manifestFromAdmission tools d' = .ok m') (hsep : Separated tools d d')
    {es : List AgentEvent} {st : Recorded AgentEvent AgentOutput AgentState}
    (hst : st ∈ ({} : AgentState).run es) (hidle : st.state.call = none) {a : AdmissionRow}
    (ha : a ∈ st.state.db.admissions.rows) (hstate : a.state = .accepted)
    (hrow : a.comparison = m.comparison) {jobId : String} (hjob : a.jobId = some jobId)
    (hscope : inScope m' a = true) (hkey : a.originSubmissionKey = m'.originSubmissionKey)
    (hnew : a.idempotencyKey ≠ m'.idempotencyKey) :
    (SameSubmission d d' → ∃ acc : AdmissionAccepted, acc.printJobId = jobId ∧
        acc.replayed = true ∧ st.state.Answers m' (.accepted acc)) ∧
      (¬SameSubmission d d' → ∃ code, (code = .requestConflict ∨ code = .idempotencyConflict) ∧
        st.state.Answers m' (.raised (.plain code))) ↔
    (SameSubmission d d' → d.deadline.expiresAt = d'.deadline.expiresAt ∧ SameAuthority m m' ∧
      KeyFree st.state.db m' jobId) := by
  have hlinks := run_links es st hst
  have hof := manifestOf_of_ok hm
  have hof' := manifestOf_of_ok hm'
  have hkeys : m.originSubmissionKey = m'.originSubmissionKey :=
    (congrArg (·.originSubmissionKey) hrow).symm.trans hkey
  have hcompare := originComparison_iff hof hof' (sameScope_of_inScope hrow hof'.scope hscope) hkeys
    hsep
  have hmatches : Matches m' a ↔ m.comparison.toOriginComparison =
      m'.comparison.toOriginComparison := by
    rw [← hrow]
    exact ⟨fun h => h.origin, fun h => ⟨h, fun hsame => absurd hsame hnew⟩⟩
  have hanswer : (∃ acc : AdmissionAccepted, acc.printJobId = jobId ∧ acc.replayed = true ∧
      st.state.Answers m' (.accepted acc)) ↔ (SameSubmission d d' ∧
        d.deadline.expiresAt = d'.deadline.expiresAt ∧ SameAuthority m m') ∧
        KeyFree st.state.db m' jobId := by
    simp only [answers_accepted_iff hidle]
    rw [replay_iff hlinks hof'.scope ha hstate hjob, hmatches, hcompare]
  constructor
  · rintro ⟨hresolves, -⟩ hsame
    obtain ⟨⟨-, hdeadline, hauth⟩, hfree⟩ := hanswer.mp (hresolves hsame)
    exact ⟨hdeadline, hauth, hfree⟩
  · intro hcondition
    refine ⟨fun hsame => ?_, fun hdiffers => ?_⟩
    · obtain ⟨hdeadline, hauth, hfree⟩ := hcondition hsame
      exact hanswer.mpr ⟨⟨hsame, hdeadline, hauth⟩, hfree⟩
    · have hne : a.comparison.toOriginComparison ≠ m'.comparison.toOriginComparison := by
        rw [hrow]
        exact fun heq => hdiffers (hcompare.mp heq).1
      obtain ⟨code, hcode, hreplay⟩ := replay_origin_conflict hlinks ha hscope hkey hne
      refine ⟨code, hcode, answers_of_ended hidle (fun inp => ?_)⟩
      simp only [callStep, hreplay]

def receiptAdmission (key intent : String) (expiresAt : Time) : DurableAdmission where
  work := receiptWork key intent
  authorizationScope := sampleRequest.authorization
  deadline := ⟨expiresAt, expiresAt⟩
  payloadFingerprint := fingerprintDeviceWork sampleTools.toDigestTools
    (fingerprintInput (receiptWork key intent) "image/jpeg" (encode "\x7b\x7d") expiresAt)
  mediaType := "image/jpeg"
  normalizedOptions := encode "\x7b\x7d"
  authorityProof :=
    { sampleProof with
      purpose := "pos_receipt"
      operation := "receipt_image"
      mediaType := "image/jpeg"
      optionsDigest := digestOf [] }

def receiptManifest (key intent : String) (expiresAt : Time) : AdmissionManifest :=
  (manifestFromAdmission sampleTools (receiptAdmission key intent expiresAt)).toOption.getD
    sampleManifest

def firstReceipt : AdmissionManifest := receiptManifest "key" "intent" hour

def receiptRun : List AgentEvent := admissionRun firstReceipt

def secondReceipt (expiresAt : Time) : AdmissionManifest := receiptManifest "key-2" "intent-2" expiresAt

lemma receiptManifest_ok {key intent : String} {t : Time}
    (h : (manifestFromAdmission sampleTools (receiptAdmission key intent t)).isOk = true) :
    manifestFromAdmission sampleTools (receiptAdmission key intent t) =
      .ok (receiptManifest key intent t) :=
  eq_ok_of_isOk h sampleManifest

lemma firstReceipt_ok :
    manifestFromAdmission sampleTools (receiptAdmission "key" "intent" hour) = .ok firstReceipt :=
  receiptManifest_ok (by decide +kernel)

lemma secondReceipt_ok (t : Time) (h : t ∈ [hour, hour + second]) :
    manifestFromAdmission sampleTools (receiptAdmission "key-2" "intent-2" t) =
      .ok (secondReceipt t) := by
  have hall : ∀ t ∈ [hour, hour + second], (manifestFromAdmission sampleTools
      (receiptAdmission "key-2" "intent-2" t)).isOk = true := by
    decide +kernel
  exact receiptManifest_ok (hall t h)

lemma receipts_same (t : Time) : SameSubmission (receiptAdmission "key" "intent" hour)
    (receiptAdmission "key-2" "intent-2" t) :=
  ⟨rfl, rfl, rfl, rfl⟩

def receiptRow : AdmissionRow := acceptedRow "job" 0 (stagingRow "admission" "job" firstReceipt 0)

theorem same_deadline_resolves :
    ∃ st ∈ ({} : AgentState).run receiptRun, ∃ acc : AdmissionAccepted, acc.printJobId = "job" ∧
      st.state.Answers (secondReceipt hour) (.accepted acc) := by
  let st := (({} : AgentState).run receiptRun).get ⟨9, by decide +kernel⟩
  obtain ⟨hidle, ha, hstate, hjob, hrow, hscope, hkey, hnew, hfree⟩ :
      st.state.call = none ∧ receiptRow ∈ st.state.db.admissions.rows ∧
      receiptRow.state = .accepted ∧ receiptRow.jobId = some "job" ∧
      receiptRow.comparison = firstReceipt.comparison ∧
      inScope (secondReceipt hour) receiptRow = true ∧
      receiptRow.originSubmissionKey = (secondReceipt hour).originSubmissionKey ∧
      receiptRow.idempotencyKey ≠ (secondReceipt hour).idempotencyKey ∧
      KeyFree st.state.db (secondReceipt hour) "job" := by
    decide +kernel
  have hst : st ∈ ({} : AgentState).run receiptRun := List.get_mem _ _
  clear_value st
  have hsep : Separated sampleTools (receiptAdmission "key" "intent" hour)
      (receiptAdmission "key-2" "intent-2" hour) := ⟨fun _ => rfl, fun _ => rfl⟩
  have hauth : SameAuthority firstReceipt (secondReceipt hour) := by
    rw [sameAuthority_iff]
    decide +kernel
  obtain ⟨acc, hacc, -, hanswer⟩ := ((origin_replay_iff firstReceipt_ok
    (secondReceipt_ok hour (by simp)) hsep hst hidle ha hstate hrow hjob hscope hkey hnew).mpr
    (fun _ => ⟨rfl, hauth, hfree⟩)).1 (receipts_same hour)
  exact ⟨st, hst, acc, hacc, hanswer⟩

theorem later_deadline_conflicts :
    manifestFromAdmission sampleTools (receiptAdmission "key" "intent" hour) = .ok firstReceipt ∧
    manifestFromAdmission sampleTools (receiptAdmission "key-2" "intent-2" (hour + second)) =
      .ok (secondReceipt (hour + second)) ∧
    SameSubmission (receiptAdmission "key" "intent" hour)
      (receiptAdmission "key-2" "intent-2" (hour + second)) ∧
    ∃ st ∈ ({} : AgentState).run receiptRun,
      st.output = .outcome (.accepted ⟨"intent", "job", "printer", 0, 1, false⟩) ∧
      st.state.Answers (secondReceipt (hour + second)) (.raised (.plain .requestConflict)) := by
  let st := (({} : AgentState).run receiptRun).get ⟨9, by decide +kernel⟩
  obtain ⟨hacc, hidle, hreplay⟩ :
      st.output = .outcome (.accepted ⟨"intent", "job", "printer", 0, 1, false⟩) ∧
      st.state.call = none ∧
      replay st.state.db (secondReceipt (hour + second)) = .error (.plain .requestConflict) := by
    decide +kernel
  refine ⟨firstReceipt_ok, secondReceipt_ok _ (by simp), receipts_same _, st, List.get_mem _ _, hacc,
    answers_of_ended hidle (fun inp => ?_)⟩
  simp only [callStep, hreplay]

end Inari.Agent
