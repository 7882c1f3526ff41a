import Inari.Agent.DocumentAdmission

/-!
# The same document, admitted twice

The deadline, the fingerprint, the generation of the Client Grant and the proof depend on the
moment of the call, and nothing else does.
-/

namespace Inari.Agent

open Lib

def AdmissionAuthorization.renewed (generation : Nat) :
    AdmissionAuthorization → AdmissionAuthorization
  | .grant g => .grant { g with generation := generation }
  | .managed a => .managed a

def AdmissionRequest.renewed (r : AdmissionRequest) (generation : Nat) : AdmissionRequest :=
  { r with authorization := r.authorization.renewed generation }

def AdmissionAuthorization.generation? : AdmissionAuthorization → Option Nat
  | .grant g => some g.generation
  | .managed _ => none

/-- When the records that the authority read end, where they do. -/
def AuthorityRecords.expiries (r : AuthorityRecords) : List (Option Time) :=
  [r.profile.toOption.bind (·.expiresAt), r.matrixRow.toOption.bind (·.expiresAt),
    r.evidence.toOption.bind (·.expiresAt), r.revision.toOption.bind (·.1.expiresAt)]

/-- Five minutes, the end of the managed work or of a record of the authority, whichever is first.
-/
def AdmissionMoment.admitsUntil (m : AdmissionMoment) (managedExpiresAt : Option Time) : Time :=
  DeviceCapabilityAuthority.earliest
    (DocumentAdmissionService.requestedExpiry m.resolveUtc managedExpiresAt) m.authority.expiries

structure AdmissionMoment.InTime (m : AdmissionMoment) (managedExpiresAt : Option Time) : Prop where
  check : (DocumentAdmissionService.resolveDeadline m.resolveUtc m.resolveMonotonic
    managedExpiresAt).isExpired m.checkUtc m.checkMonotonic = false
  now : (DocumentAdmissionService.resolveDeadline m.resolveUtc m.resolveMonotonic
    managedExpiresAt).isExpired m.nowUtc m.nowMonotonic = false

namespace DocumentAdmissionService

variable {tools : DocumentTools} {moment : AdmissionMoment} {request : AdmissionRequest}

lemma earliest_le (first : Time) (others : List (Option Time)) :
    DeviceCapabilityAuthority.earliest first others ≤ first := by
  unfold DeviceCapabilityAuthority.earliest
  induction others.filterMap id generalizing first with
  | nil => exact le_refl first
  | cons t ts ih => exact le_trans (ih (min first t)) (min_le_left first t)

variable {now : Time} {proof : AuthorityProof} {checked : CheckedRequest}

lemma authorize_ok {records : AuthorityRecords} {target : CapabilityAdmissionTarget}
    (h : DeviceCapabilityAuthority.authorize records target now = .ok proof) :
    proof.bindingRevisionId = target.bindingRevisionId ∧ proof.deviceId = target.deviceId ∧
    proof.purpose = target.purpose ∧ proof.operation = target.operation ∧
    proof.mediaType = target.mediaType ∧ proof.contractMajor = target.contractMajor ∧
    proof.optionsDigest = target.optionsDigest ∧ proof.issuedAt = now ∧ now < proof.validUntil ∧
    proof.validUntil =
      DeviceCapabilityAuthority.earliest target.requestedExpiresAt records.expiries := by
  simp only [DeviceCapabilityAuthority.authorize, bind_ok, require_ok, pure_ok, Bool.and_eq_true,
    beq_iff_eq, decide_eq_true_eq] at h
  obtain ⟨⟨revision, number⟩, hrevision, binding, -, -, -, -, htarget, profile, hprofile,
    capability, -, -, -, row, hrow, evidence, hevidence, -, -, -, -, -, -, -, hvalid, rfl⟩ := h
  refine ⟨htarget.1.2.symm, htarget.1.1.2.symm, htarget.1.1.1.symm, rfl, rfl, rfl,
    htarget.2.symm, rfl, hvalid, ?_⟩
  simp [DeviceCapabilityAuthority.validUntil, AuthorityRecords.expiries, hrevision, hprofile, hrow,
    hevidence, Except.toOption]

lemma capDeadline_ok {d d' : AdmissionDeadline} {validUntil monotonic : Time}
    (h : capDeadline d validUntil now monotonic = .ok d') :
    d'.expiresAt = min d.expiresAt validUntil := by
  simp only [capDeadline] at h
  split at h
  · cases h
  · split at h
    · rename_i heq
      cases h
      exact heq.symm
    · cases h
      rfl

lemma capDeadline_of_lt {d : AdmissionDeadline} {validUntil : Time} (monotonic : Time)
    (hlt : now < min d.expiresAt validUntil) :
    ∃ d', capDeadline d validUntil now monotonic = .ok d' := by
  simp only [capDeadline, if_neg (not_le.mpr hlt)]
  split
  · exact ⟨d, rfl⟩
  · exact ⟨_, rfl⟩

def targetAt (tools : DocumentTools) (moment : AdmissionMoment) (request : AdmissionRequest)
    (checked : CheckedRequest) : CapabilityAdmissionTarget :=
  authorityTarget tools request.work checked
    (requestedExpiry moment.resolveUtc request.trustedManagedExpiresAt)

/-- What `admit` hands to the store. -/
structure PreparedAt (tools : DocumentTools) (moment : AdmissionMoment)
    (request : AdmissionRequest) (checked : CheckedRequest) (a : DurableAdmission) : Prop where
  work : a.work = request.work
  scope : a.authorizationScope = checked.authorizationScope
  mediaType : a.mediaType = checked.mediaType
  options : a.normalizedOptions = checked.normalizedOptions
  deadline : a.deadline.expiresAt = moment.admitsUntil request.trustedManagedExpiresAt
  fingerprint : a.payloadFingerprint = fingerprintDeviceWork tools.toDigestTools
    (fingerprintInput request.work checked.mediaType checked.normalizedOptions
      a.deadline.expiresAt)
  proof : DeviceCapabilityAuthority.authorize moment.authority
    (targetAt tools moment request checked) moment.nowUtc = .ok a.authorityProof

lemma authorizeWork_ok {records : AuthorityRecords} {target : CapabilityAdmissionTarget} :
    authorizeWork records target now = .ok proof ↔
      DeviceCapabilityAuthority.authorize records target now = .ok proof := by
  unfold authorizeWork
  split
  all_goals
    rename_i h
    simp [h]

lemma deadline_eq (h : DeviceCapabilityAuthority.authorize moment.authority
      (targetAt tools moment request checked) moment.nowUtc = .ok proof) :
    min (requestedExpiry moment.resolveUtc request.trustedManagedExpiresAt) proof.validUntil =
      moment.admitsUntil request.trustedManagedExpiresAt ∧
    moment.nowUtc < moment.admitsUntil request.trustedManagedExpiresAt := by
  obtain ⟨-, -, -, -, -, -, -, -, hlt, hvalid⟩ := authorize_ok h
  have hvalid : proof.validUntil = moment.admitsUntil request.trustedManagedExpiresAt := hvalid
  have hle : moment.admitsUntil request.trustedManagedExpiresAt ≤
      requestedExpiry moment.resolveUtc request.trustedManagedExpiresAt := earliest_le _ _
  rw [hvalid] at hlt ⊢
  exact ⟨min_eq_right hle, hlt⟩

lemma prepareAdmission_ok {a : DurableAdmission}
    (h : prepareAdmission tools moment request = .ok a) :
    ∃ checked, checkRequest tools request = .ok checked ∧
      PreparedAt tools moment request checked a := by
  simp only [prepareAdmission, bind_ok, pure_ok] at h
  obtain ⟨checked, hchecked, _, -, _, -, proof, hproof, deadline, hdeadline, rfl⟩ := h
  have hproof := authorizeWork_ok.mp hproof
  have hcap := capDeadline_ok hdeadline
  refine ⟨checked, hchecked, rfl, rfl, rfl, rfl, ?_, rfl, hproof⟩
  exact hcap.trans (deadline_eq hproof).1

lemma prepareAdmission_of_authorize (hchecked : checkRequest tools request = .ok checked)
    (hin : moment.InTime request.trustedManagedExpiresAt)
    (hproof : DeviceCapabilityAuthority.authorize moment.authority
      (targetAt tools moment request checked) moment.nowUtc = .ok proof) :
    ∃ a, prepareAdmission tools moment request = .ok a ∧
      PreparedAt tools moment request checked a := by
  obtain ⟨hmin, hlt⟩ := deadline_eq hproof
  obtain ⟨deadline, hdeadline⟩ := capDeadline_of_lt (d := resolveDeadline moment.resolveUtc
    moment.resolveMonotonic request.trustedManagedExpiresAt) moment.capMonotonic (hmin.symm ▸ hlt)
  have hok : prepareAdmission tools moment request = .ok
      { work := request.work
        authorizationScope := checked.authorizationScope
        deadline := deadline
        payloadFingerprint := fingerprintDeviceWork tools.toDigestTools
          (fingerprintInput request.work checked.mediaType checked.normalizedOptions
            deadline.expiresAt)
        mediaType := checked.mediaType
        normalizedOptions := checked.normalizedOptions
        authorityProof := proof } := by
    simp only [prepareAdmission, bind_ok, require_ok, pure_ok, Bool.not_eq_true']
    exact ⟨checked, hchecked, (), hin.check, (), hin.now, proof, authorizeWork_ok.mpr hproof,
      deadline, hdeadline, rfl⟩
  obtain ⟨checked', hchecked', hprepared⟩ := prepareAdmission_ok hok
  cases hchecked.symm.trans hchecked'
  exact ⟨_, hok, hprepared⟩

lemma authorizationScope_ok {authorization scope : AdmissionAuthorization} {work : DocumentWork}
    (h : authorizationScope authorization work = .ok scope) : scope = authorization := by
  unfold authorizationScope at h
  split at h
  all_goals first | cases h | (split at h <;> cases h)
  all_goals rfl

/-- The generation of a grant is not part of what the checks compare. -/
lemma checkRequest_renewed (generation : Nat) (h : checkRequest tools request = .ok checked) :
    checkRequest tools (request.renewed generation) = .ok
      { checked with authorizationScope := checked.authorizationScope.renewed generation } := by
  simp only [checkRequest, bind_ok, pure_ok] at h ⊢
  obtain ⟨_, hcontext, mediaType, hmedia, options, hoptions, _, hdocument, _, hkind, scope, hscope,
    rfl⟩ := h
  refine ⟨(), hcontext, mediaType, hmedia, options, hoptions, (), hdocument, (), hkind,
    scope.renewed generation, ?_, rfl⟩
  unfold authorizationScope at hscope
  split at hscope
  · rename_i g c hauthorization hc
    split at hscope
    · rename_i hpermits
      cases hscope
      simp only [AdmissionRequest.renewed, hauthorization, AdmissionAuthorization.renewed,
        authorizationScope, hc]
      exact if_pos hpermits
    · cases hscope
  · cases hscope
  · rename_i a c hauthorization hc
    split at hscope
    · rename_i hpermits
      cases hscope
      simp only [AdmissionRequest.renewed, hauthorization, AdmissionAuthorization.renewed,
        authorizationScope, hc]
      exact if_pos hpermits
    · cases hscope
  · cases hscope

end DocumentAdmissionService

namespace DurableSpoolAdmissionStore

open DocumentAdmissionService

variable {tools : DocumentTools}

lemma scopeColumns_ok {authorization : AdmissionAuthorization} {work : DocumentWork}
    {columns : ScopeColumns} (h : scopeColumns authorization work = .ok columns) :
    (∃ g c, authorization = .grant g ∧ work.context = .submission c ∧ columns = grantColumns g c) ∨
    (∃ a c, authorization = .managed a ∧ work.context = .managed c ∧
      columns = managedColumns a work c) := by
  unfold scopeColumns at h
  split at h
  · rename_i g c hc
    split at h <;> cases h
    exact .inl ⟨g, c, rfl, hc, rfl⟩
  · rename_i a c hc
    split at h <;> cases h
    exact .inr ⟨a, c, rfl, hc, rfl⟩
  · cases h

lemma scopeColumns_renewed {authorization : AdmissionAuthorization} {work : DocumentWork}
    {columns : ScopeColumns} (generation : Nat)
    (h : scopeColumns authorization work = .ok columns) :
    scopeColumns (authorization.renewed generation) work = .ok { columns with
      grantGeneration := columns.grantGeneration.map (fun _ => generation) } := by
  unfold scopeColumns at h
  split at h
  · rename_i g c hc
    split at h
    · rename_i hpermits
      cases h
      simp only [AdmissionAuthorization.renewed, scopeColumns, hc]
      exact if_pos hpermits
    · cases h
  · rename_i a c hc
    split at h
    · rename_i hpermits
      cases h
      simp only [AdmissionAuthorization.renewed, scopeColumns, hc]
      exact if_pos hpermits
    · cases h
  · cases h

lemma manifestFromAdmission_ok {a : DurableAdmission} {m : AdmissionManifest} :
    manifestFromAdmission tools a = .ok m ↔
      a.mediaType = expectedMediaType a.work.operation ∧
      (a.payloadFingerprint.length = 32 ∧ a.work.document.content ≠ []) ∧
      ∃ columns, scopeColumns a.authorizationScope a.work = .ok columns ∧
        proofCovers a.authorityProof a columns.expectedPurpose
          (tools.sha256 a.normalizedOptions) = true ∧
        fingerprintDeviceWork tools.toDigestTools (fingerprintInput a.work a.mediaType
          a.normalizedOptions a.deadline.expiresAt) = a.payloadFingerprint ∧
        ∃ originJson, canonicalText tools columns.originValues = .ok originJson ∧
        ∃ authorizationJson, canonicalText tools columns.authorizationValues =
            .ok authorizationJson ∧
          manifestOf tools a columns originJson authorizationJson = m := by
  simp only [manifestFromAdmission, bind_ok, require_ok, pure_ok, Bool.and_eq_true, beq_iff_eq,
    Bool.not_eq_true', List.isEmpty_eq_false_iff, exists_const]

end DurableSpoolAdmissionStore

open DocumentAdmissionService DurableSpoolAdmissionStore

def AdmissionManifest.fingerprintAt (tools : DocumentTools) (document : Bytes)
    (m : AdmissionManifest) (expiresAt : Time) : Bytes :=
  fingerprintDeviceWork tools.toDigestTools
    ⟨m.contractMajor, m.operation, m.deviceId, m.mediaType, document, m.normalizedOptions,
      expiresAt⟩

/-- The manifest with what a Retry may change. -/
def AdmissionManifest.retried (m : AdmissionManifest) (deadlineAt : Time) (fingerprint : Bytes)
    (grantGeneration : Option Nat) (proof : AuthorityProof) : AdmissionManifest :=
  { m with
    deadlineAt := deadlineAt
    fingerprint := fingerprint
    grantGeneration := grantGeneration
    authorityProof := proof }

def AdmissionMoment.Authorizes (moment : AdmissionMoment) (tools : DocumentTools)
    (request : AdmissionRequest) : Prop :=
  ∀ checked, checkRequest tools request = .ok checked →
    ∃ proof, DeviceCapabilityAuthority.authorize moment.authority
      (targetAt tools moment request checked) moment.nowUtc = .ok proof

variable {tools : DocumentTools} {moment moment' : AdmissionMoment} {request : AdmissionRequest}
  {m : AdmissionManifest}

lemma admitManifest_ok : admitManifest tools moment request = .ok m ↔
    ∃ a, prepareAdmission tools moment request = .ok a ∧ manifestFromAdmission tools a = .ok m := by
  unfold admitManifest
  split
  · rename_i h
    simp [h]
  · rename_i a h
    simp only [h, Except.ok.injEq, exists_eq_left']
    split
    all_goals
      rename_i h
      simp [h]

lemma admitManifest_fields (h : admitManifest tools moment request = .ok m) :
    m.deadlineAt = moment.admitsUntil request.trustedManagedExpiresAt ∧
    m.fingerprint = m.fingerprintAt tools request.work.document.content m.deadlineAt := by
  obtain ⟨a, ha, hm⟩ := admitManifest_ok.mp h
  obtain ⟨checked, -, hprepared⟩ := prepareAdmission_ok ha
  obtain ⟨-, -, columns, -, -, hfingerprint, _, -, _, -, rfl⟩ := manifestFromAdmission_ok.mp hm
  refine ⟨hprepared.deadline, ?_⟩
  rw [← hprepared.work]
  exact hfingerprint.symm

lemma columns_of_admitManifest (h : admitManifest tools moment request = .ok m) :
    m.grantGeneration = request.authorization.generation? ∧
    (m.scopeKind = .deviceManager → m.posConfigurationId = none ∧ m.pairedClientId = none) := by
  obtain ⟨a, ha, hm⟩ := admitManifest_ok.mp h
  obtain ⟨checked, hchecked, hprepared⟩ := prepareAdmission_ok ha
  obtain ⟨-, -, columns, hcolumns, -, -, _, -, _, -, rfl⟩ := manifestFromAdmission_ok.mp hm
  have hscope : checked.authorizationScope = request.authorization := by
    simp only [checkRequest, bind_ok, pure_ok] at hchecked
    obtain ⟨_, -, _, -, _, -, _, -, _, -, scope, hscope, rfl⟩ := hchecked
    exact authorizationScope_ok hscope
  rw [hprepared.scope, hscope] at hcolumns
  rcases scopeColumns_ok hcolumns with ⟨g, c, hg, -, rfl⟩ | ⟨g, c, hg, -, rfl⟩
  · rw [hg]
    exact ⟨rfl, nofun⟩
  · rw [hg]
    exact ⟨rfl, fun _ => ⟨rfl, rfl⟩⟩

lemma proofCovers_iff {checked : CheckedRequest} {a : DurableAdmission}
    (h : PreparedAt tools moment request checked a) (purpose : String) :
    proofCovers a.authorityProof a purpose (tools.sha256 a.normalizedOptions) = true ↔
      purpose = devicePurpose request.work := by
  obtain ⟨hbinding, hdevice, hpurpose, hoperation, hmedia, hmajor, hoptions, hissued, hlt, hvalid⟩ :=
    authorize_ok h.proof
  have hdeadline : a.deadline.expiresAt = a.authorityProof.validUntil := h.deadline.trans hvalid.symm
  simp only [proofCovers, hbinding, hdevice, hpurpose, hoperation, hmedia, hmajor, hoptions, hissued,
    hdeadline, h.work, h.mediaType, h.options, targetAt, authorityTarget, hlt, le_refl, beq_self_eq_true,
    Bool.true_and, Bool.and_true, decide_true, beq_iff_eq]
  exact eq_comm

lemma admitManifest_retry (generation : Nat) (h : admitManifest tools moment request = .ok m)
    (hin : moment'.InTime request.trustedManagedExpiresAt)
    (hauth : moment'.Authorizes tools request) :
    ∃ proof, admitManifest tools moment' (request.renewed generation) = .ok
      (m.retried (moment'.admitsUntil request.trustedManagedExpiresAt)
        (m.fingerprintAt tools request.work.document.content
          (moment'.admitsUntil request.trustedManagedExpiresAt))
        (m.grantGeneration.map (fun _ => generation)) proof) := by
  obtain ⟨a, ha, hm⟩ := admitManifest_ok.mp h
  obtain ⟨checked, hchecked, hprepared⟩ := prepareAdmission_ok ha
  obtain ⟨hmedia, ⟨-, hcontent⟩, columns, hcolumns, hcovers, -, originJson, horigin,
    authorizationJson, hauthorization, rfl⟩ := manifestFromAdmission_ok.mp hm
  obtain ⟨proof, hproof⟩ := hauth checked hchecked
  obtain ⟨a', ha', hprepared'⟩ := prepareAdmission_of_authorize
    (checkRequest_renewed generation hchecked) hin hproof
  refine ⟨a'.authorityProof, admitManifest_ok.mpr ⟨a', ha', ?_⟩⟩
  have hwork : a'.work = a.work := hprepared'.work.trans hprepared.work.symm
  have hmedia' : a'.mediaType = a.mediaType := hprepared'.mediaType.trans hprepared.mediaType.symm
  have hoptions : a'.normalizedOptions = a.normalizedOptions :=
    hprepared'.options.trans hprepared.options.symm
  have hpurpose : columns.expectedPurpose = devicePurpose request.work :=
    (proofCovers_iff hprepared _).mp hcovers
  have hscope : a'.authorizationScope = a.authorizationScope.renewed generation := by
    rw [hprepared'.scope, hprepared.scope]
  have hfingerprint : fingerprintDeviceWork tools.toDigestTools (fingerprintInput a'.work
      a'.mediaType a'.normalizedOptions a'.deadline.expiresAt) = a'.payloadFingerprint := by
    rw [hprepared'.fingerprint, hprepared'.work, hprepared'.mediaType, hprepared'.options]
  rw [manifestFromAdmission_ok, hwork, hmedia', hscope]
  refine ⟨hmedia, ⟨?_, hcontent⟩, _, scopeColumns_renewed generation hcolumns,
    (proofCovers_iff hprepared' _).mpr hpurpose, ?_, originJson, horigin, authorizationJson,
    hauthorization, ?_⟩
  · rw [← hfingerprint]
    exact tools.sha256_length _
  · rw [← hfingerprint, hwork, hmedia']
  · simp only [manifestOf, hwork, hmedia', hoptions, hprepared'.deadline, ← hfingerprint,
      AdmissionManifest.fingerprintAt, AdmissionManifest.retried]
    rw [← hprepared.work]
    rfl

end Inari.Agent
