import Inari.Agent.ClientTrust
import Inari.Lib.Base64

/-!
# Renewal of Client Grants

`renew_grant`, `issue_access_token`, `_digest` and the nonces of `client_trust/service.py`, with
the signer of `tokens.py`.
-/

namespace Inari.Agent.ClientTrust

open Lib

def invalid (message : String) : TrustError := clientTrustError .invalidValue message

/-- The texts that `_digest` joins. -/
def digestValues (scope : PairingScope) (actorId role : String) (permissions : PermissionSet) :
    List String :=
  [scope.agentId, scope.browserOrigin.value, scope.agentEndpoint.value, scope.business.database,
    scope.business.companyId, scope.business.organizationId, scope.business.siteId,
    scope.business.posConfigurationId.getD "", scope.audience, actorId, role] ++
  (sortedPermissions permissions).map Permission.value

/-- The bytes that `_digest` hashes. -/
def digestInput (scope : PairingScope) (actorId role : String) (permissions : PermissionSet) :
    Bytes :=
  encode ("\x1f".intercalate (digestValues scope actorId role permissions))

/-- What `_access_payload` writes; the times are whole seconds. -/
structure AccessPayload where
  iss : String
  sub : String
  aud : String
  jti : String
  iat : Int
  exp : Int
  jkt : String
  pairingId : String
  grantId : String
  database : String
  companyId : String
  organizationId : String
  siteId : String
  posConfigurationId : Option String
  scope : List String
  generation : Nat
  authorizationDigest : String

structure AccessTokenSigner where
  issuer : String
  audience : String
  sha256 : String → List UInt8
  sha256_length : ∀ text, (sha256 text).length = 32
  /-- `str(value.timestamp())` -/
  timestampText : Time → String
  /-- `jwt.encode` -/
  encode : AccessPayload → String
  encode_ne : ∀ payload, encode payload ≠ ""

/-- `int(value.timestamp())` -/
def wholeSecond (t : Time) : Int := t.tdiv second

def AccessTokenSigner.digest (signer : AccessTokenSigner) (grantId : String) (issuedAt : Time) :
    List UInt8 :=
  signer.sha256 (grantId ++ ":" ++ signer.timestampText issuedAt)

/-- `_b64url(sha256(...).digest()[:18])` -/
def AccessTokenSigner.tokenId (signer : AccessTokenSigner) (grantId : String) (issuedAt : Time) :
    String :=
  Base64.urlSafe.encode ((signer.digest grantId issuedAt).take 18)

def accessPayload (grant : ClientGrant) (issuer audience tokenId : String)
    (issuedAt expiresAt : Time) : AccessPayload where
  iss := issuer
  sub := grant.actorId
  aud := audience
  jti := tokenId
  iat := wholeSecond issuedAt
  exp := wholeSecond expiresAt
  jkt := grant.jwkThumbprint
  pairingId := grant.pairingId
  grantId := grant.grantId
  database := grant.scope.business.database
  companyId := grant.scope.business.companyId
  organizationId := grant.scope.business.organizationId
  siteId := grant.scope.business.siteId
  posConfigurationId := grant.scope.business.posConfigurationId
  scope := (sortedPermissions grant.permissions).map Permission.value
  generation := grant.generation
  authorizationDigest := grant.authorizationDigest

/-- `PermissionCatalog.normalize` -/
def normalizePermissions (values : List String) : Except TrustError PermissionSet := do
  let permissions ← values.mapM (fun value =>
    orRaise (Permission.all.find? (fun p => p.value == value))
      (.clientTrust .unknownPermission "The Client Grant contains an unknown permission."
        [("permission", value)]))
  pure permissions.toFinset

/-- `_required_string` of several claims -/
def requiredStrings : List (String × String) → Except TrustError Unit
  | [] => pure ()
  | (name, value) :: rest => do
    require (value != "") (invalid ("The access credential has an invalid " ++ name ++ " claim."))
    requiredStrings rest

/-- `AccessTokenClaims.__post_init__` -/
def AccessTokenClaims.check (c : AccessTokenClaims) : Except TrustError Unit := do
  identifiers [("issuer", c.issuer), ("subject", c.subject), ("audience", c.audience),
    ("token_id", c.tokenId), ("client_pairing_id", c.clientPairingId),
    ("client_grant_id", c.clientGrantId), ("authorization_digest", c.authorizationDigest)]
  jwkThumbprint "cnf_jkt" c.cnfJkt
  assertOrder "issued_at" c.issuedAt "expires_at" c.expiresAt

def claimsInvalid : TrustError := invalid "The access credential claims are invalid."

/-- `_access_claims`: a `ValueError` of the values below becomes an invalid credential. -/
def accessClaims (p : AccessPayload) : Except TrustError AccessTokenClaims := do
  requiredStrings [("database", p.database), ("company_id", p.companyId),
    ("organization_id", p.organizationId), ("site_id", p.siteId)]
  let business ← if h : (isSafeIdentifier p.database && isSafeIdentifier p.companyId &&
      isSafeIdentifier p.organizationId && isSafeIdentifier p.siteId &&
      p.posConfigurationId.all isSafeIdentifier) = true then
    .ok (BusinessScope.mk p.database p.companyId p.organizationId p.siteId p.posConfigurationId h)
  else .error claimsInvalid
  let permissions ← normalizePermissions p.scope
  requiredStrings [("iss", p.iss), ("sub", p.sub), ("aud", p.aud), ("jti", p.jti), ("jkt", p.jkt),
    ("pairing_id", p.pairingId), ("grant_id", p.grantId),
    ("authorization_digest", p.authorizationDigest)]
  let claims : AccessTokenClaims := ⟨p.iss, p.sub, p.aud, p.jti, p.iat * second, p.exp * second,
    p.jkt, p.pairingId, p.grantId, business, permissions, p.generation, p.authorizationDigest⟩
  claims.check.mapError (fun _ => claimsInvalid)
  pure claims

def AccessTokenSigner.issue (signer : AccessTokenSigner) (grant : ClientGrant)
    (issuedAt expiresAt : Time) : Except TrustError (String × AccessTokenClaims) := do
  require (decide (issuedAt < expiresAt)) (.valueError "expires_at must follow issued_at")
  let payload := accessPayload grant signer.issuer signer.audience
    (signer.tokenId grant.grantId issuedAt) issuedAt expiresAt
  let claims ← accessClaims payload
  pure (signer.encode payload, claims)

structure RenewalCommand where
  pairingId : String
  grantId : String
  target : RequestTarget
  browserOrigin : BoundOrigin
  dpop : String

structure RenewalResult where
  grant : ClientGrant
  accessToken : String
  claims : AccessTokenClaims

/-- The collaborators and the lifetimes of `ClientTrustService` -/
structure TrustPorts where
  urls : UrlTools
  verifyRenewalDpop : (proof : String) → RequestTarget → (jwkThumbprint : String) → Time →
    Except TrustError AcceptedRenewalDPoPProof
  signer : AccessTokenSigner
  grantTtl : Time := 15 * 60 * second
  dpopNonceTtl : Time := 2 * 60 * second

/-- The second reading of the clock and the random nonce of a call that asks for a new proof -/
structure NonceDraw where
  issuedAt : Time
  nonce : String

variable (ports : TrustPorts)

variable (db : TrustDb)

/-- `issue_access_token` of a stored grant -/
def issueAccessToken (grantId : String) (now : Time) :
    Except TrustError (String × AccessTokenClaims) := do
  let grant ← orRaise (← getGrant db grantId) (invalid "The Client Grant is not available.")
  grant.activeAt now
  ports.signer.issue grant now (min grant.expiresAt (now + ports.grantTtl))

def issueDpopNonce (draw : NonceDraw) : Except TrustError (TrustDb × IssuedDPoPNonce) := do
  let expiresAt := draw.issuedAt + ports.dpopNonceTtl
  tokenValue "nonce" draw.nonce
  assertOrder "issued_at" draw.issuedAt "expires_at" expiresAt
  let db ← saveDpopNonce db draw.nonce draw.issuedAt expiresAt
  pure (db, ⟨draw.nonce, draw.issuedAt, expiresAt⟩)

/-- `_consume_dpop_nonce` of a proof that has a nonce -/
def spendDpopNonce (nonce jti : String) (moment replayExpiresAt : Time) (draw : NonceDraw) :
    TrustDb × Except TrustError Unit :=
  match consumeDpopNonce db nonce jti moment replayExpiresAt with
  | .error e => (db, .error e)
  | .ok (db, .accepted) => (db, .ok ())
  | .ok (db, .replay) => (db, .error (replayDetected "The proof was already accepted."))
  | .ok (db, .invalid) =>
    match issueDpopNonce ports db draw with
    | .error e => (db, .error e)
    | .ok (db, issued) => (db, .error (.dpopNonceRequired issued))

/-- The part of `renew_grant` before the proof is verified -/
def renewalSubject (command : RenewalCommand) :
    Except TrustError (ClientGrant × ClientPairing) := do
  let grant ← orRaise (← getGrant db command.grantId) (invalid "The Client Grant is not available.")
  let pairing ← orRaise (← getPairing db command.pairingId)
    (invalid "The Client Pairing is not available.")
  require (grant.pairingId == pairing.pairingId)
    (scopeMismatch "The Client Grant does not belong to this Client Pairing.")
  let request ← getPairingRequest db pairing.pairingRequestId
  require (request.any (fun r => r.state == .completed))
    (invalid "The Pairing Request is not available.")
  require (command.browserOrigin == pairing.scope.browserOrigin)
    (scopeMismatch "The renewal origin does not match the Client Pairing.")
  let expectedTarget ← RequestTarget.parse ports.urls "POST"
    (pairing.scope.agentEndpoint.value ++ "/pairing/v1/client-grants/renew")
  require (command.target == expectedTarget)
    (scopeMismatch "The renewal target does not match the Agent Endpoint.")
  pure (grant, pairing)

/-- The renewed grant: the next generation, with a new term inside the offline window -/
def renewedGrant (grant : ClientGrant) (now : Time) : Except TrustError ClientGrant := do
  require (grant.lifecycle != .revoked)
    (clientTrustError .grantRevoked "The Client Grant is revoked.")
  require (grant.lifecycle != .expired)
    (clientTrustError .grantExpired "The Client Grant is expired.")
  let closed := clientTrustError .grantExpired "The offline Client Grant renewal window is closed."
  let renewalUntil ← orRaise grant.offlineRenewalUntil closed
  require (decide (now < renewalUntil)) closed
  ClientGrant.ofFields { grant.toClientGrantFields with
    generation := grant.generation + 1, issuedAt := now,
    expiresAt := min (now + ports.grantTtl) renewalUntil, lastUsedAt := some now }

/-- The part of `renew_grant` after the nonce is spent, up to the write of the grant -/
def completeRenewal (grant : ClientGrant) (pairing : ClientPairing) (now : Time) :
    Except TrustError (TrustDb × RenewalResult) := do
  pairing.activeAt now
  let renewed ← renewedGrant ports grant now
  let (accessToken, claims) ← ports.signer.issue renewed now renewed.expiresAt
  let db ← saveGrant db renewed
  pure (db, ⟨renewed, accessToken, claims⟩)

/-- `RenewalResult.__post_init__` -/
def RenewalResult.check (r : RenewalResult) : Except TrustError Unit := do
  require (r.accessToken != "") (.valueError "access_token must be non-empty")
  require (r.grant.jwkThumbprint == r.claims.cnfJkt)
    (scopeMismatch "The renewed token does not match the Client Grant.")
  require (r.claims.clientPairingId == r.grant.pairingId &&
      r.claims.clientGrantId == r.grant.grantId && r.claims.business == r.grant.scope.business &&
      decide (r.claims.permissions = r.grant.permissions))
    (scopeMismatch "The renewed token does not match the Client Grant scope.")

def renewGrant (command : RenewalCommand) (now : Time) (draw : NonceDraw) :
    TrustDb × Except TrustError RenewalResult :=
  match renewalSubject ports db command with
  | .error e => (db, .error e)
  | .ok (grant, pairing) =>
    match ports.verifyRenewalDpop command.dpop command.target pairing.jwkThumbprint now with
    | .error e => (db, .error e)
    | .ok proof =>
      match spendDpopNonce ports db proof.nonce proof.jti now (now + ports.dpopNonceTtl) draw with
      | (db, .error e) => (db, .error e)
      | (db, .ok ()) =>
        match completeRenewal ports db grant pairing now with
        | .error e => (db, .error e)
        | .ok (db, result) => (db, result.check.map (fun _ => result))

end Inari.Agent.ClientTrust
