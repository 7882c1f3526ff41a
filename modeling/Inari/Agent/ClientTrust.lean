import Inari.Agent.PrintJobModel

/-!
# Client Trust records

The values of `inari/client_trust/models.py` and `permissions.py`, and the store of `store.py`. A
`valid` field says that the checks of `__post_init__` passed.
-/

namespace Inari.Agent.ClientTrust

open Lib

inductive ClientTrustErrorCode
  | notFound | invalidOrigin | invalidValue | invalidState | unknownPermission | permissionDenied
  | scopeMismatch | pairingExpired | pairingDenied | pairingCanceled | grantExpired | grantRevoked
  | invalidAssertion | invalidDpopProof | replayDetected
deriving DecidableEq

structure IssuedDPoPNonce where
  nonce : String
  issuedAt : Time
  expiresAt : Time
deriving DecidableEq

inductive TrustError
  | clientTrust (code : ClientTrustErrorCode) (message : String)
      (details : List (String × String))
  | dpopNonceRequired (nonce : IssuedDPoPNonce)
  | valueError (message : String)
  | integrityError
  | noResultFound
deriving DecidableEq

instance : SqlError TrustError := ⟨.integrityError, .noResultFound⟩

def clientTrustError (code : ClientTrustErrorCode) (message : String) : TrustError :=
  .clientTrust code message []

def invalidOrigin (message : String) : TrustError := clientTrustError .invalidOrigin message

/-- `InvalidOriginError()` -/
def originNotAllowed : TrustError := invalidOrigin "The browser origin is not allowed."

def scopeMismatch (message : String) : TrustError := clientTrustError .scopeMismatch message

def replayDetected (message : String) : TrustError := clientTrustError .replayDetected message

inductive Permission
  | receiptImage | drawer | scale | scanner | deviceTest | eventsRead | jobsRead | jobsSubmit
deriving DecidableEq

def Permission.value : Permission → String
  | .receiptImage => "device_work:receipt_image"
  | .drawer => "device_work:drawer"
  | .scale => "device_read:scale"
  | .scanner => "device_read:scanner"
  | .deviceTest => "device_test:run"
  | .eventsRead => "events:read"
  | .jobsRead => "jobs:read"
  | .jobsSubmit => "jobs:submit"

abbrev PermissionSet := Finset Permission

def Permission.all : List Permission :=
  [.scale, .scanner, .deviceTest, .drawer, .receiptImage, .eventsRead, .jobsRead, .jobsSubmit]

/-- `sorted(permissions, key=lambda item: item.value)` -/
def sortedPermissions (permissions : PermissionSet) : List Permission :=
  Permission.all.filter (· ∈ permissions)

def identifier (name value : String) : Except TrustError Unit :=
  require (isSafeIdentifier value) (.valueError (name ++ " must be a non-empty stable identifier"))

def identifiers : List (String × String) → Except TrustError Unit
  | [] => pure ()
  | (name, value) :: rest => do
    identifier name value
    identifiers rest

variable (s : String) (db : TrustDb)

/-- `_TOKEN_VALUE` -/
def isTokenValue : Bool :=
  decide (1 ≤ s.length) && decide (s.length ≤ 512) &&
    s.toList.all (fun c => c.isAlphanum || ['.', '_', '~', '-'].contains c)

def tokenValue (name value : String) : Except TrustError Unit :=
  require (isTokenValue value) (.valueError (name ++ " must be a non-empty token value"))

/-- `_BASE64URL` -/
def isBase64Url : Bool :=
  decide (8 ≤ s.length) && decide (s.length ≤ 512) &&
    s.toList.all (fun c => c.isAlphanum || ['_', '-'].contains c)

def jwkThumbprint (name value : String) : Except TrustError Unit :=
  require (isBase64Url value) (.valueError (name ++ " must be a base64url JWK thumbprint"))

def assertOrder (firstName : String) (first : Time) (secondName : String) (second : Time) :
    Except TrustError Unit :=
  require (decide (first < second)) (.valueError (secondName ++ " must follow " ++ firstName))

structure Authority where
  hostname : Option String
  username : Option String
  password : Option String

structure SplitResult where
  scheme : String
  netloc : String
  path : String
  query : String
  fragment : String
  authority : Option Authority
  /-- The port, or nothing when reading it raises. -/
  port : Option (Option Nat)

/-- `urlsplit` and `urlunsplit` of `urllib.parse`, and the case maps of `str`. -/
structure UrlTools where
  urlsplit : String → Option SplitResult
  urlunsplit : (scheme netloc path query fragment : String) → String
  lower : String → String
  upper : String → String

structure BoundOrigin where
  value : String
deriving DecidableEq

def truthy (s : Option String) : Bool := s.any (· != "")

/-- `host.rstrip(".")` -/
def rstripDots : String := String.ofList (s.toList.rdropWhile (· == '.'))

def BoundOrigin.parse (urls : UrlTools) (value : String) : Except TrustError BoundOrigin := do
  require (!(["", "null", "*"].contains value) && !value.toList.contains '*') originNotAllowed
  let parsed ← orRaise (urls.urlsplit value)
    (invalidOrigin "The browser origin is not a valid URL.")
  require (urls.lower parsed.scheme == "https") (invalidOrigin "The browser origin must use HTTPS.")
  let authority ← orRaise parsed.authority
    (invalidOrigin "The browser origin authority is invalid.")
  require (truthy authority.hostname && !truthy authority.username && !truthy authority.password)
    originNotAllowed
  require (["", "/"].contains parsed.path && parsed.query == "" && parsed.fragment == "")
    (invalidOrigin "The browser origin must not contain a path or query.")
  let host := rstripDots (urls.lower (authority.hostname.getD ""))
  require (host != "" && !host.toList.contains '*' && host != "null") originNotAllowed
  require (!host.toList.any (fun c => isPySpace c || decide (c.toNat < 0x20))) originNotAllowed
  let port ← orRaise parsed.port (invalidOrigin "The browser origin has an invalid port.")
  let host := if host.toList.contains ':' && host.toList.head? != some '[' then "[" ++ host ++ "]"
    else host
  let netloc := match port with
    | none => host
    | some port => if port == 443 then host else host ++ ":" ++ toString port
  pure ⟨urls.urlunsplit "https" netloc "" "" ""⟩

structure RequestTarget where
  method : String
  uri : String
deriving DecidableEq

/-- `[A-Z][A-Z0-9-]{0,19}` -/
def isHttpMethod : Bool :=
  match s.toList with
  | [] => false
  | c :: cs => c.isUpper && decide (cs.length ≤ 19) &&
      cs.all (fun c => c.isUpper || c.isDigit || c == '-')

def RequestTarget.parse (urls : UrlTools) (method uri : String) :
    Except TrustError RequestTarget := do
  let method := urls.upper method
  require (isHttpMethod method) (.valueError "method must be an HTTP method")
  let parsed ← orRaise (urls.urlsplit uri) (.valueError "uri must be an absolute HTTPS URL")
  let authority ← orRaise parsed.authority (.valueError "uri must be an absolute HTTPS URL")
  require (urls.lower parsed.scheme == "https" && truthy authority.hostname)
    (.valueError "uri must be an absolute HTTPS URL")
  require (!truthy authority.username && !truthy authority.password)
    (.valueError "uri contains unsupported URL components")
  require parsed.port.isSome (.valueError "uri has an invalid port")
  let origin ← BoundOrigin.parse urls (urls.urlunsplit "https" parsed.netloc "" "" "")
  let bound ← orRaise (urls.urlsplit origin.value) (.valueError "uri must be an absolute HTTPS URL")
  let path := if parsed.path == "" then "/" else parsed.path
  pure ⟨method, urls.urlunsplit "https" bound.netloc path "" ""⟩

structure BusinessScope where
  database : String
  companyId : String
  organizationId : String
  siteId : String
  posConfigurationId : Option String
  valid : (isSafeIdentifier database && isSafeIdentifier companyId &&
    isSafeIdentifier organizationId && isSafeIdentifier siteId &&
    posConfigurationId.all isSafeIdentifier) = true
deriving DecidableEq

structure PairingScope where
  agentId : String
  browserOrigin : BoundOrigin
  agentEndpoint : BoundOrigin
  business : BusinessScope
  audience : String
  valid : (isSafeIdentifier agentId && isSafeIdentifier audience) = true
deriving DecidableEq

inductive PairingLifecycle
  | active | revoked | expired
deriving DecidableEq

structure ClientPairingFields where
  pairingId : String
  pairingRequestId : String
  jwkThumbprint : String
  scope : PairingScope
  actorId : String
  role : String
  permissions : PermissionSet
  createdAt : Time
  expiresAt : Option Time
  lifecycle : PairingLifecycle
  lastUsedAt : Option Time

def ClientPairingFields.check (p : ClientPairingFields) : Except TrustError Unit := do
  identifiers [("pairing_id", p.pairingId), ("pairing_request_id", p.pairingRequestId)]
  ClientTrust.jwkThumbprint "jwk_thumbprint" p.jwkThumbprint
  identifiers [("actor_id", p.actorId), ("role", p.role)]
  match p.expiresAt with
  | none => pure ()
  | some expiresAt => assertOrder "created_at" p.createdAt "expires_at" expiresAt

structure ClientPairing extends ClientPairingFields where
  valid : toClientPairingFields.check = .ok ()

def ClientPairing.ofFields (p : ClientPairingFields) : Except TrustError ClientPairing :=
  match h : p.check with
  | .ok () => .ok ⟨p, h⟩
  | .error e => .error e

def ClientPairing.activeAt (p : ClientPairing) (now : Time) : Except TrustError Unit := do
  require (p.lifecycle != .revoked) (clientTrustError .grantRevoked "The Client Pairing is revoked.")
  require (p.lifecycle != .expired && p.expiresAt.all (fun e => decide (now < e)))
    (clientTrustError .pairingExpired "The Client Pairing is expired.")

inductive GrantLifecycle
  | active | revoked | expired
deriving DecidableEq

structure ClientGrantFields where
  grantId : String
  pairingId : String
  jwkThumbprint : String
  scope : PairingScope
  actorId : String
  role : String
  permissions : PermissionSet
  authorizationDigest : String
  generation : Nat
  issuedAt : Time
  expiresAt : Time
  offlineRenewalUntil : Option Time
  lifecycle : GrantLifecycle
  lastUsedAt : Option Time

def ClientGrantFields.check (g : ClientGrantFields) : Except TrustError Unit := do
  identifiers [("grant_id", g.grantId), ("pairing_id", g.pairingId), ("actor_id", g.actorId),
    ("role", g.role), ("authorization_digest", g.authorizationDigest)]
  ClientTrust.jwkThumbprint "jwk_thumbprint" g.jwkThumbprint
  assertOrder "issued_at" g.issuedAt "expires_at" g.expiresAt
  match g.offlineRenewalUntil with
  | none => pure ()
  | some renewalUntil => assertOrder "expires_at" g.expiresAt "offline_renewal_until" renewalUntil

structure ClientGrant extends ClientGrantFields where
  valid : toClientGrantFields.check = .ok ()

def ClientGrant.ofFields (g : ClientGrantFields) : Except TrustError ClientGrant :=
  match h : g.check with
  | .ok () => .ok ⟨g, h⟩
  | .error e => .error e

lemma ClientGrant.ofFields_ok {fields : ClientGrantFields} {g : ClientGrant}
    (h : ClientGrant.ofFields fields = .ok g) : g.toClientGrantFields = fields := by
  unfold ClientGrant.ofFields at h
  split at h
  · cases h; rfl
  · cases h

def ClientGrant.activeAt (g : ClientGrant) (now : Time) : Except TrustError Unit := do
  require (g.lifecycle != .revoked) (clientTrustError .grantRevoked "The Client Grant is revoked.")
  require (g.lifecycle != .expired && decide (now < g.expiresAt))
    (clientTrustError .grantExpired "The Client Grant is expired.")

inductive PairingRequestState
  | pending | approved | denied | canceled | expired | completed
deriving DecidableEq

structure PairingRequestFields where
  requestId : String
  scope : PairingScope
  browserJwkThumbprint : String
  requestedPermissions : PermissionSet
  sessionNonce : String
  phrase : String
  createdAt : Time
  expiresAt : Time
  state : PairingRequestState

/-- `[A-Za-z0-9]+(?:-[A-Za-z0-9]+){2}` -/
def isPhrase : Bool :=
  match s.toList.splitOn '-' with
  | [a, b, c] => [a, b, c].all (fun word => !word.isEmpty && word.all Char.isAlphanum)
  | _ => false

def PairingRequestFields.check (r : PairingRequestFields) : Except TrustError Unit := do
  identifier "request_id" r.requestId
  jwkThumbprint "browser_jwk_thumbprint" r.browserJwkThumbprint
  tokenValue "session_nonce" r.sessionNonce
  require (isPhrase r.phrase) (.valueError "phrase must contain three hyphen-separated words")
  assertOrder "created_at" r.createdAt "expires_at" r.expiresAt

structure PairingRequest extends PairingRequestFields where
  valid : toPairingRequestFields.check = .ok ()

def PairingRequest.ofFields (r : PairingRequestFields) : Except TrustError PairingRequest :=
  match h : r.check with
  | .ok () => .ok ⟨r, h⟩
  | .error e => .error e

structure AccessTokenClaims where
  issuer : String
  subject : String
  audience : String
  tokenId : String
  issuedAt : Time
  expiresAt : Time
  cnfJkt : String
  clientPairingId : String
  clientGrantId : String
  business : BusinessScope
  permissions : PermissionSet
  generation : Nat
  authorizationDigest : String

structure AcceptedRenewalDPoPProof where
  jwkThumbprint : String
  target : RequestTarget
  iat : Time
  nonce : String
  jti : String
  acceptedAt : Time

/-- `length(x) > 8 AND x LIKE 'https://%'`, two slashes and none of the characters `?#@*` -/
def originCheck (origin : BoundOrigin) : Bool :=
  let text := origin.value.toList
  decide (8 < text.length) && (text.take 8).map Char.toLower == "https://".toList &&
    text.count '/' == 2 && !text.any (fun c => ['?', '#', '@', '*'].contains c)

def scopeCheck (scope : PairingScope) : Bool :=
  [scope.agentId, scope.business.database, scope.business.companyId, scope.business.organizationId,
    scope.business.siteId, scope.audience].all (lengthBetween · 1 256) &&
  originCheck scope.browserOrigin && originCheck scope.agentEndpoint &&
  scope.business.posConfigurationId.all (lengthBetween · 1 256)

def uqPairingRequest : UniqueIndex PairingRequestFields := ⟨fun r => some r.requestId⟩

def pairingRequestSpec : TableSpec PairingRequestFields where
  check r := lengthBetween r.requestId 1 256 && scopeCheck r.scope &&
    lengthBetween r.browserJwkThumbprint 8 512 && lengthBetween r.sessionNonce 1 512 &&
    lengthBetween r.phrase 5 256 && decide (r.createdAt < r.expiresAt)
  uniques := [uqPairingRequest]

def uqPairing : UniqueIndex ClientPairingFields := ⟨fun p => some p.pairingId⟩

def pairingSpec : TableSpec ClientPairingFields where
  check p := [p.pairingId, p.pairingRequestId, p.actorId, p.role].all (lengthBetween · 1 256) &&
    lengthBetween p.jwkThumbprint 8 512 && scopeCheck p.scope &&
    p.expiresAt.all (fun e => decide (p.createdAt < e))
  uniques := [uqPairing]

def uqGrant : UniqueIndex ClientGrantFields := ⟨fun g => some g.grantId⟩

def grantSpec : TableSpec ClientGrantFields where
  check g := [g.grantId, g.pairingId, g.actorId, g.role, g.authorizationDigest].all
      (lengthBetween · 1 256) &&
    lengthBetween g.jwkThumbprint 8 512 && scopeCheck g.scope &&
    decide (g.issuedAt < g.expiresAt) && g.offlineRenewalUntil.all (fun u => decide (g.expiresAt < u))
  uniques := [uqGrant]

inductive ReplayKind
  | pairingAssertion | dpop
deriving DecidableEq

structure ReplayRow where
  kind : ReplayKind
  jti : String
  consumedAt : Time
  expiresAt : Option Time

def uqReplay : UniqueIndex ReplayRow := ⟨fun r => some (r.kind, r.jti)⟩

def replaySpec : TableSpec ReplayRow where
  check r := lengthBetween r.jti 1 512 &&
    match r.kind, r.expiresAt with
    | .pairingAssertion, none => true
    | .dpop, some e => decide (r.consumedAt < e)
    | _, _ => false
  uniques := [uqReplay]

structure NonceRow where
  nonce : String
  issuedAt : Time
  expiresAt : Time
  consumedAt : Option Time

def uqNonce : UniqueIndex NonceRow := ⟨fun r => some r.nonce⟩

def nonceSpec : TableSpec NonceRow where
  check r := lengthBetween r.nonce 8 512 && decide (r.issuedAt < r.expiresAt) &&
    r.consumedAt.all (fun c => decide (r.issuedAt ≤ c))
  uniques := [uqNonce]

structure TrustDb where
  pairingRequests : Table pairingRequestSpec := .empty
  pairings : Table pairingSpec := .empty
  grants : Table grantSpec := .empty
  replays : Table replaySpec := .empty
  nonces : Table nonceSpec := .empty

/-! ## The store

Each function is one statement or one transaction of `SqliteClientTrustStore`. -/

def readPairing (row : Option ClientPairingFields) : Except TrustError (Option ClientPairing) :=
  match row with
  | none => pure none
  | some row => (ClientPairing.ofFields row).map some

def readGrant (row : Option ClientGrantFields) : Except TrustError (Option ClientGrant) :=
  match row with
  | none => pure none
  | some row => (ClientGrant.ofFields row).map some

def readRequest (row : Option PairingRequestFields) : Except TrustError (Option PairingRequest) :=
  match row with
  | none => pure none
  | some row => (PairingRequest.ofFields row).map some

def getPairing (pairingId : String) : Except TrustError (Option ClientPairing) :=
  readPairing (db.pairings.first (fun p => p.pairingId == pairingId))

def getGrant (grantId : String) : Except TrustError (Option ClientGrant) :=
  readGrant (db.grants.first (fun g => g.grantId == grantId))

/-- The row after a conflict with a new grant: the columns of `set_` are written over. -/
def ClientGrantFields.overwrite (new row : ClientGrantFields) : ClientGrantFields :=
  { row with
    generation := new.generation, issuedAt := new.issuedAt, expiresAt := new.expiresAt,
    lifecycle := new.lifecycle, lastUsedAt := new.lastUsedAt }

def saveGrant (grant : ClientGrant) : Except TrustError TrustDb := do
  let grants ← db.grants.upsert grant.toClientGrantFields (fun g => g.grantId == grant.grantId)
    grant.toClientGrantFields.overwrite
  pure { db with grants }

def getPairingRequest (requestId : String) : Except TrustError (Option PairingRequest) :=
  readRequest (db.pairingRequests.first (fun r => r.requestId == requestId))

def saveDpopNonce (nonce : String) (issuedAt expiresAt : Time) : Except TrustError TrustDb := do
  let nonces ← (db.nonces.delete (fun r => decide (r.expiresAt ≤ issuedAt))).insert
    ⟨nonce, issuedAt, expiresAt, none⟩
  pure { db with nonces }

inductive DPoPNonceConsumption
  | accepted | invalid | replay

/-- The proof identity is spent even when the nonce is unknown. A replay rolls back. -/
def consumeDpopNonce (nonce jti : String) (moment replayExpiresAt : Time) :
    Except TrustError (TrustDb × DPoPNonceConsumption) := do
  let kept := db.replays.delete
    (fun r => r.kind == .dpop && r.expiresAt.any (fun e => decide (e ≤ moment)))
  let (replays, isNew) := kept.insertOrIgnore ⟨.dpop, jti, moment, some replayExpiresAt⟩
  if !isNew then pure (db, .replay)
  else
    let usable := fun r : NonceRow =>
      r.nonce == nonce && r.consumedAt.isNone && decide (moment < r.expiresAt)
    let nonces ← db.nonces.update usable (fun r => { r with consumedAt := some moment })
    pure ({ db with replays, nonces },
      if db.nonces.rowcount usable == 1 then .accepted else .invalid)

end Inari.Agent.ClientTrust
