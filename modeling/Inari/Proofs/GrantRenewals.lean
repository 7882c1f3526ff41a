import Inari.Agent.GrantRenewal

/-!
# What a renewal of a Client Grant does

The renewed term has to end inside the offline window and to span a whole second, and the token
identifier has to start with a letter or a digit.
-/

namespace Inari.Agent.ClientTrust

open Lib

lemma identifiers_ok {l : List (String × String)} {u : Unit} :
    identifiers l = .ok u ↔ ∀ p ∈ l, isSafeIdentifier p.2 = true := by
  induction l with
  | nil => simp [identifiers, pure, Except.pure]
  | cons p l ih => simp [identifiers, identifier, bind_ok, ih]

lemma requiredStrings_ok {l : List (String × String)} {u : Unit} :
    requiredStrings l = .ok u ↔ ∀ p ∈ l, p.2 ≠ "" := by
  induction l with
  | nil => simp [requiredStrings, pure, Except.pure]
  | cons p l ih => simp [requiredStrings, bind_ok, ih]

lemma ne_empty_of_safe {s : String} (h : isSafeIdentifier s = true) : s ≠ "" := by
  rintro rfl
  simp [isSafeIdentifier] at h

lemma wholeSecond_lt {a b : Time} (h : wholeSecond a < wholeSecond b) : a < b := by
  by_contra hle
  have := Int.tdiv_le_tdiv (c := second) (by decide) (not_lt.mp hle)
  simp only [wholeSecond] at h
  omega

lemma normalizePermissions_sorted (permissions : PermissionSet) :
    normalizePermissions ((sortedPermissions permissions).map Permission.value) =
      .ok permissions := by
  have hfind : ∀ p : Permission, Permission.all.find? (fun q => q.value == p.value) = some p := by
    intro p
    cases p <;> decide
  have hset : (sortedPermissions permissions).toFinset = permissions := by
    ext p
    cases p <;> simp [sortedPermissions, Permission.all]
  simp only [normalizePermissions, bind_ok, pure_ok]
  refine ⟨sortedPermissions permissions, ?_, hset⟩
  rw [mapM_ok, List.forall₂_map_left_iff]
  exact List.forall₂_same.mpr (fun p _ => by simp [hfind, orRaise])

lemma tokenId_safe (signer : AccessTokenSigner) (grantId : String) (t : Time) :
    isSafeIdentifier (signer.tokenId grantId t) = true ↔
      ((signer.digest grantId t).headD 0).toNat < 248 := by
  have hlen := signer.sha256_length (grantId ++ ":" ++ signer.timestampText t)
  rw [AccessTokenSigner.tokenId, AccessTokenSigner.digest]
  generalize signer.sha256 (grantId ++ ":" ++ signer.timestampText t) = digest at hlen ⊢
  obtain - | ⟨b, rest⟩ := digest
  · simp at hlen
  obtain ⟨groups, hgroups⟩ : ∃ groups, Base64.sextets ((b :: rest).take 18) = b.toNat / 4 :: groups :=
    List.head?_eq_some_iff.mp (Base64.head?_sextets b (rest.take 17))
  have hsize : groups.length ≤ 255 := by
    have := Base64.length_sextets_le ((b :: rest).take 18)
    rw [hgroups, List.length_cons, List.length_take] at this
    omega
  have hfirst : ∀ n < 64, (Base64.urlSafe.alphabet.getD n 'A').isAlphanum = true ↔ n < 62 := by
    decide +kernel
  have hall : ∀ x, ((Base64.urlSafe.alphabet.getD x 'A').isAlphanum ||
      ['.', '_', ':', '/', '-'].contains (Base64.urlSafe.alphabet.getD x 'A')) = true := by
    have hbelow : ∀ x < 64, ((Base64.urlSafe.alphabet.getD x 'A').isAlphanum ||
      ['.', '_', ':', '/', '-'].contains (Base64.urlSafe.alphabet.getD x 'A')) = true := by
      decide +kernel
    intro x
    by_cases hx : x < 64
    · exact hbelow x hx
    · rw [List.getD_eq_default _ _ (by rw [Base64.urlSafe.size]; omega)]
      decide
  have hbyte := b.toNat_lt
  rw [isSafeIdentifier, Base64.toList_encode _ rfl, hgroups]
  simp only [List.map_cons, Bool.and_eq_true, decide_eq_true_eq, List.length_map, hsize, and_true,
    List.headD_cons, List.all_map, List.all_eq_true, Function.comp_apply, hall, implies_true]
  rw [hfirst _ (by omega)]
  omega

variable {ports : TrustPorts} {signer : AccessTokenSigner} {grant renewed : ClientGrant}
  {db db' : TrustDb} {now t renewalUntil : Time} {command : RenewalCommand}

lemma ClientGrantFields.check_ok {g : ClientGrantFields} : g.check = .ok () ↔
    (isSafeIdentifier g.grantId ∧ isSafeIdentifier g.pairingId ∧ isSafeIdentifier g.actorId ∧
      isSafeIdentifier g.role ∧ isSafeIdentifier g.authorizationDigest) ∧
    isBase64Url g.jwkThumbprint ∧ g.issuedAt < g.expiresAt ∧
    ∀ u, g.offlineRenewalUntil = some u → g.expiresAt < u := by
  cases hu : g.offlineRenewalUntil <;>
    simp [ClientGrantFields.check, bind_ok, identifiers_ok, ClientTrust.jwkThumbprint, assertOrder, hu,
      pure, Except.pure]

def AccessTokenSigner.claims (signer : AccessTokenSigner) (grant : ClientGrant)
    (issuedAt expiresAt : Time) : AccessTokenClaims :=
  ⟨signer.issuer, grant.actorId, signer.audience, signer.tokenId grant.grantId issuedAt,
    wholeSecond issuedAt * second, wholeSecond expiresAt * second, grant.jwkThumbprint,
    grant.pairingId, grant.grantId, grant.scope.business, grant.permissions, grant.generation,
    grant.authorizationDigest⟩

variable {expiresAt : Time}

lemma issue_ok {issuedAt : Time} {r : String × AccessTokenClaims} :
    signer.issue grant issuedAt expiresAt = .ok r ↔
      (isSafeIdentifier signer.issuer ∧ isSafeIdentifier signer.audience ∧
        ((signer.digest grant.grantId issuedAt).headD 0).toNat < 248 ∧
        wholeSecond issuedAt < wholeSecond expiresAt) ∧
      r = (signer.encode (accessPayload grant signer.issuer signer.audience
        (signer.tokenId grant.grantId issuedAt) issuedAt expiresAt),
        signer.claims grant issuedAt expiresAt) := by
  obtain ⟨⟨hgrant, hpairing, hactor, -, hdigest⟩, hkey, -⟩ :=
    ClientGrantFields.check_ok.mp grant.valid
  have hbusiness := grant.scope.business.valid
  have hsafe := hbusiness
  simp only [Bool.and_eq_true] at hsafe
  obtain ⟨⟨⟨⟨hdatabase, hcompany⟩, horganization⟩, hsite⟩, -⟩ := hsafe
  have hstrict : 0 < second := by decide
  rw [← tokenId_safe]
  simp only [AccessTokenSigner.issue, bind_ok, require_ok, pure_ok, accessClaims, accessPayload,
    requiredStrings_ok, normalizePermissions_sorted, mapError_ok, AccessTokenClaims.check,
    identifiers_ok, ClientTrust.jwkThumbprint, assertOrder, dif_pos hbusiness]
  constructor
  · rintro ⟨_, -, _, ⟨_, -, _, ⟨⟩, _, ⟨⟩, _, -, _, ⟨_, hids, _, -, hseconds⟩, rfl⟩, rfl⟩
    simp only [List.forall_mem_cons] at hids
    refine ⟨⟨hids.1, hids.2.2.1, hids.2.2.2.1, ?_⟩, rfl⟩
    exact lt_of_mul_lt_mul_right (of_decide_eq_true hseconds) hstrict.le
  · rintro ⟨⟨hissuer, haudience, hjti, hseconds⟩, rfl⟩
    have hjkt : grant.jwkThumbprint ≠ "" := fun h => by simp [isBase64Url, h] at hkey
    refine ⟨(), decide_eq_true (wholeSecond_lt hseconds), _, ⟨(), ?_, _, rfl, _, rfl, (), ?_, (),
      ⟨(), ?_, (), hkey, decide_eq_true (mul_lt_mul_of_pos_right hseconds hstrict)⟩, rfl⟩, rfl⟩
    · simp [ne_empty_of_safe, *]
    · simp [ne_empty_of_safe, *]
    · simp [*]

lemma result_check {issuedAt : Time} {token : String} {claims : AccessTokenClaims}
    (h : ports.signer.issue grant issuedAt expiresAt = .ok (token, claims)) :
    RenewalResult.check ⟨grant, token, claims⟩ = .ok () := by
  obtain ⟨-, hr⟩ := issue_ok.mp h
  cases hr
  simp [RenewalResult.check, bind_ok, AccessTokenSigner.claims, ports.signer.encode_ne]

lemma ClientGrant.ofFields_iff {fields : ClientGrantFields} :
    ClientGrant.ofFields fields = .ok grant ↔ grant.toClientGrantFields = fields := by
  refine ⟨ClientGrant.ofFields_ok, ?_⟩
  rintro rfl
  unfold ClientGrant.ofFields
  split
  · rfl
  · next e h => rw [grant.valid] at h; cases h

lemma getGrant_ok {grantId : String} (h : getGrant db grantId = .ok (some grant)) :
    grant.toClientGrantFields ∈ db.grants.rows ∧ grant.grantId = grantId := by
  rw [getGrant] at h
  cases hfirst : db.grants.first (fun g => g.grantId == grantId) with
  | none => simp [hfirst, readGrant, pure, Except.pure] at h
  | some =>
    obtain ⟨g, hg, hsome⟩ := map_ok.mp (by simpa only [hfirst, readGrant] using h)
    cases hsome
    obtain ⟨hrow, hid⟩ := Table.first_spec hfirst
    rw [ClientGrant.ofFields_ok hg]
    exact ⟨hrow, by simpa using hid⟩

lemma getGrant_of_mem (h : grant.toClientGrantFields ∈ db.grants.rows) :
    getGrant db grant.grantId = .ok (some grant) := by
  have hfirst : db.grants.first (fun g => g.grantId == grant.grantId) =
      some grant.toClientGrantFields := by
    refine Table.first_eq h (by simp) (fun a ha hid => ?_)
    exact db.grants.eq_of_key (u := uqGrant) (by simp [grantSpec]) ha h
      (congrArg some (by simpa using hid)) rfl
  rw [getGrant, hfirst, readGrant, ClientGrant.ofFields_iff.mpr rfl]
  rfl

lemma issueAccessToken_ok {grantId : String} {issued : String × AccessTokenClaims}
    (h : getGrant db grantId = .ok (some grant)) :
    issueAccessToken ports db grantId t = .ok issued ↔ grant.activeAt t = .ok () ∧
      ports.signer.issue grant t (min grant.expiresAt (t + ports.grantTtl)) = .ok issued := by
  simp only [issueAccessToken, h, bind_ok, orRaise_ok]
  constructor
  · rintro ⟨_, ⟨⟩, _, ⟨⟩, _, hactive, hissued⟩
    exact ⟨hactive, hissued⟩
  · rintro ⟨hactive, hissued⟩
    exact ⟨_, rfl, _, rfl, (), hactive, hissued⟩

def ClientGrantFields.nextTerm (g : ClientGrantFields) (now expiresAt : Time) : ClientGrantFields :=
  { g with
    generation := g.generation + 1, issuedAt := now, expiresAt := expiresAt, lastUsedAt := some now }

lemma nextTerm_fields (h : renewed.toClientGrantFields = grant.nextTerm now expiresAt) :
    renewed.grantId = grant.grantId ∧ renewed.expiresAt = expiresAt ∧
      renewed.lifecycle = grant.lifecycle := by
  rw [h]
  exact ⟨rfl, rfl, rfl⟩

lemma nextTerm_check (huntil : grant.offlineRenewalUntil = some renewalUntil) :
    (grant.nextTerm now expiresAt).check = .ok () ↔ now < expiresAt ∧ expiresAt < renewalUntil := by
  obtain ⟨hids, hkey, -⟩ := ClientGrantFields.check_ok.mp grant.valid
  rw [ClientGrantFields.check_ok]
  refine ⟨fun h => ⟨h.2.2.1, h.2.2.2 _ huntil⟩, fun h => ⟨hids, hkey, h.1, fun u hu => ?_⟩⟩
  cases huntil.symm.trans hu
  exact h.2

lemma renewedGrant_ok (hlife : grant.lifecycle = .active)
    (huntil : grant.offlineRenewalUntil = some renewalUntil) (hopen : now < renewalUntil) :
    renewedGrant ports grant now = .ok renewed ↔
      0 < ports.grantTtl ∧ now + ports.grantTtl < renewalUntil ∧
      renewed.toClientGrantFields = grant.nextTerm now (now + ports.grantTtl) := by
  have hreduce : renewedGrant ports grant now =
      ClientGrant.ofFields (grant.nextTerm now (min (now + ports.grantTtl) renewalUntil)) := by
    simp [renewedGrant, hlife, huntil, hopen, require, orRaise, bind, Except.bind,
      ClientGrantFields.nextTerm]
  rw [hreduce, ClientGrant.ofFields_iff]
  constructor
  · intro h
    have hvalid := renewed.valid
    rw [h, nextTerm_check huntil] at hvalid
    obtain ⟨hterm, hend⟩ := hvalid
    have hinside : now + ports.grantTtl < renewalUntil :=
      (min_lt_iff.mp hend).resolve_right (lt_irrefl _)
    rw [min_eq_left hinside.le] at h hterm
    exact ⟨pos_of_lt_add_right hterm, hinside, h⟩
  · rintro ⟨-, hinside, h⟩
    rwa [min_eq_left hinside.le]

lemma saveGrant_renewed (db : TrustDb) (hrow : grant.toClientGrantFields ∈ db.grants.rows)
    (h : renewed.toClientGrantFields = grant.nextTerm now expiresAt) :
    ∃ db', saveGrant db renewed = .ok db' ∧ getGrant db' grant.grantId = .ok (some renewed) := by
  obtain ⟨hid, -⟩ := nextTerm_fields h
  have hsame : ∀ g ∈ db.grants.rows, (g.grantId == renewed.grantId) = true →
      g = grant.toClientGrantFields := by
    intro g hg hgid
    exact db.grants.eq_of_key (u := uqGrant) (by simp [grantSpec]) hg hrow
      (congrArg some (by simpa [hid] using hgid)) rfl
  have hover : renewed.toClientGrantFields.overwrite grant.toClientGrantFields =
      renewed.toClientGrantFields := by
    rw [h]
    rfl
  have hcheck : grantSpec.check renewed.toClientGrantFields = true := by
    obtain ⟨-, -, hterm, hwindow⟩ := ClientGrantFields.check_ok.mp renewed.valid
    have hold := db.grants.check_of_mem hrow
    simp only [grantSpec, Bool.and_eq_true] at hold ⊢
    refine ⟨⟨by simpa [h, ClientGrantFields.nextTerm] using hold.1.1, by simpa using hterm⟩, ?_⟩
    rw [Option.all_eq_true]
    exact fun u hu => decide_eq_true (hwindow u hu)
  obtain ⟨grants, hgrants⟩ : ∃ grants, db.grants.upsert renewed.toClientGrantFields
      (fun g => g.grantId == renewed.grantId) renewed.toClientGrantFields.overwrite =
        (.ok grants : Except TrustError _) := by
    rw [Table.upsert, if_pos hcheck, if_pos (List.any_eq_true.mpr ⟨_, hrow, by simp [hid]⟩)]
    refine Table.update_ok (fun g hg hgid => ?_) (fun u hu g hg _ => ?_)
    · rw [hsame g hg hgid, hover]
      exact hcheck
    · rw [List.mem_singleton.mp hu]
      rfl
  refine ⟨{ db with grants }, by simp [saveGrant, hgrants, bind, Except.bind, pure, Except.pure], ?_⟩
  rw [← hid]
  refine getGrant_of_mem ((Table.mem_upsert hgrants).mpr (.inr (.inl ⟨_, hrow, by simp [hid], ?_⟩)))
  rw [hover]

lemma consumeDpopNonce_grants {nonce jti : String} {replayUntil : Time} {c : DPoPNonceConsumption}
    (h : consumeDpopNonce db nonce jti now replayUntil = .ok (db', c)) :
    db'.grants = db.grants := by
  simp only [consumeDpopNonce] at h
  split at h
  · cases h
    rfl
  · simp only [bind_ok, pure_ok, Prod.mk.injEq] at h
    obtain ⟨nonces, -, rfl, -⟩ := h
    rfl

lemma spendDpopNonce_grants (ports : TrustPorts) (db : TrustDb) (nonce jti : String)
    (now replayUntil : Time) (draw : NonceDraw) :
    (spendDpopNonce ports db nonce jti now replayUntil draw).1.grants = db.grants := by
  unfold spendDpopNonce
  cases hconsume : consumeDpopNonce db nonce jti now replayUntil with
  | error => rfl
  | ok r =>
    obtain ⟨db₁, c⟩ := r
    have hgrants := consumeDpopNonce_grants hconsume
    cases c with
    | accepted => exact hgrants
    | replay => exact hgrants
    | invalid =>
      dsimp only
      cases hissue : issueDpopNonce ports db₁ draw with
      | error => exact hgrants
      | ok r =>
        obtain ⟨db₂, issued⟩ := r
        simp only [issueDpopNonce, saveDpopNonce, bind_ok, pure_ok, Prod.mk.injEq] at hissue
        obtain ⟨-, -, -, -, -, ⟨nonces, -, rfl⟩, rfl, -⟩ := hissue
        exact hgrants

def usableNonce (nonce : String) (now : Time) (r : NonceRow) : Bool :=
  r.nonce == nonce && r.consumedAt.isNone && decide (now < r.expiresAt)

lemma consumeDpopNonce_accepted {row : NonceRow} {jti : String} (replayUntil : Time)
    (hrow : row ∈ db.nonces.rows) (hunused : row.consumedAt = none) (hissued : row.issuedAt ≤ now)
    (hvalid : now < row.expiresAt) (hjti : isTokenValue jti = true) (hlater : now < replayUntil)
    (hfresh : ∀ r ∈ db.replays.rows, r.kind = .dpop → r.jti = jti → ∃ e ≤ now, r.expiresAt = some e) :
    ∃ db', consumeDpopNonce db row.nonce jti now replayUntil = .ok (db', .accepted) := by
  have hisNew : ((db.replays.delete (fun r => r.kind == .dpop &&
      r.expiresAt.any (fun e => decide (e ≤ now)))).insertOrIgnore
        ⟨.dpop, jti, now, some replayUntil⟩).2 = true := by
    refine Table.insertOrIgnore_fresh ?_ ?_
    · simp only [isTokenValue, Bool.and_eq_true] at hjti
      simpa [replaySpec, lengthBetween, hlater] using hjti.1
    · intro u hu k hk r hr hrk
      obtain rfl := List.mem_singleton.mp hu
      obtain ⟨hr, hkept⟩ := List.mem_filter.mp hr
      obtain ⟨hkind, hsame⟩ := Prod.mk.inj (Option.some.inj (hrk.trans hk.symm))
      obtain ⟨e, he, hexpires⟩ := hfresh r hr hkind hsame
      simp [hkind, hexpires, he] at hkept
  have hsame : ∀ r ∈ db.nonces.rows, usableNonce row.nonce now r = true →
      uqNonce.key r = some row.nonce := by
    intro r _ hr
    simp only [usableNonce, Bool.and_eq_true, beq_iff_eq] at hr
    exact congrArg some hr.1.1
  obtain ⟨nonces, hnonces⟩ := db.nonces.update_ok (ε := TrustError)
    (p := usableNonce row.nonce now) (f := fun r => { r with consumedAt := some now })
    (fun r hr hp => by
      have hold := db.nonces.check_of_mem hr
      cases db.nonces.eq_of_key (by simp [nonceSpec]) hr hrow (hsame r hr hp) rfl
      simp only [nonceSpec, Bool.and_eq_true, Option.all_some] at hold ⊢
      exact ⟨hold.1, decide_eq_true hissued⟩)
    (fun u hu r _ _ => by
      rw [List.mem_singleton.mp hu]
      rfl)
  have hcount : db.nonces.rowcount (usableNonce row.nonce now) = 1 := by
    have hle := db.nonces.countP_le_one (by simp [nonceSpec]) hsame
    have hpos : 0 < db.nonces.rows.countP (usableNonce row.nonce now) :=
      List.countP_pos_iff.mpr ⟨row, hrow, by simp [usableNonce, hunused, hvalid]⟩
    rw [Table.rowcount]
    omega
  unfold usableNonce at hnonces hcount
  simp [consumeDpopNonce, hisNew, hnonces, hcount, bind, Except.bind, pure, Except.pure]

/-- A renewal of an active grant of an active pairing, with a valid proof and an unused nonce. -/
structure Renewable (ports : TrustPorts) (db : TrustDb) (command : RenewalCommand) (now : Time) where
  grant : ClientGrant
  pairing : ClientPairing
  request : PairingRequest
  proof : AcceptedRenewalDPoPProof
  nonce : NonceRow
  storedGrant : getGrant db command.grantId = .ok (some grant)
  activeGrant : grant.lifecycle = .active
  storedPairing : getPairing db command.pairingId = .ok (some pairing)
  activePairing : pairing.activeAt now = .ok ()
  owner : grant.pairingId = pairing.pairingId
  storedRequest : getPairingRequest db pairing.pairingRequestId = .ok (some request)
  completed : request.state = .completed
  origin : command.browserOrigin = pairing.scope.browserOrigin
  target : RequestTarget.parse ports.urls "POST"
    (pairing.scope.agentEndpoint.value ++ "/pairing/v1/client-grants/renew") = .ok command.target
  verified : ports.verifyRenewalDpop command.dpop command.target pairing.jwkThumbprint now = .ok proof
  proofId : isTokenValue proof.jti = true
  newProof : ∀ r ∈ db.replays.rows, r.kind = .dpop → r.jti = proof.jti →
    ∃ e ≤ now, r.expiresAt = some e
  storedNonce : nonce ∈ db.nonces.rows
  nonceValue : nonce.nonce = proof.nonce
  unused : nonce.consumedAt = none
  issued : nonce.issuedAt ≤ now
  unexpired : now < nonce.expiresAt
  lasting : 0 < ports.dpopNonceTtl

/-- What a renewal promises, and a token that is issued for the renewed grant at a time `t`. -/
def Renewed (ports : TrustPorts) (db : TrustDb) (command : RenewalCommand) (now : Time)
    (draw : NonceDraw) (grant : ClientGrant) (renewalUntil t : Time) : Prop :=
  ∃ db' result, renewGrant ports db command now draw = (db', .ok result) ∧
    result.grant.expiresAt = min (now + ports.grantTtl) renewalUntil ∧
    result.grant.generation = grant.generation + 1 ∧
    result.grant.offlineRenewalUntil = grant.offlineRenewalUntil ∧
    result.grant.scope = grant.scope ∧ result.grant.permissions = grant.permissions ∧
    result.grant.jwkThumbprint = grant.jwkThumbprint ∧
    getGrant db' command.grantId = .ok (some result.grant) ∧
    (t + second ≤ result.grant.expiresAt →
      ∃ issued, issueAccessToken ports db' command.grantId t = .ok issued)

/-- The term ends before the window and spans a second, and the signer accepts its own names. -/
structure RenewalFits (ports : TrustPorts) (grantId : String) (renewalUntil now t : Time) : Prop where
  issuer : isSafeIdentifier ports.signer.issuer
  audience : isSafeIdentifier ports.signer.audience
  window : now + ports.grantTtl < renewalUntil
  term : wholeSecond now < wholeSecond (now + ports.grantTtl)
  tokenId : ((ports.signer.digest grantId now).headD 0).toNat < 248
  later : t + second ≤ now + ports.grantTtl →
    wholeSecond t < wholeSecond (min (now + ports.grantTtl) (t + ports.grantTtl)) ∧
    ((ports.signer.digest grantId t).headD 0).toNat < 248

lemma completeRenewal_ok {pairing : ClientPairing} {result : RenewalResult} :
    completeRenewal ports db grant pairing now = .ok (db', result) ↔
      pairing.activeAt now = .ok () ∧ renewedGrant ports grant now = .ok result.grant ∧
      ports.signer.issue result.grant now result.grant.expiresAt =
        .ok (result.accessToken, result.claims) ∧
      saveGrant db result.grant = .ok db' := by
  simp only [completeRenewal, bind_ok, pure_ok, Prod.mk.injEq]
  constructor
  · rintro ⟨_, hpairing, renewed, hrenewed, issued, hissued, db₁, hsave, rfl, rfl⟩
    exact ⟨hpairing, hrenewed, hissued, hsave⟩
  · rintro ⟨hpairing, hrenewed, hissued, hsave⟩
    exact ⟨(), hpairing, _, hrenewed, _, hissued, _, hsave, rfl, rfl⟩

lemma renewalSubject_ok {pairing : ClientPairing} :
    renewalSubject ports db command = .ok (grant, pairing) ↔
      getGrant db command.grantId = .ok (some grant) ∧
      getPairing db command.pairingId = .ok (some pairing) ∧ grant.pairingId = pairing.pairingId ∧
      (∃ request, getPairingRequest db pairing.pairingRequestId = .ok request ∧
        request.any (fun r => r.state == .completed) = true) ∧
      command.browserOrigin = pairing.scope.browserOrigin ∧
      RequestTarget.parse ports.urls "POST"
        (pairing.scope.agentEndpoint.value ++ "/pairing/v1/client-grants/renew") =
          .ok command.target := by
  simp only [renewalSubject, bind_ok, pure_ok, require_ok, orRaise_ok, beq_iff_eq, Prod.mk.injEq]
  constructor
  · rintro ⟨_, hgrant, _, rfl, _, hpairing, _, rfl, _, howner, request, hrequest, _, hcompleted, _,
      horigin, _, htarget, _, rfl, rfl, rfl⟩
    exact ⟨hgrant, hpairing, howner, ⟨request, hrequest, hcompleted⟩, horigin, htarget⟩
  · rintro ⟨hgrant, hpairing, howner, ⟨request, hrequest, hcompleted⟩, horigin, htarget⟩
    exact ⟨_, hgrant, _, rfl, _, hpairing, _, rfl, (), howner, _, hrequest, (), hcompleted, (),
      horigin, _, htarget, (), rfl, rfl, rfl⟩

lemma Renewable.renewGrant_ok (r : Renewable ports db command now) (draw : NonceDraw) :
    ∃ db₁, db₁.grants = db.grants ∧ ∀ db' result,
      renewGrant ports db command now draw = (db', .ok result) ↔
        completeRenewal ports db₁ r.grant r.pairing now = .ok (db', result) := by
  have hsubject := renewalSubject_ok.mpr ⟨r.storedGrant, r.storedPairing, r.owner,
    ⟨_, r.storedRequest, by simp [r.completed]⟩, r.origin, r.target⟩
  obtain ⟨db₁, hconsume⟩ := consumeDpopNonce_accepted (now + ports.dpopNonceTtl)
    r.storedNonce r.unused r.issued r.unexpired r.proofId (lt_add_of_pos_right _ r.lasting) r.newProof
  refine ⟨db₁, consumeDpopNonce_grants hconsume, fun db' result => ?_⟩
  rw [r.nonceValue] at hconsume
  simp only [renewGrant, hsubject, r.verified, spendDpopNonce, hconsume]
  cases hcomplete : completeRenewal ports db₁ r.grant r.pairing now with
  | error => simp
  | ok done =>
    obtain ⟨db₂, result₂⟩ := done
    obtain ⟨-, -, hissued, -⟩ := completeRenewal_ok.mp hcomplete
    simp [result_check hissued, Except.map]

lemma Renewable.fits (r : Renewable ports db command now) {draw : NonceDraw}
    (huntil : r.grant.offlineRenewalUntil = some renewalUntil) (hopen : now < renewalUntil)
    (h : Renewed ports db command now draw r.grant renewalUntil t) :
    RenewalFits ports r.grant.grantId renewalUntil now t := by
  obtain ⟨db', result, hok, -, -, -, -, -, -, hstored, hlater⟩ := h
  obtain ⟨db₁, -, hiff⟩ := r.renewGrant_ok draw
  obtain ⟨-, hrenewed, hissued, -⟩ := completeRenewal_ok.mp ((hiff _ _).mp hok)
  obtain ⟨-, hinside, hfields⟩ := (renewedGrant_ok r.activeGrant huntil hopen).mp hrenewed
  obtain ⟨hid, hexpires, -⟩ := nextTerm_fields hfields
  obtain ⟨⟨hissuer, haudience, htoken, hterm⟩, -⟩ := issue_ok.mp hissued
  rw [hid] at htoken
  rw [hexpires] at hterm
  refine ⟨hissuer, haudience, hinside, hterm, htoken, fun ht => ?_⟩
  obtain ⟨issued, hissue⟩ := hlater (hexpires ▸ ht)
  obtain ⟨-, hissue⟩ := (issueAccessToken_ok hstored).mp hissue
  obtain ⟨⟨-, -, htoken, hterm⟩, -⟩ := issue_ok.mp hissue
  rw [hid] at htoken
  rw [hexpires] at hterm
  exact ⟨hterm, htoken⟩

lemma Renewable.renews (r : Renewable ports db command now) (draw : NonceDraw)
    (huntil : r.grant.offlineRenewalUntil = some renewalUntil) (hopen : now < renewalUntil)
    (h : RenewalFits ports r.grant.grantId renewalUntil now t) :
    Renewed ports db command now draw r.grant renewalUntil t := by
  obtain ⟨db₁, hgrants, hiff⟩ := r.renewGrant_ok draw
  obtain ⟨hrow, hcommand⟩ := getGrant_ok r.storedGrant
  have hterm : 0 < ports.grantTtl := pos_of_lt_add_right (wholeSecond_lt h.term)
  obtain ⟨next, hnext⟩ : ∃ next : ClientGrant,
      next.toClientGrantFields = r.grant.nextTerm now (now + ports.grantTtl) :=
    ⟨⟨_, (nextTerm_check huntil).mpr ⟨lt_add_of_pos_right _ hterm, h.window⟩⟩, rfl⟩
  obtain ⟨hid, hexpires, hlife⟩ := nextTerm_fields hnext
  have hrenewed := (renewedGrant_ok r.activeGrant huntil hopen).mpr ⟨hterm, h.window, hnext⟩
  have hissued := issue_ok.mpr ⟨⟨h.issuer, h.audience, hid ▸ h.tokenId, hexpires ▸ h.term⟩, rfl⟩
  obtain ⟨db', hsave, hstored⟩ := saveGrant_renewed db₁ (hgrants ▸ hrow) hnext
  rw [hcommand] at hstored
  refine ⟨db', ⟨next, _, _⟩,
    (hiff _ _).mpr (completeRenewal_ok.mpr ⟨r.activePairing, hrenewed, hissued, hsave⟩),
    by rw [hexpires, min_eq_left h.window.le], by rw [hnext]; rfl, by rw [hnext]; rfl,
    by rw [hnext]; rfl, by rw [hnext]; rfl, by rw [hnext]; rfl, hstored, fun ht => ?_⟩
  dsimp only at ht
  obtain ⟨hlast, htoken⟩ := h.later (hexpires ▸ ht)
  have hactive : next.activeAt t = .ok () := by
    have : t < next.expiresAt := lt_of_lt_of_le (lt_add_of_pos_right t (by decide)) ht
    simp [ClientGrant.activeAt, bind_ok, hlife.trans r.activeGrant, this]
  exact ⟨_, (issueAccessToken_ok hstored).mpr ⟨hactive,
    issue_ok.mpr ⟨⟨h.issuer, h.audience, hid ▸ htoken, hexpires ▸ hlast⟩, rfl⟩⟩⟩

lemma renewGrant_closed (draw : NonceDraw) (hstored : getGrant db command.grantId = .ok (some grant))
    (huntil : grant.offlineRenewalUntil = some renewalUntil) (hclosed : renewalUntil ≤ now) :
    (∃ e, (renewGrant ports db command now draw).2 = .error e) ∧
      (renewGrant ports db command now draw).1.grants = db.grants := by
  unfold renewGrant
  cases hsubject : renewalSubject ports db command with
  | error e => exact ⟨⟨e, rfl⟩, rfl⟩
  | ok subject =>
    obtain ⟨grant', pairing⟩ := subject
    cases hstored.symm.trans (renewalSubject_ok.mp hsubject).1
    dsimp only
    cases ports.verifyRenewalDpop command.dpop command.target pairing.jwkThumbprint now with
    | error e => exact ⟨⟨e, rfl⟩, rfl⟩
    | ok proof =>
      have hgrants := spendDpopNonce_grants ports db proof.nonce proof.jti now
        (now + ports.dpopNonceTtl) draw
      dsimp only
      cases hspend : spendDpopNonce ports db proof.nonce proof.jti now (now + ports.dpopNonceTtl)
        draw with
      | mk db₁ spent =>
        rw [hspend] at hgrants
        cases spent with
        | error e => exact ⟨⟨e, rfl⟩, hgrants⟩
        | ok =>
          cases hcomplete : completeRenewal ports db₁ grant pairing now with
          | error e => exact ⟨⟨e, by simp [hcomplete]⟩, by simpa [hcomplete] using hgrants⟩
          | ok done =>
            obtain ⟨-, hrenewed, -⟩ := completeRenewal_ok.mp (Prod.mk.eta (p := done) ▸ hcomplete)
            simp [renewedGrant, huntil, bind_ok, not_lt.mpr hclosed] at hrenewed

theorem offline_renewal (ports : TrustPorts) (db : TrustDb) (command : RenewalCommand)
    (now t renewalUntil : Time) (draw : NonceDraw) :
    (∀ r : Renewable ports db command now, r.grant.offlineRenewalUntil = some renewalUntil →
      now < renewalUntil →
      (Renewed ports db command now draw r.grant renewalUntil t ↔
        RenewalFits ports r.grant.grantId renewalUntil now t)) ∧
    (∀ grant, getGrant db command.grantId = .ok (some grant) →
      grant.offlineRenewalUntil = some renewalUntil → renewalUntil ≤ now →
      (∃ e, (renewGrant ports db command now draw).2 = .error e) ∧
        (renewGrant ports db command now draw).1.grants = db.grants) := by
  refine ⟨fun r huntil hopen => ⟨r.fits huntil hopen, r.renews draw huntil hopen⟩, ?_⟩
  intro grant hstored huntil hclosed
  exact renewGrant_closed draw hstored huntil hclosed

def samplePorts : TrustPorts where
  urls :=
    { urlsplit := fun url => some ⟨"https", "agent.test", url.drop 18 |>.toString, "", "",
        some ⟨some "agent.test", none, none⟩, some none⟩
      urlunsplit := fun scheme netloc path _ _ => scheme ++ "://" ++ netloc ++ path
      lower := id
      upper := id }
  verifyRenewalDpop := fun _ target key now => .ok ⟨key, target, now, "nonce-01", "proof-01", now⟩
  signer :=
    { issuer := "agent-1", audience := "inari.local", sha256 := fun _ => List.replicate 32 0,
      sha256_length := fun _ => rfl, timestampText := fun _ => "0.0", encode := fun _ => "a.b.c",
      encode_ne := fun _ => by decide }

def sampleScope : PairingScope where
  agentId := "agent-1"
  browserOrigin := ⟨"https://pos.test"⟩
  agentEndpoint := ⟨"https://agent.test"⟩
  business := ⟨"db", "1", "org", "site", none, by decide⟩
  audience := "inari.local"
  valid := by decide

def sampleGrant : ClientGrant where
  grantId := "grant-1"
  pairingId := "pairing-1"
  jwkThumbprint := "thumbprint"
  scope := sampleScope
  actorId := "actor"
  role := "cashier"
  permissions := {.drawer}
  authorizationDigest := "digest"
  generation := 0
  issuedAt := 0
  expiresAt := 15 * 60 * second
  offlineRenewalUntil := some (30 * 60 * second)
  lifecycle := .active
  lastUsedAt := none
  valid := by rfl

def samplePairing : ClientPairing where
  pairingId := "pairing-1"
  pairingRequestId := "request-1"
  jwkThumbprint := "thumbprint"
  scope := sampleScope
  actorId := "actor"
  role := "cashier"
  permissions := {.drawer}
  createdAt := 0
  expiresAt := none
  lifecycle := .active
  lastUsedAt := none
  valid := by rfl

def sampleRequest : PairingRequest where
  requestId := "request-1"
  scope := sampleScope
  browserJwkThumbprint := "thumbprint"
  requestedPermissions := {.drawer}
  sessionNonce := "session"
  phrase := "cedar-river-willow"
  createdAt := 0
  expiresAt := second
  state := .completed
  valid := by rfl

def sampleNonce : NonceRow := ⟨"nonce-01", 0, 60 * 60 * second, none⟩

def sampleDb : TrustDb where
  pairingRequests := ⟨[sampleRequest.toPairingRequestFields], by decide⟩
  pairings := ⟨[samplePairing.toClientPairingFields], by decide⟩
  grants := ⟨[sampleGrant.toClientGrantFields], by decide⟩
  nonces := ⟨[sampleNonce], by decide⟩

def sampleCommand : RenewalCommand where
  pairingId := "pairing-1"
  grantId := "grant-1"
  target := ⟨"POST", "https://agent.test/pairing/v1/client-grants/renew"⟩
  browserOrigin := ⟨"https://pos.test"⟩
  dpop := "a.b.c"

def sampleRenewal (now : Time) (hissued : 0 ≤ now) (hunexpired : now < 60 * 60 * second) :
    Renewable samplePorts sampleDb sampleCommand now where
  grant := sampleGrant
  pairing := samplePairing
  request := sampleRequest
  proof := ⟨"thumbprint", sampleCommand.target, now, "nonce-01", "proof-01", now⟩
  nonce := sampleNonce
  storedGrant := rfl
  activeGrant := rfl
  storedPairing := rfl
  activePairing := rfl
  owner := rfl
  storedRequest := rfl
  completed := rfl
  origin := rfl
  target := by rfl
  verified := rfl
  proofId := show isTokenValue "proof-01" = true by decide
  newProof := by simp [sampleDb]
  storedNonce := by simp [sampleDb]
  nonceValue := rfl
  unused := rfl
  issued := hissued
  unexpired := hunexpired
  lasting := by decide

theorem ten_minutes_renewed : Renewed samplePorts sampleDb sampleCommand (10 * 60 * second) ⟨0, "n"⟩
    sampleGrant (30 * 60 * second) (10 * 60 * second) :=
  ((offline_renewal samplePorts sampleDb sampleCommand (10 * 60 * second) (10 * 60 * second)
    (30 * 60 * second) ⟨0, "n"⟩).1 (sampleRenewal _ (by decide) (by decide)) rfl (by decide)).mpr
    ⟨by decide, by decide, by decide, by decide, by decide, fun _ => ⟨by decide, by decide⟩⟩

theorem last_term_refused : ∃ r : Renewable samplePorts sampleDb sampleCommand (15 * 60 * second),
    r.grant.offlineRenewalUntil = some (30 * 60 * second) ∧ (15 * 60 : Time) * second < 30 * 60 * second ∧
      ¬ Renewed samplePorts sampleDb sampleCommand (15 * 60 * second) ⟨0, "n"⟩ r.grant
        (30 * 60 * second) (15 * 60 * second) :=
  ⟨sampleRenewal _ (by decide) (by decide), rfl, by decide, fun h =>
    absurd ((sampleRenewal _ (by decide) (by decide)).fits rfl (by decide) h).window (by decide)⟩

end Inari.Agent.ClientTrust
