import Inari.Proofs.GrantRenewals

/-!
# Authorization digests

No accepted field holds the unit separator with which the fields are joined.
-/

namespace Inari.Agent.ClientTrust

open Lib

variable {urls : UrlTools} {scope scope' : PairingScope} {actorId actorId' role role' : String}
  {permissions permissions' : PermissionSet} {s : String}

/-- A scope with accepted origins, and an actor and a role as pairings and grants accept them. -/
structure Accepted (urls : UrlTools) (scope : PairingScope) (actorId role : String) : Prop where
  browserOrigin : ∃ value, BoundOrigin.parse urls value = .ok scope.browserOrigin
  agentEndpoint : ∃ value, BoundOrigin.parse urls value = .ok scope.agentEndpoint
  actorId : isSafeIdentifier actorId = true
  role : isSafeIdentifier role = true

def unitSeparator : Char := '\x1f'

lemma separator_notin_safe (h : isSafeIdentifier s = true) : unitSeparator ∉ s.toList := by
  intro hmem
  unfold isSafeIdentifier at h
  cases hs : s.toList with
  | nil => simp [hs] at hmem
  | cons =>
    simp only [hs, Bool.and_eq_true, List.all_eq_true] at h
    rw [hs, List.mem_cons] at hmem
    rcases hmem with rfl | hmem
    · exact absurd h.1.1 (by decide)
    · exact absurd (h.2 _ hmem) (by decide)

lemma separator_notin_repr (n : Nat) : unitSeparator ∉ (toString n).toList := by
  intro hmem
  have hdigits : (toString n).toList = Nat.toDigits 10 n := by simp [Nat.repr]
  rw [hdigits] at hmem
  exact absurd (Nat.isDigit_of_mem_toDigits (by decide) (by decide) hmem) (by decide)

lemma separator_notin_append {t : String} (hs : unitSeparator ∉ s.toList)
    (ht : unitSeparator ∉ t.toList) : unitSeparator ∉ (s ++ t).toList := by
  rw [String.toList_append, List.mem_append]
  exact not_or.mpr ⟨hs, ht⟩

lemma separator_notin_origin {value : String} {origin : BoundOrigin}
    (hurls : ∀ netloc, urls.urlunsplit "https" netloc "" "" "" = "https://" ++ netloc)
    (h : BoundOrigin.parse urls value = .ok origin) : unitSeparator ∉ origin.value.toList := by
  simp only [BoundOrigin.parse, bind_ok, require_ok, orRaise_ok, pure_ok] at h
  obtain ⟨_, -, parsed, -, _, -, authority, -, _, -, _, -, _, -, _, hhost, port, -, rfl⟩ := h
  generalize rstripDots (urls.lower (authority.hostname.getD "")) = host at hhost
  have hhost : unitSeparator ∉ host.toList := by
    intro hmem
    simp only [Bool.not_eq_true', List.any_eq_false] at hhost
    exact hhost _ hmem (by decide)
  have hbracketed : unitSeparator ∉ (if host.toList.contains ':' && host.toList.head? != some '['
      then "[" ++ host ++ "]" else host).toList := by
    split
    · exact separator_notin_append (separator_notin_append (by decide) hhost) (by decide)
    · exact hhost
  rw [hurls]
  refine separator_notin_append (by decide) ?_
  cases port with
  | none => exact hbracketed
  | some port =>
    dsimp only
    split
    · exact hbracketed
    · exact separator_notin_append (separator_notin_append hbracketed (by decide))
        (separator_notin_repr port)

lemma separator_notin_values
    (hurls : ∀ netloc, urls.urlunsplit "https" netloc "" "" "" = "https://" ++ netloc)
    (h : Accepted urls scope actorId role) (permissions : PermissionSet) :
    ∀ value ∈ digestValues scope actorId role permissions, unitSeparator ∉ value.toList := by
  obtain ⟨⟨_, hbrowser⟩, ⟨_, hendpoint⟩, hactor, hrole⟩ := h
  have hscope := scope.valid
  have hbusiness := scope.business.valid
  simp only [Bool.and_eq_true] at hscope hbusiness
  obtain ⟨⟨⟨⟨hdatabase, hcompany⟩, horganization⟩, hsite⟩, hpos⟩ := hbusiness
  have hpos : unitSeparator ∉ (scope.business.posConfigurationId.getD "").toList := by
    cases hid : scope.business.posConfigurationId with
    | none => decide
    | some => exact separator_notin_safe (by simpa [hid] using hpos)
  simp only [digestValues, List.forall_mem_append, List.forall_mem_cons, List.forall_mem_map]
  refine ⟨⟨separator_notin_safe hscope.1, separator_notin_origin hurls hbrowser,
    separator_notin_origin hurls hendpoint, separator_notin_safe hdatabase,
    separator_notin_safe hcompany, separator_notin_safe horganization, separator_notin_safe hsite,
    hpos, separator_notin_safe hscope.2, separator_notin_safe hactor, separator_notin_safe hrole,
    by simp⟩, ?_⟩
  intro permission _
  cases permission <;> decide

lemma values_of_digestInput
    (hurls : ∀ netloc, urls.urlunsplit "https" netloc "" "" "" = "https://" ++ netloc)
    (ha : Accepted urls scope actorId role) (ha' : Accepted urls scope' actorId' role')
    (h : digestInput scope actorId role permissions = digestInput scope' actorId' role' permissions') :
    digestValues scope actorId role permissions =
      digestValues scope' actorId' role' permissions' := by
  have hjoined := congrArg String.toList (encode_injective h)
  rw [String.toList_intercalate, String.toList_intercalate] at hjoined
  have hsplit := congrArg (List.splitOn unitSeparator) hjoined
  have hvalues := separator_notin_values hurls ha permissions
  have hvalues' := separator_notin_values hurls ha' permissions'
  rw [show "\x1f".toList = [unitSeparator] from rfl,
    List.splitOn_intercalate _ (by simpa using hvalues) (by simp [digestValues]),
    List.splitOn_intercalate _ (by simpa using hvalues') (by simp [digestValues])] at hsplit
  exact List.map_injective_iff.mpr (fun _ _ => String.toList_inj.mp) hsplit

lemma Permission.value_injective : Function.Injective Permission.value := by
  intro p q h
  cases p <;> cases q <;> first | rfl | exact absurd h (by decide)

@[simp] lemma mem_sortedPermissions {p : Permission} :
    p ∈ sortedPermissions permissions ↔ p ∈ permissions := by
  have hall : p ∈ Permission.all := by cases p <;> decide
  simp [sortedPermissions, hall]

lemma posConfiguration_injective {a b : BusinessScope}
    (h : a.posConfigurationId.getD "" = b.posConfigurationId.getD "") :
    a.posConfigurationId = b.posConfigurationId := by
  have safe : ∀ c : BusinessScope, ∀ id ∈ c.posConfigurationId, id ≠ "" := by
    intro c id hid
    have hvalid := c.valid
    simp only [Bool.and_eq_true, Option.all_eq_true] at hvalid
    exact ne_empty_of_safe (hvalid.2 id hid)
  have ha := safe a
  have hb := safe b
  cases hida : a.posConfigurationId <;> cases hidb : b.posConfigurationId <;>
    simp_all [eq_comm]

/-- Accepted authorizations are hashed as the same bytes only when they are the same. -/
theorem digestInput_eq_iff
    (hurls : ∀ netloc, urls.urlunsplit "https" netloc "" "" "" = "https://" ++ netloc)
    (ha : Accepted urls scope actorId role) (ha' : Accepted urls scope' actorId' role') :
    digestInput scope actorId role permissions = digestInput scope' actorId' role' permissions' ↔
      scope = scope' ∧ actorId = actorId' ∧ role = role' ∧ permissions = permissions' := by
  constructor
  · intro h
    have hvalues := values_of_digestInput hurls ha ha' h
    simp only [digestValues, List.cons_append, List.nil_append, List.cons.injEq] at hvalues
    obtain ⟨hagent, hbrowser, hendpoint, hdatabase, hcompany, horganization, hsite, hpos, haudience,
      hactor, hrole, hpermissions⟩ := hvalues
    have hpos := posConfiguration_injective hpos
    have hbusiness : scope.business = scope'.business := by
      cases hb : scope.business
      cases hb' : scope'.business
      simp_all
    have hsorted := List.map_injective_iff.mpr Permission.value_injective hpermissions
    refine ⟨?_, hactor, hrole, ?_⟩
    · cases scope with
      | mk agentId browserOrigin agentEndpoint =>
        cases scope' with
        | mk agentId' browserOrigin' agentEndpoint' =>
          cases browserOrigin
          cases agentEndpoint
          cases browserOrigin'
          cases agentEndpoint'
          simp_all
    · ext p
      rw [← mem_sortedPermissions, hsorted, mem_sortedPermissions]
  · rintro ⟨rfl, rfl, rfl, rfl⟩
    rfl

def sampleUrls : UrlTools :=
  { samplePorts.urls with
    urlsplit := fun url =>
      some ⟨"https", "", "", "", "", some ⟨some (url.drop 8).toString, none, none⟩, some none⟩ }

def samplePosScope : PairingScope :=
  { sampleScope with business := ⟨"db", "1", "org", "site", some "till-1", by decide⟩ }

lemma sampleScope_accepted : Accepted sampleUrls sampleScope "actor" "cashier" where
  browserOrigin := ⟨"https://pos.test", by decide⟩
  agentEndpoint := ⟨"https://agent.test", by decide⟩
  actorId := by decide
  role := by decide

lemma samplePosScope_accepted : Accepted sampleUrls samplePosScope "actor" "cashier" :=
  { sampleScope_accepted with }

theorem posConfiguration_changes_digestInput :
    sampleScope.agentId = samplePosScope.agentId ∧
      digestInput sampleScope "actor" "cashier" {.drawer} ≠
        digestInput samplePosScope "actor" "cashier" {.drawer} := by
  have hurls : ∀ netloc, sampleUrls.urlunsplit "https" netloc "" "" "" = "https://" ++ netloc := by
    intro netloc
    simp [sampleUrls, samplePorts]
  refine ⟨rfl, fun h => ?_⟩
  have heq := ((digestInput_eq_iff hurls sampleScope_accepted samplePosScope_accepted).mp h).1
  exact absurd heq (by decide)

end Inari.Agent.ClientTrust
