import Inari.Contracts.Values

/-!
# Identifiers of the gateway protocol

`resource_id!` of `inari-gateway/src/protocol/identifiers.rs` and `AgentId` of `version.rs`.
-/

namespace Inari

open Lib

/-- `from_str`: the fixed start, then at least one of the allowed characters, within the limit. -/
def isIdentifier (start : String) (limit : Nat) (allowed : Char → Bool) (value : String) : Bool :=
  let suffix := value.toList.drop start.length
  value.utf8ByteSize ≤ limit && start.toList.isPrefixOf value.toList && !suffix.isEmpty &&
    suffix.all allowed

def isAgentIdChar (c : Char) : Bool := c.isLower || c.isDigit || c == '_'

def isResourceIdChar (c : Char) : Bool := isAgentIdChar c || c == '-'

structure Identifier (start : String) (limit : Nat) (allowed : Char → Bool) where
  text : String
  valid : isIdentifier start limit allowed text = true
deriving DecidableEq

variable {start : String} {limit : Nat} {allowed : Char → Bool}

lemma Identifier.eq_of_text {a b : Identifier start limit allowed} (h : a.text = b.text) :
    a = b := by
  cases a
  cases b
  subst h
  rfl

/-- `str::parse` -/
def Identifier.parse (start : String) (limit : Nat) (allowed : Char → Bool) (text : String) :
    Option (Identifier start limit allowed) :=
  if h : isIdentifier start limit allowed text = true then some ⟨text, h⟩ else none

abbrev ResourceId (start : String) : Type := Identifier start 96 isResourceIdChar

abbrev OrganizationId := ResourceId "org_"
abbrev SiteId := ResourceId "site_"
abbrev DeviceId := ResourceId "dev_"
abbrev JobId := ResourceId "job_"
abbrev ManagedPreflightId := ResourceId "mpf_"
abbrev ManagedWorkId := ResourceId "mw_"
abbrev PrintIntentId := ResourceId "pi_v1_"
abbrev AgentId := Identifier "agt_" 64 isAgentIdChar

lemma isIdentifier_spec {value : String} (h : isIdentifier start limit allowed value = true) :
    value.length ≤ limit ∧ value.length ≠ 0 ∧
      ∀ c ∈ value.toList, c ∈ start.toList ∨ allowed c = true := by
  simp only [isIdentifier, Bool.and_eq_true, decide_eq_true_eq, List.isPrefixOf_iff_prefix,
    List.all_eq_true] at h
  obtain ⟨⟨⟨hsize, hstart⟩, hsuffix⟩, hall⟩ := h
  obtain ⟨suffix, hvalue⟩ := hstart
  have hdrop : value.toList.drop start.length = suffix := by
    rw [← hvalue, ← String.length_toList, List.drop_left]
  rw [hdrop] at hsuffix hall
  refine ⟨(length_le_utf8ByteSize value).trans hsize, ?_, ?_⟩
  · rw [← String.length_toList, ← hvalue]
    cases suffix <;> simp at hsuffix ⊢
  · intro c hc
    rw [← hvalue, List.mem_append] at hc
    exact hc.imp_right (hall c)

lemma isRustSpace_of_isResourceIdChar {c : Char} (h : isResourceIdChar c = true) :
    isRustSpace c = false := by
  simp only [isResourceIdChar, isAgentIdChar, Bool.or_eq_true, beq_iff_eq, Char.isLower, Char.isDigit,
    Bool.and_eq_true, decide_eq_true_eq] at h
  have hrange : 45 ≤ c.toNat ∧ c.toNat ≤ 122 := by
    rcases h with ((h | h) | h) | h
    · simp only [ge_iff_le, UInt32.le_iff_toNat_le] at h
      exact ⟨le_trans (by decide) h.1, h.2⟩
    · simp only [ge_iff_le, UInt32.le_iff_toNat_le] at h
      exact ⟨le_trans (by decide) h.1, h.2.trans (by decide)⟩
    · subst h; decide
    · subst h; decide
  simp only [isRustSpace, Bool.or_eq_false_iff, Bool.and_eq_false_iff, decide_eq_false_iff_not,
    beq_eq_false_iff_ne]
  omega

/-- No character of the identifier is a space, and the limit is within the texts of the Agent. -/
class PlainIdentifier (start : String) (limit : Nat) (allowed : Char → Bool) : Prop where
  limit_le : limit ≤ 256
  start_plain : ∀ c ∈ start.toList, isRustSpace c = false
  allowed_plain : ∀ c, allowed c = true → isResourceIdChar c = true

lemma no_space_of_all {s : String} (h : s.toList.all (fun c => !isRustSpace c) = true) :
    ∀ c ∈ s.toList, isRustSpace c = false :=
  fun c hc => by simpa using List.all_eq_true.mp h c hc

instance : PlainIdentifier "org_" 96 isResourceIdChar :=
  ⟨by decide, no_space_of_all (by decide), fun _ h => h⟩
instance : PlainIdentifier "site_" 96 isResourceIdChar :=
  ⟨by decide, no_space_of_all (by decide), fun _ h => h⟩
instance : PlainIdentifier "dev_" 96 isResourceIdChar :=
  ⟨by decide, no_space_of_all (by decide), fun _ h => h⟩
instance : PlainIdentifier "job_" 96 isResourceIdChar :=
  ⟨by decide, no_space_of_all (by decide), fun _ h => h⟩
instance : PlainIdentifier "mw_" 96 isResourceIdChar :=
  ⟨by decide, no_space_of_all (by decide), fun _ h => h⟩
instance : PlainIdentifier "pi_v1_" 96 isResourceIdChar :=
  ⟨by decide, no_space_of_all (by decide), fun _ h => h⟩
instance : PlainIdentifier "agt_" 64 isAgentIdChar :=
  ⟨by decide, no_space_of_all (by decide), fun c h => by simp [isResourceIdChar, h]⟩

/-- Stripping leaves an identifier as it is. -/
@[simp] lemma Identifier.strip_text [PlainIdentifier start limit allowed]
    (id : Identifier start limit allowed) : strip isRustSpace id.text = id.text := by
  apply strip_of_forall
  intro c hc
  rcases (isIdentifier_spec id.valid).2.2 c hc with hc | hc
  · exact PlainIdentifier.start_plain limit allowed c hc
  · exact isRustSpace_of_isResourceIdChar (PlainIdentifier.allowed_plain start limit c hc)

lemma Identifier.length_bounds [h : PlainIdentifier start limit allowed]
    (id : Identifier start limit allowed) : 1 ≤ id.text.length ∧ id.text.length ≤ 256 := by
  obtain ⟨hle, hne, -⟩ := isIdentifier_spec id.valid
  exact ⟨Nat.one_le_iff_ne_zero.mpr hne, hle.trans h.limit_le⟩

end Inari
