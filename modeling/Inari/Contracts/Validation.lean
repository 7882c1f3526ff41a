import Inari.Contracts.Wire
import Inari.Lib.Except

/-!
# Reading JSON into models

The pydantic models of the Agent: texts are stripped and measured, unknown fields are refused, and
an error names the path of its field.
-/

namespace Inari

open Lib

structure ValidationError where
  loc : List String
  type : String

abbrev Validated := Except ValidationError

namespace Read

variable {α β : Type}

/-- An error inside the named field or item. -/
def within (name : String) : Validated α → Validated α
  | .ok a => .ok a
  | .error e => .error { e with loc := name :: e.loc }

variable {name : String} {a : α} {fields : List (String × Json)} {read : Json → Validated α}

@[simp] lemma within_ok {x : Validated α} : within name x = .ok a ↔ x = .ok a := by
  cases x <;> simp [within]

def rawText : Json → Validated String
  | .str s => .ok s
  | _ => .error ⟨[], "string_type"⟩

/-- `str_strip_whitespace` -/
def text : Json → Validated String
  | .str s => .ok (strip isRustSpace s)
  | _ => .error ⟨[], "string_type"⟩

/-- `min_length` and `max_length`, in characters -/
def checkLength (lo : Nat) (hi : Option Nat) (s : String) : Validated String := do
  require (lo ≤ s.length) ⟨[], "string_too_short"⟩
  require (hi.all (s.length ≤ ·)) ⟨[], "string_too_long"⟩
  pure s

def boundedText (lo : Nat) (hi : Option Nat) (j : Json) : Validated String := do
  checkLength lo hi (← text j)

/-- `pattern` -/
def matchingText (pattern : String → Bool) (j : Json) : Validated String := do
  let s ← text j
  require (pattern s) ⟨[], "string_pattern_mismatch"⟩
  pure s

/-- A `Literal` or an enumeration of texts, which are compared as they stand. -/
def oneOf (values : List (String × α)) : Json → Validated α
  | .str s => orRaise (values.lookup s) ⟨[], "literal_error"⟩
  | _ => .error ⟨[], "literal_error"⟩

def integer : Json → Validated Int
  | .int n => .ok n
  | _ => .error ⟨[], "int_type"⟩

/-- `ge` and `le` for a field that cannot be negative -/
def natural (lo : Nat) (hi : Option Nat) (j : Json) : Validated Nat := do
  let n ← integer j
  require (decide ((lo : Int) ≤ n)) ⟨[], "greater_than_equal"⟩
  require (hi.all (fun h => decide (n ≤ h))) ⟨[], "less_than_equal"⟩
  pure n.toNat

def datetime (tools : WireTools) : Json → Validated Int
  | .str s => orRaise (tools.parseDatetime s) ⟨[], "datetime_parsing"⟩
  | _ => .error ⟨[], "datetime_type"⟩

/-- `T | None` -/
def nullable (read : Json → Validated α) : Json → Validated (Option α)
  | .null => .ok none
  | j => (read j).map some

section Leaves

variable {s t : String} {lo : Nat} {hi : Option Nat}

@[simp] lemma rawText_str : rawText (.str s) = .ok t ↔ s = t := by simp [rawText]

@[simp] lemma text_str : text (.str s) = .ok t ↔ strip isRustSpace s = t := by simp [text]

@[simp] lemma checkLength_ok :
    checkLength lo hi s = .ok t ↔ lo ≤ s.length ∧ (∀ h ∈ hi, s.length ≤ h) ∧ s = t := by
  simp only [checkLength, bind_ok, require_ok, pure_ok, decide_eq_true_eq]
  cases hi <;> simp

@[simp] lemma boundedText_str :
    boundedText lo hi (.str s) = .ok t ↔
      lo ≤ (strip isRustSpace s).length ∧ (∀ h ∈ hi, (strip isRustSpace s).length ≤ h) ∧
        strip isRustSpace s = t := by
  simp [boundedText, bind_ok]

@[simp] lemma matchingText_str {pattern : String → Bool} :
    matchingText pattern (.str s) = .ok t ↔
      pattern (strip isRustSpace s) = true ∧ strip isRustSpace s = t := by
  simp only [matchingText, bind_ok, text_str, require_ok, pure_ok]
  simp

@[simp] lemma oneOf_str {values : List (String × α)} {a : α} :
    oneOf values (.str s) = .ok a ↔ values.lookup s = some a := by
  simp [oneOf]

@[simp] lemma integer_int {n m : Int} : integer (.int n) = .ok m ↔ n = m := by simp [integer]

@[simp] lemma natural_int {n m : Nat} :
    natural lo hi (.int n) = .ok m ↔ lo ≤ n ∧ (∀ h ∈ hi, n ≤ h) ∧ n = m := by
  simp only [natural, bind_ok, integer_int, require_ok, pure_ok, decide_eq_true_eq]
  cases hi <;> simp

@[simp] lemma datetime_str {tools : WireTools} {a : Int} :
    datetime tools (.str s) = .ok a ↔ tools.parseDatetime s = some a := by
  simp [datetime]

@[simp] lemma nullable_str {read : Json → Validated α} {a : Option α} :
    nullable read (.str s) = .ok a ↔ ∃ b, read (.str s) = .ok b ∧ some b = a := by
  simp [nullable, map_ok]

end Leaves

def object : Json → Validated (List (String × Json))
  | .obj fields => .ok fields
  | _ => .error ⟨[], "model_type"⟩

def field (fields : List (String × Json)) (name : String) (read : Json → Validated α) :
    Validated α :=
  match fields.lookup name with
  | some j => within name (read j)
  | none => .error ⟨[name], "missing"⟩

def fieldD (fields : List (String × Json)) (name : String) (default : α)
    (read : Json → Validated α) : Validated α :=
  match fields.lookup name with
  | some j => within name (read j)
  | none => .ok default

/-- `extra="forbid"` -/
def forbidExtra (names : List String) (fields : List (String × Json)) : Validated Unit :=
  match fields.find? (fun f => !names.contains f.1) with
  | some f => .error ⟨[f.1], "extra_forbidden"⟩
  | none => .ok ()

def itemsFrom (read : Json → Validated α) : Nat → List Json → Validated (List α)
  | _, [] => .ok []
  | i, j :: js => do
    let a ← within (toString i) (read j)
    let as ← itemsFrom read (i + 1) js
    pure (a :: as)

/-- `tuple[T, ...]` and `list[T]` -/
def items (read : Json → Validated α) : Json → Validated (List α)
  | .arr js => itemsFrom read 0 js
  | _ => .error ⟨[], "tuple_type"⟩

@[simp] lemma object_obj {fs : List (String × Json)} :
    object (.obj fields) = .ok fs ↔ fields = fs := by
  simp [object]

lemma itemsFrom_ok {js : List Json} {i : Nat} {as : List α} :
    itemsFrom read i js = .ok as ↔ List.Forall₂ (fun j a => read j = .ok a) js as := by
  induction js generalizing i as with
  | nil => simp [itemsFrom, eq_comm]
  | cons j js ih =>
    simp only [itemsFrom, bind_ok, within_ok, pure_ok, List.forall₂_cons_left_iff]
    constructor
    · rintro ⟨a, ha, as', has, rfl⟩
      exact ⟨a, as', ha, ih.mp has, rfl⟩
    · rintro ⟨a, as', ha, has, rfl⟩
      exact ⟨a, ha, as', ih.mpr has, rfl⟩

lemma items_arr {js : List Json} {as : List α} :
    items read (.arr js) = .ok as ↔ List.Forall₂ (fun j a => read j = .ok a) js as :=
  itemsFrom_ok

mutual

/-- `JsonValue` under a configuration that strips texts. -/
def stripJson : Json → Json
  | .str s => .str (strip isRustSpace s)
  | .arr items => .arr (stripItems items)
  | .obj fields => .obj (stripFields fields)
  | j => j

def stripItems : List Json → List Json
  | [] => []
  | j :: js => stripJson j :: stripItems js

def stripFields : List (String × Json) → List (String × Json)
  | [] => []
  | (name, j) :: fields => (strip isRustSpace name, stripJson j) :: stripFields fields

end

/-- `dict[str, JsonValue]` -/
def jsonObject : Json → Validated (List (String × Json))
  | .obj fields => .ok (stripFields fields)
  | _ => .error ⟨[], "dict_type"⟩

@[simp] lemma jsonObject_obj {fs : List (String × Json)} :
    jsonObject (.obj fields) = .ok fs ↔ stripFields fields = fs := by
  simp [jsonObject]

end Read

end Inari
