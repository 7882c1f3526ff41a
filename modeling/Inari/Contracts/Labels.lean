import Inari.Lib.Except

/-!
# Label field data

`escape_field` and `_field_data` of `zpl.py`. A character stands for its bytes in UTF-8: those that
are written in hexadecimal are characters of one byte.
-/

namespace Inari.Labels

open Lib

variable (control : Char → Bool) (dataMatrix : Bool)

/-- The category of no character is `Cc`, `Cf` or `Cs`. -/
def checkText (value : List Char) : Except String Unit :=
  require (!value.any control) "Label field data contains a control character."

def controlBytes : List Nat := [0x5E, 0x7E, 0x5F]

def hexDigits : List Char :=
  ['0', '1', '2', '3', '4', '5', '6', '7', '8', '9', 'A', 'B', 'C', 'D', 'E', 'F']

/-- `int(token, 16)` -/
def hexByte (a b : Char) : Nat := 16 * hexDigits.idxOf a + hexDigits.idxOf b

def escapeByte (c : Char) : List Char :=
  if c.toNat ∈ controlBytes then
    ['_', hexDigits.getD (c.toNat / 16) '0', hexDigits.getD (c.toNat % 16) '0']
  else [c]

/-- `value.replace("\\", "\\\\")` -/
def doubled (value : List Char) : List Char :=
  value.flatMap (fun c => if c = '\\' then ['\\', '\\'] else [c])

def escapeField (value : List Char) : Except String (List Char) := do
  checkText control value
  pure ((if dataMatrix then doubled value else value).flatMap escapeByte)

/-- The first loop of `_field_data`. -/
def unescape : List Char → Except String (List Char)
  | [] => .ok []
  | '_' :: a :: b :: rest => do
    require (hexDigits.contains a && hexDigits.contains b)
      "Label field data has a noncanonical hex escape."
    require (controlBytes.contains (hexByte a b)) "Only ZPL control bytes use hex escapes."
    let data ← unescape rest
    pure (Char.ofNat (hexByte a b) :: data)
  | c :: rest => do
    require (c ≠ '_') "Label field data has a noncanonical hex escape."
    require (c ≠ '^' && c ≠ '~') "Label field data contains an unescaped ZPL prefix."
    let data ← unescape rest
    pure (c :: data)

/-- The second loop: the text with single backslashes. -/
def undouble : List Char → Except String (List Char)
  | [] => .ok []
  | '\\' :: '\\' :: rest => do
    let text ← undouble rest
    pure ('\\' :: text)
  | c :: rest => do
    require (c ≠ '\\') "Data Matrix supports only doubled backslashes."
    let text ← undouble rest
    pure (c :: text)

def fieldData (value : List Char) : Except String (List Char) := do
  let text ← unescape value
  checkText control text
  if dataMatrix then undouble text else pure text

lemma escapeByte_hex {a b : Char} (ha : a ∈ hexDigits) (hb : b ∈ hexDigits)
    (h : hexByte a b ∈ controlBytes) : escapeByte (Char.ofNat (hexByte a b)) = ['_', a, b] := by
  have hall : hexDigits.all (fun a => hexDigits.all (fun b =>
      !controlBytes.contains (hexByte a b) ||
        escapeByte (Char.ofNat (hexByte a b)) == ['_', a, b])) = true := by decide +kernel
  simpa [h] using List.all_eq_true.mp (List.all_eq_true.mp hall a ha) b hb

lemma escapeByte_plain {c : Char} (h : c ≠ '_' ∧ c ≠ '^' ∧ c ≠ '~') : escapeByte c = [c] := by
  rw [escapeByte, if_neg]
  simp only [controlBytes, List.mem_cons, List.not_mem_nil, or_false]
  rintro (hc | hc | hc)
  · exact h.2.1 (Char.toNat_inj.mp hc)
  · exact h.2.2 (Char.toNat_inj.mp hc)
  · exact h.1 (Char.toNat_inj.mp hc)

lemma unescape_escapeByte (c : Char) (rest : List Char) :
    unescape (escapeByte c ++ rest) = (unescape rest).map (c :: ·) := by
  by_cases hplain : c ≠ '_' ∧ c ≠ '^' ∧ c ≠ '~'
  · rw [escapeByte_plain hplain, List.singleton_append,
      unescape.eq_3 _ _ (fun _ _ _ h => absurd h hplain.1), require, require,
      if_pos (decide_eq_true hplain.1), if_pos (by simp [hplain])]
    cases unescape rest <;> rfl
  · have hmark : c = '_' ∨ c = '^' ∨ c = '~' := by tauto
    rcases hmark with rfl | rfl | rfl
    all_goals
      show (unescape rest >>= _) = _
      cases unescape rest <;> rfl

lemma unescape_iff {s t : List Char} : unescape s = .ok t ↔ t.flatMap escapeByte = s := by
  constructor
  · intro h
    fun_induction unescape s generalizing t with
    | case1 =>
      cases h
      rfl
    | case2 a b rest ih =>
      simp only [bind_ok, require_ok, pure_ok, Bool.and_eq_true, List.contains_iff_mem] at h
      obtain ⟨_, ⟨ha, hb⟩, _, hbyte, data, hdata, rfl⟩ := h
      rw [List.flatMap_cons, escapeByte_hex ha hb hbyte, ih hdata]
      rfl
    | case3 c rest _ ih =>
      simp only [bind_ok, require_ok, pure_ok, Bool.and_eq_true, decide_eq_true_eq] at h
      obtain ⟨_, hmark, _, hmarks, data, hdata, rfl⟩ := h
      rw [List.flatMap_cons, escapeByte_plain ⟨hmark, hmarks⟩, ih hdata]
      rfl
  · rintro rfl
    induction t with
    | nil => rfl
    | cons c t ih =>
      rw [List.flatMap_cons, unescape_escapeByte, ih]
      rfl

lemma undouble_iff {s t : List Char} : undouble s = .ok t ↔ doubled t = s := by
  constructor
  · intro h
    fun_induction undouble s generalizing t with
    | case1 =>
      cases h
      rfl
    | case2 rest ih =>
      simp only [bind_ok, pure_ok] at h
      obtain ⟨text, htext, rfl⟩ := h
      rw [← ih htext]
      rfl
    | case3 c rest _ ih =>
      simp only [bind_ok, require_ok, pure_ok, decide_eq_true_eq] at h
      obtain ⟨_, hc, text, htext, rfl⟩ := h
      rw [← ih htext, doubled, List.flatMap_cons, if_neg hc]
      rfl
  · rintro rfl
    induction t with
    | nil => rfl
    | cons c t ih =>
      by_cases hc : c = '\\'
      · subst hc
        show undouble ('\\' :: '\\' :: doubled t) = _
        rw [undouble, ih]
        rfl
      · have hcons : doubled (c :: t) = c :: doubled t := by simp [doubled, hc]
        rw [hcons, undouble.eq_3 _ _ (fun _ h => absurd h hc), ih, require,
          if_pos (decide_eq_true hc)]
        rfl

lemma checkText_doubled (t : List Char) : checkText control (doubled t) = checkText control t := by
  have hany : (doubled t).any control = t.any control := by
    rw [doubled, List.any_flatMap]
    congr 1
    funext c
    by_cases hc : c = '\\' <;> simp [hc]
  rw [checkText, checkText, hany]

/-- The field data of a text is read back as the text, and nothing else is read as it. -/
theorem field_data_round_trip (s t : List Char) :
    fieldData control dataMatrix s = .ok t ↔ escapeField control dataMatrix t = .ok s := by
  cases dataMatrix
  · simp only [fieldData, escapeField, bind_ok, pure_ok, unescape_iff, Bool.false_eq_true, if_false]
    constructor
    · rintro ⟨text, rfl, _, hcheck, rfl⟩
      exact ⟨_, hcheck, rfl⟩
    · rintro ⟨_, hcheck, rfl⟩
      exact ⟨t, rfl, _, hcheck, rfl⟩
  · simp only [fieldData, escapeField, bind_ok, pure_ok, unescape_iff, undouble_iff, if_true]
    constructor
    · rintro ⟨text, rfl, _, hcheck, rfl⟩
      exact ⟨_, checkText_doubled control t ▸ hcheck, rfl⟩
    · rintro ⟨_, hcheck, rfl⟩
      exact ⟨_, rfl, _, (checkText_doubled control t).trans hcheck, rfl⟩

end Inari.Labels
