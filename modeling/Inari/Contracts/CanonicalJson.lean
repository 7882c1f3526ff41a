import Inari.Contracts.Validation

/-!
# Canonical JSON

The order in which RFC 8785 writes the fields of an object, and how a model reads a value in that
order.
-/

namespace Inari

/-- The UTF-16 code units, by which RFC 8785 orders the names of fields. -/
def utf16 (s : String) : List Nat :=
  s.toList.flatMap fun c =>
    if c.toNat < 0x10000 then [c.toNat]
    else [0xD800 + (c.toNat - 0x10000) / 0x400, 0xDC00 + (c.toNat - 0x10000) % 0x400]

/-- The order of fields by their names. -/
def fieldLe (a b : String × Json) : Prop := utf16 a.1 ≤ utf16 b.1

instance : DecidableRel fieldLe := fun _ _ => inferInstanceAs (Decidable (_ ≤ _))

instance : Std.Total fieldLe := ⟨fun _ _ => le_total _ _⟩

instance : IsTrans _ fieldLe := ⟨fun _ _ _ => le_trans⟩

mutual

/-- The value with the fields of its objects in the order of RFC 8785. -/
def Json.sorted : Json → Json
  | .arr items => .arr (sortedItems items)
  | .obj fields => .obj (sortedFields fields)
  | j => j

def sortedItems : List Json → List Json
  | [] => []
  | j :: js => j.sorted :: sortedItems js

def sortedFields : List (String × Json) → List (String × Json)
  | [] => []
  | (name, j) :: fields => (sortedFields fields).orderedInsert fieldLe (name, j.sorted)

end

lemma lookup_orderedInsert (name n : String) (j : Json) (fields : List (String × Json)) :
    (fields.orderedInsert fieldLe (name, j)).lookup n = ((name, j) :: fields).lookup n := by
  induction fields with
  | nil => rfl
  | cons f fields ih =>
    rw [List.orderedInsert_cons]
    split
    · rfl
    · rename_i hle
      have hne : f.1 ≠ name := fun h => hle (h ▸ le_refl (utf16 f.1))
      rw [List.lookup_cons, ih]
      by_cases hn : n = name
      · simp [hn, beq_false_of_ne hne.symm]
      · simp [List.lookup, beq_false_of_ne hn]

@[simp] lemma lookup_sortedFields (n : String) (fields : List (String × Json)) :
    (sortedFields fields).lookup n = (fields.lookup n).map Json.sorted := by
  induction fields with
  | nil => rfl
  | cons f fields ih =>
    rw [sortedFields, lookup_orderedInsert, List.lookup_cons, List.lookup_cons, ih]
    cases n == f.1 <;> rfl

lemma name_of_mem_sortedFields {f : String × Json} {fields : List (String × Json)}
    (hf : f ∈ sortedFields fields) : f.1 ∈ fields.map Prod.fst := by
  induction fields with
  | nil => cases hf
  | cons g fields ih =>
    rcases (List.mem_orderedInsert _).mp hf with rfl | hf
    · exact List.mem_cons_self
    · exact List.mem_cons_of_mem _ (ih hf)

lemma sortedFields_eq (fields : List (String × Json)) :
    sortedFields fields = (fields.map (fun f => (f.1, f.2.sorted))).insertionSort fieldLe := by
  induction fields with
  | nil => rfl
  | cons f fields ih => rw [sortedFields, ih]; rfl

lemma sortedFields_of_sorted {fields : List (String × Json)}
    (h : ∀ f ∈ sortedFields fields, f.2.sorted = f.2) :
    sortedFields (sortedFields fields) = sortedFields fields := by
  have hvalues : (sortedFields fields).map (fun f => (f.1, f.2.sorted)) = sortedFields fields := by
    rw [List.map_congr_left (g := id) (fun f hf => by rw [h f hf]; rfl), List.map_id]
  rw [sortedFields_eq, hvalues, sortedFields_eq]
  exact (List.pairwise_insertionSort _ _).insertionSort_eq

mutual

/-- The canonical order is kept when a value is sorted again. -/
lemma Json.sorted_sorted : (j : Json) → j.sorted.sorted = j.sorted
  | .arr items => by rw [Json.sorted, Json.sorted, sortedItems_sorted items]
  | .obj fields => by rw [Json.sorted, Json.sorted, sortedFields_of_sorted (value_sorted fields)]
  | .null | .bool _ | .int _ | .float _ | .str _ => rfl

lemma sortedItems_sorted : (items : List Json) →
    sortedItems (sortedItems items) = sortedItems items
  | [] => rfl
  | j :: js => by rw [sortedItems, sortedItems, Json.sorted_sorted j, sortedItems_sorted js]

lemma value_sorted : (fields : List (String × Json)) →
    ∀ f ∈ sortedFields fields, f.2.sorted = f.2
  | [], _, h => by cases h
  | (_, j) :: fields, f, h => by
    rcases (List.mem_orderedInsert _).mp h with rfl | h
    · exact Json.sorted_sorted j
    · exact value_sorted fields f h

end

@[simp] lemma sortedItems_map_int (ns : List Int) : sortedItems (ns.map .int) = ns.map .int := by
  induction ns with
  | nil => rfl
  | cons n ns ih => rw [List.map_cons, sortedItems, ih]; rfl

namespace Read

variable {fields : List (String × Json)} {names : List String}

lemma forbidExtra_of (h : ∀ n ∈ fields.map Prod.fst, n ∈ names) :
    forbidExtra names fields = .ok () := by
  have hfind : fields.find? (fun f => !names.contains f.1) = none := by
    simpa using fun name j hf => h _ (List.mem_map_of_mem hf)
  rw [forbidExtra, hfind]

@[simp] lemma forbidExtra_sorted (h : ∀ n ∈ fields.map Prod.fst, n ∈ names) :
    forbidExtra names (sortedFields fields) = .ok () := by
  apply forbidExtra_of
  rintro n hn
  obtain ⟨f, hf, rfl⟩ := List.mem_map.mp hn
  exact h _ (name_of_mem_sortedFields hf)

end Read

/-- The text of a value is read back in order, and does not depend on the order of its fields. -/
structure WireTools.Canonicalizes (tools : WireTools) (j : Json) : Prop where
  reads : tools.loads (tools.canonical j) = some j.sorted
  order : tools.canonical j.sorted = tools.canonical j
  nonempty : tools.canonical j ≠ []

end Inari
