import Mathlib

/-!
# Key expressions

In a key expression, `*` stands for one chunk of a key, `**` for any number of chunks, and `$*`
for any characters inside a chunk; none stands for a chunk that starts with an at sign.
-/

namespace Inari.Lib

abbrev Chunk := List Char

def chunks (text : String) : List Chunk := text.toList.splitOn '/'

/-- The chunks of two texts with a slash between them -/
lemma chunks_slash (a b : String) : chunks (a ++ "/" ++ b) = chunks a ++ chunks b := by
  have hslash : (a ++ "/" ++ b).toList = a.toList ++ '/' :: b.toList := by
    simp [String.toList_append]
  rw [chunks, hslash, List.splitOn_append_cons_self]
  rfl

lemma chunks_single {text : String} (h : '/' ∉ text.toList) : chunks text = [text.toList] :=
  List.splitOn_eq_singleton h

def verbatim (chunk : Chunk) : Bool := chunk.head? == some '@'

/-- `$*` stands for any characters. -/
def globChunk : Chunk → Chunk → Bool
  | [], chunk => chunk.isEmpty
  | '$' :: '*' :: pattern, chunk => chunk.tails.any (globChunk pattern)
  | _ :: _, [] => false
  | p :: pattern, c :: chunk => p == c && globChunk pattern chunk

def chunkMatches (pattern chunk : Chunk) : Bool :=
  if verbatim pattern || verbatim chunk then pattern == chunk
  else pattern == ['*'] || globChunk pattern chunk

/-- What may follow after `**`. -/
def restsOf : List Chunk → List (List Chunk)
  | [] => [[]]
  | chunk :: chunks => (chunk :: chunks) :: if verbatim chunk then [] else restsOf chunks

def matchChunks : List Chunk → List Chunk → Bool
  | [], key => key.isEmpty
  | pattern :: patterns, key =>
    if pattern == ['*', '*'] then (restsOf key).any (matchChunks patterns)
    else
      match key with
      | [] => false
      | chunk :: key => chunkMatches pattern chunk && matchChunks patterns key

def keyMatches (expression key : String) : Bool := matchChunks (chunks expression) (chunks key)

/-- A chunk without wildcards -/
def LiteralChunk (chunk : Chunk) : Prop := ∀ c ∈ chunk, c ≠ '*' ∧ c ≠ '$'

instance (chunk : Chunk) : Decidable (LiteralChunk chunk) :=
  inferInstanceAs (Decidable (∀ c ∈ chunk, c ≠ '*' ∧ c ≠ '$'))

/-- A key, as opposed to an expression -/
def IsKey (key : String) : Prop := ∀ chunk ∈ chunks key, LiteralChunk chunk

instance (key : String) : Decidable (IsKey key) :=
  inferInstanceAs (Decidable (∀ chunk ∈ chunks key, LiteralChunk chunk))

variable {pattern : Chunk} {key : String}

lemma globChunk_literal (h : LiteralChunk pattern) (chunk : Chunk) :
    globChunk pattern chunk = (pattern == chunk) := by
  induction pattern generalizing chunk with
  | nil => cases chunk <;> rfl
  | cons p pattern ih =>
    have hp : p ≠ '$' := (h p List.mem_cons_self).2
    have hrest := ih (fun c hc => h c (List.mem_cons_of_mem _ hc))
    cases chunk with
    | nil =>
      rw [globChunk.eq_3 _ _ (by rintro _ rfl; exact absurd rfl hp)]
      rfl
    | cons =>
      rw [globChunk.eq_4 _ _ _ _ (by rintro _ rfl; exact absurd rfl hp), hrest]
      rfl

lemma chunkMatches_literal {chunk : Chunk} (h : LiteralChunk pattern) :
    chunkMatches pattern chunk = (pattern == chunk) := by
  unfold chunkMatches
  split
  · rfl
  · have hstar : (pattern == ['*']) = false := by
      rw [beq_eq_false_iff_ne]
      rintro rfl
      exact absurd rfl (h '*' (List.mem_singleton_self _)).1
    rw [hstar, Bool.false_or, globChunk_literal h]

lemma matchChunks_literal {patterns key : List Chunk} (h : LiteralChunk pattern) :
    matchChunks (pattern :: patterns) key = true ↔
      ∃ rest, key = pattern :: rest ∧ matchChunks patterns rest = true := by
  have hstars : (pattern == ['*', '*']) = false := by
    rw [beq_eq_false_iff_ne]
    rintro rfl
    exact absurd rfl (h '*' List.mem_cons_self).1
  cases key with
  | nil => simp [matchChunks, hstars]
  | cons chunk key =>
    simp only [matchChunks, hstars, Bool.false_eq_true, if_false, Bool.and_eq_true,
      chunkMatches_literal h, beq_iff_eq, List.cons.injEq]
    constructor
    · rintro ⟨rfl, hrest⟩
      exact ⟨key, ⟨rfl, rfl⟩, hrest⟩
    · rintro ⟨rest, ⟨rfl, rfl⟩, hrest⟩
      exact ⟨rfl, hrest⟩

/-- By induction on the literal chunks: each takes one chunk of the key. -/
lemma matchChunks_append {literals patterns key : List Chunk}
    (h : ∀ chunk ∈ literals, LiteralChunk chunk) :
    matchChunks (literals ++ patterns) key = true ↔
      ∃ rest, key = literals ++ rest ∧ matchChunks patterns rest = true := by
  induction literals generalizing key with
  | nil => simp
  | cons chunk literals ih =>
    have hrest : ∀ c ∈ literals, LiteralChunk c := fun c hc => h c (List.mem_cons_of_mem _ hc)
    rw [List.cons_append, matchChunks_literal (h chunk List.mem_cons_self)]
    constructor
    · rintro ⟨key', rfl, hkey⟩
      obtain ⟨rest, rfl, hmatch⟩ := (ih hrest).mp hkey
      exact ⟨rest, rfl, hmatch⟩
    · rintro ⟨rest, rfl, hmatch⟩
      exact ⟨literals ++ rest, rfl, (ih hrest).mpr ⟨rest, rfl, hmatch⟩⟩

lemma keyMatches_of_isKey {other : String} (h : IsKey key) :
    keyMatches key other = true ↔ chunks other = chunks key := by
  have happend := @matchChunks_append (chunks key) [] (chunks other) h
  rw [List.append_nil] at happend
  rw [keyMatches, happend]
  constructor
  · rintro ⟨rest, heq, hrest⟩
    rw [List.isEmpty_iff.mp hrest, List.append_nil] at heq
    exact heq
  · intro heq
    exact ⟨[], by rw [List.append_nil, heq], rfl⟩

/-- The key begins with the chunks of the namespace. -/
def Under (space key : String) : Prop := chunks space <+: chunks key

lemma under_of_keyMatches {space path : String}
    (hliteral : ∀ chunk ∈ chunks space, LiteralChunk chunk)
    (h : keyMatches (space ++ "/" ++ path) key = true) : Under space key := by
  rw [keyMatches, chunks_slash, matchChunks_append hliteral] at h
  obtain ⟨rest, hkey, -⟩ := h
  exact ⟨rest, hkey.symm⟩

/-- Two names below one place have no key in common. -/
lemma eq_of_under {space a b : String} (ha : '/' ∉ a.toList) (hb : '/' ∉ b.toList)
    (hunder : Under (space ++ "/" ++ a) key) (hunder' : Under (space ++ "/" ++ b) key) : a = b := by
  obtain ⟨rest, hkey⟩ := hunder
  obtain ⟨rest', hkey'⟩ := hunder'
  rw [chunks_slash, chunks_single ha, List.append_assoc] at hkey
  rw [chunks_slash, chunks_single hb, List.append_assoc, ← hkey] at hkey'
  have htail := List.append_cancel_left hkey'
  simp only [List.cons_append, List.nil_append, List.cons.injEq] at htail
  exact String.toList_inj.mp htail.1.symm

end Inari.Lib
