import Inari.Agent.SpoolCrypto

/-!
# Associated data separates encryptions

The associated data is read back field by field up to the kind or the suffix of wrapped keys.
-/

namespace Inari.Agent.SpoolCrypto

open Lib

/-- What stands after the job and the intent. -/
def Protected.suffix : Protected → Bytes
  | .artifact kind =>
    bigEndian 4 (encode (artifactKindValue kind)).length ++ encode (artifactKindValue kind)
  | .wrappedKey version => wrappedKeySuffix ++ bigEndian 4 version.toNat

def Protected.Valid : Protected → Prop
  | .artifact _ => True
  | .wrappedKey version => 1 ≤ version ∧ version ≤ 0xFFFFFFFF

lemma suffix_injective {p p' : Protected} (hp : p.Valid) (hp' : p'.Valid)
    (h : p.suffix = p'.suffix) : p = p' := by
  -- the second byte tells a wrapped key from a document
  have hkind : ∀ kind version,
      (Protected.artifact kind).suffix ≠ (Protected.wrappedKey version).suffix := by
    intro kind version heq
    have hbyte := congrArg (fun bytes : Bytes => bytes[1]?) heq
    have hkey : (Protected.wrappedKey version).suffix[1]? = wrappedKeySuffix[1]? :=
      List.getElem?_append_left (by decide +kernel)
    rw [hkey] at hbyte
    revert hbyte
    cases kind <;> decide +kernel
  cases p with
  | artifact kind =>
    cases p' with
    | artifact kind' =>
      revert h
      cases kind <;> cases kind' <;> decide +kernel
    | wrappedKey version => exact (hkind kind version h).elim
  | wrappedKey version =>
    cases p' with
    | artifact kind => exact (hkind kind version h.symm).elim
    | wrappedKey version' =>
      obtain ⟨hlow, hhigh⟩ := hp
      obtain ⟨hlow', hhigh'⟩ := hp'
      have hversion := bigEndian_injective (by omega) (by omega) (List.append_cancel_left h)
      rw [show version = version' by omega]

def framed (value : Bytes) : Bytes := bigEndian 4 value.length ++ value

lemma framed_readsBack : ReadsBack framed (fun value => value.length < 256 ^ 4) :=
  readsBack_of_length (length_bigEndian 4) (fun _ _ hm hn => bigEndian_injective hm hn)

lemma aadField_ok {value : String} {field : Bytes} (h : aadField value = .ok field) :
    (encode value).length < 256 ^ 4 ∧ field = framed (encode value) := by
  simp only [aadField, bind_ok, require_ok, pure_ok, Bool.and_eq_true, decide_eq_true_eq] at h
  obtain ⟨-, ⟨-, hsize⟩, rfl⟩ := h
  exact ⟨hsize.trans_lt (by decide), rfl⟩

variable {c c' : EncryptionContext} {aad : Bytes}

lemma aad_ok (h : c.aad = .ok aad) :
    c.content.Valid ∧ (encode c.jobId).length < 256 ^ 4 ∧ (encode c.intentId).length < 256 ^ 4 ∧
      aad = (aadPrefix ++ [formatVersion]) ++
        (framed (encode c.jobId) ++ (framed (encode c.intentId) ++ c.content.suffix)) := by
  unfold EncryptionContext.aad at h
  cases hcontent : c.content with
  | artifact =>
    simp only [hcontent, artifactAad, jobAad, bind_ok, pure_ok] at h
    obtain ⟨-, -, -, -, _, ⟨_, hjob, _, hintent, rfl⟩, _, hkind, rfl⟩ := h
    obtain ⟨hjobSize, rfl⟩ := aadField_ok hjob
    obtain ⟨hintentSize, rfl⟩ := aadField_ok hintent
    obtain ⟨-, rfl⟩ := aadField_ok hkind
    refine ⟨trivial, hjobSize, hintentSize, ?_⟩
    simp only [Protected.suffix, framed, List.append_assoc]
  | wrappedKey =>
    simp only [hcontent, wrappedKeyAad, jobAad, validateRootKeyVersion, bind_ok, require_ok,
      decide_eq_true_eq, pure_ok] at h
    obtain ⟨-, -, -, -, -, hversion, _, ⟨_, hjob, _, hintent, rfl⟩, rfl⟩ := h
    obtain ⟨hjobSize, rfl⟩ := aadField_ok hjob
    obtain ⟨hintentSize, rfl⟩ := aadField_ok hintent
    refine ⟨hversion, hjobSize, hintentSize, ?_⟩
    simp only [Protected.suffix, List.append_assoc]

/-- The associated data is the same exactly for the same job, intent and protected kind or root key.
-/
theorem associated_data_separates (h : c.aad = .ok aad) :
    c'.aad = .ok aad ↔
      c'.jobId = c.jobId ∧ c'.intentId = c.intentId ∧ c'.content = c.content := by
  constructor
  · intro h'
    obtain ⟨hvalid, hjob, hintent, rfl⟩ := aad_ok h
    obtain ⟨hvalid', hjob', hintent', heq⟩ := aad_ok h'
    obtain ⟨hjobs, hrest⟩ := framed_readsBack _ _ hjob hjob' _ _ (List.append_cancel_left heq)
    obtain ⟨hintents, hsuffix⟩ := framed_readsBack _ _ hintent hintent' _ _ hrest
    exact ⟨(encode_injective hjobs).symm, (encode_injective hintents).symm,
      (suffix_injective hvalid hvalid' hsuffix).symm⟩
  · rintro ⟨hjob, hintent, hcontent⟩
    rw [← h, EncryptionContext.aad, EncryptionContext.aad, hjob, hintent, hcontent]

def sampleContext : EncryptionContext :=
  ⟨"admission", "artifact", 1, "job", "intent", .artifact .original⟩

theorem associated_data_of_wrapped_key :
    sampleContext.aad.toOption.isSome = true ∧
      { sampleContext with content := .wrappedKey 1 }.aad ≠ sampleContext.aad := by
  have hok : sampleContext.aad.toOption.isSome = true := by decide +kernel
  refine ⟨hok, fun heq => ?_⟩
  cases haad : sampleContext.aad with
  | error => simp [haad, Except.toOption] at hok
  | ok =>
    obtain ⟨-, -, hcontent⟩ := (associated_data_separates haad).mp (heq.trans haad)
    cases hcontent

theorem associated_data_omits_rows :
    ∃ c c' : EncryptionContext, (∃ aad, c.aad = .ok aad ∧ c'.aad = .ok aad) ∧
      c.admissionId ≠ c'.admissionId ∧ c.rowId ≠ c'.rowId ∧ c.formatVersion ≠ c'.formatVersion := by
  refine ⟨sampleContext, ⟨"other", "another", 2, "job", "intent", .artifact .original⟩, ?_,
    by decide, by decide, by decide⟩
  cases haad : sampleContext.aad with
  | error =>
    have hok : sampleContext.aad.toOption.isSome = true := by decide +kernel
    simp [haad, Except.toOption] at hok
  | ok aad => exact ⟨aad, rfl, haad⟩

end Inari.Agent.SpoolCrypto
