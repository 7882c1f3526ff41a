import Inari.Contracts.DeviceWork
import Inari.Proofs.CommandDelivery

/-!
# Payload fingerprints of the two languages

The Controller and the Agent hash the same bytes, which determine each of their seven fields.
-/

namespace Inari

open Lib

lemma chronoYear_injective {year year' : Int} (h : chronoYear year = chronoYear year') :
    year = year' := by
  have hsize : ∀ n : Nat, n < 10 ^ max 4 (Nat.log 10 n + 1) := fun n =>
    (Nat.lt_pow_succ_log_self (by decide) n).trans_le
      (Nat.pow_le_pow_right (by decide) (le_max_right _ _))
  have hsign : ∀ (y : Int) (text : List Char), chronoYear y = text → ¬(0 ≤ y ∧ y < 10000) →
      5 ≤ text.length := by
    rintro y _ rfl hy
    rw [chronoYear, if_neg hy, List.length_cons, length_decimal]
    omega
  by_cases hy : 0 ≤ year ∧ year < 10000
  · by_cases hy' : 0 ≤ year' ∧ year' < 10000
    · rw [chronoYear, chronoYear, if_pos hy, if_pos hy'] at h
      have := decimal_injective (by omega) (by omega) h
      omega
    · have := hsign year' _ h.symm hy'
      rw [chronoYear, if_pos hy, length_decimal] at this
      omega
  · by_cases hy' : 0 ≤ year' ∧ year' < 10000
    · have := hsign year _ h hy
      rw [chronoYear, if_pos hy', length_decimal] at this
      omega
    · rw [chronoYear, chronoYear, if_neg hy, if_neg hy'] at h
      obtain ⟨hhead, htail⟩ := List.cons.inj h
      have hwidth := congrArg List.length htail
      rw [length_decimal, length_decimal] at hwidth
      rw [← hwidth] at htail
      have habs := decimal_injective (hsize _) (hwidth ▸ hsize _) htail
      split_ifs at hhead
      · omega
      · cases hhead
      · cases hhead
      · omega

lemma clockText_injective {month day hour minute second micro month' day' hour' minute' second'
    micro' : Nat} (hmonth : month < 100 ∧ month' < 100) (hday : day < 100 ∧ day' < 100)
    (hhour : hour < 100 ∧ hour' < 100) (hminute : minute < 100 ∧ minute' < 100)
    (hsecond : second < 100 ∧ second' < 100) (hmicro : micro < 1000000 ∧ micro' < 1000000)
    (h : clockText month day hour minute second micro =
      clockText month' day' hour' minute' second' micro') :
    month = month' ∧ day = day' ∧ hour = hour' ∧ minute = minute' ∧ second = second' ∧
      micro = micro' := by
  -- one field at a time: its separator, then digits of a fixed width
  have peel : ∀ {c : Char} {width m n : Nat} {rest rest' : List Char},
      m < 10 ^ width ∧ n < 10 ^ width → c :: (decimal width m ++ rest) =
        c :: (decimal width n ++ rest') → m = n ∧ rest = rest' := by
    intro c width m n rest rest' hlt heq
    obtain ⟨hdigits, hrest⟩ := List.append_inj (List.cons.inj heq).2 (by simp)
    exact ⟨decimal_injective hlt.1 hlt.2 hdigits, hrest⟩
  obtain ⟨hmonth, h⟩ := peel hmonth h
  obtain ⟨hday, h⟩ := peel hday h
  obtain ⟨hhour, h⟩ := peel hhour h
  obtain ⟨hminute, h⟩ := peel hminute h
  obtain ⟨hsecond, h⟩ := peel hsecond h
  obtain ⟨hmicro, -⟩ := peel hmicro h
  exact ⟨hmonth, hday, hhour, hminute, hsecond, hmicro⟩

lemma ofList_injective {cs cs' : List Char} (h : String.ofList cs = String.ofList cs') : cs = cs' := by
  rw [← String.toList_ofList (l := cs), h, String.toList_ofList]

lemma daysInMonth_le (leap : Bool) (month : Nat) : daysInMonth leap month ≤ 31 := by
  unfold daysInMonth
  split
  · split <;> omega
  all_goals omega

lemma date_small (d : Date) : d.month < 100 ∧ d.day < 100 := by
  have hmonth := d.month_le
  have hday := d.day_le.trans (daysInMonth_le _ _)
  omega

structure SameMicrosecond (t t' : ChronoUtc) : Prop where
  year : t.year = t'.year
  ordinal : t.ordinal = t'.ordinal
  secs : t.secs = t'.secs
  frac : t.frac / 1000 = t'.frac / 1000

lemma chrono_small (t : ChronoUtc) : t.secs / 3600 < 100 ∧ t.secs / 60 % 60 < 100 ∧
    t.secs % 60 + t.frac / 1000000000 < 100 ∧ t.frac % 1000000000 / 1000 < 1000000 := by
  have hsecs := t.secs_lt
  have hfrac := t.frac_lt
  omega

theorem chrono_deadline_iff {t t' : ChronoUtc} : t.deadline = t'.deadline ↔ SameMicrosecond t t' := by
  constructor
  · intro h
    have htext := ofList_injective (encode_injective h)
    rw [format_eq, format_eq] at htext
    obtain ⟨hyear, hclock⟩ := List.append_inj' htext (by rw [length_clockText, length_clockText])
    have hyear := chronoYear_injective hyear
    have hsmall := chrono_small t
    have hsmall' := chrono_small t'
    obtain ⟨hmonth, hday, hhour, hminute, hsecond, hmicro⟩ := clockText_injective
      ⟨(date_small t.date).1, (date_small t'.date).1⟩ ⟨(date_small t.date).2, (date_small t'.date).2⟩
      ⟨hsmall.1, hsmall'.1⟩ ⟨hsmall.2.1, hsmall'.2.1⟩ ⟨hsmall.2.2.1, hsmall'.2.2.1⟩
      ⟨hsmall.2.2.2, hsmall'.2.2.2⟩ hclock
    have hordinal : t.date.ordinal = t'.date.ordinal := by
      change daysBeforeMonth (isLeap t.year) t.date.month + t.date.day =
        daysBeforeMonth (isLeap t'.year) t'.date.month + t'.date.day
      rw [hyear, hmonth, hday]
    rw [ChronoUtc.date, ChronoUtc.date, Date.ordinal_ofOrdinal, Date.ordinal_ofOrdinal] at hordinal
    -- a leap second shows in the seconds, since it follows the last one of a minute
    have hleap := t.leap_second
    have hleap' := t'.leap_second
    have hlt := t.frac_lt
    have hlt' := t'.frac_lt
    have hwhole : t.frac / 1000000000 = t'.frac / 1000000000 := by omega
    exact ⟨hyear, hordinal, by omega, by omega⟩
  · rintro ⟨hyear, hordinal, hsecs, hfrac⟩
    have hdate : t.date = t'.date := by
      refine Date.eq_of_ordinal hyear ?_
      rw [ChronoUtc.date, ChronoUtc.date, Date.ordinal_ofOrdinal, Date.ordinal_ofOrdinal, hordinal]
    have hwhole : t.frac / 1000000000 = t'.frac / 1000000000 := by omega
    have hmicro : t.frac % 1000000000 / 1000 = t'.frac % 1000000000 / 1000 := by omega
    rw [ChronoUtc.deadline, ChronoUtc.deadline, format_eq, format_eq, hyear, hdate, hsecs, hwhole,
      hmicro]

variable {p : PyDatetime}

lemma strftime_parts {p' : PyDatetime} (hdate : p.date = p'.date) (hhour : p.hour = p'.hour)
    (hminute : p.minute = p'.minute) (hsecond : p.second = p'.second)
    (hmicro : p.microsecond = p'.microsecond) : formatDeadline p = formatDeadline p' := by
  rw [formatDeadline, formatDeadline, strftime_eq, strftime_eq, hdate, hhour, hminute, hsecond, hmicro]

theorem py_deadline_iff {p' : PyDatetime} : formatDeadline p = formatDeadline p' ↔
    p.instant = p'.instant := by
  have hrange := p.year_range
  have hrange' := p'.year_range
  have hhour := p.hour_lt
  have hhour' := p'.hour_lt
  have hminute := p.minute_lt
  have hminute' := p'.minute_lt
  have hsecond := p.second_lt
  have hsecond' := p'.second_lt
  have hmicro := p.microsecond_lt
  have hmicro' := p'.microsecond_lt
  constructor
  · intro h
    have htext := ofList_injective (encode_injective h)
    rw [strftime_eq, strftime_eq] at htext
    obtain ⟨hyear, hclock⟩ := List.append_inj htext (by rw [length_decimal, length_decimal])
    have hyear := decimal_injective (by omega) (by omega) hyear
    have hyear : p.date.year = p'.date.year := by omega
    obtain ⟨hmonth, hday, hh, hm, hs, hf⟩ := clockText_injective
      ⟨(date_small p.date).1, (date_small p'.date).1⟩ ⟨(date_small p.date).2, (date_small p'.date).2⟩
      ⟨by omega, by omega⟩ ⟨by omega, by omega⟩ ⟨by omega, by omega⟩ ⟨hmicro, hmicro'⟩ hclock
    have hdate : p.date = p'.date := by
      refine Date.eq_of_ordinal hyear ?_
      rw [Date.ordinal, Date.ordinal, hyear, hmonth, hday]
    rw [PyDatetime.instant, PyDatetime.instant, hdate, hh, hm, hs, hf]
  · intro h
    unfold PyDatetime.instant at h
    exact strftime_parts (Date.number_injective (by omega)) (by omega) (by omega) (by omega)
      (by omega)

theorem deadlines_agree {t : ChronoUtc} (h : p.Denotes t) : formatDeadline p = t.deadline := by
  obtain ⟨hwhole, hinstant⟩ := h
  have hrange := p.year_range
  have hhour := p.hour_lt
  have hminute := p.minute_lt
  have hsecond := p.second_lt
  have hmicro := p.microsecond_lt
  have hsecs := t.secs_lt
  unfold PyDatetime.instant ChronoUtc.instant at hinstant
  have hdate : p.date = t.date := Date.number_injective (by omega)
  have hclock : p.hour = t.secs / 3600 ∧ p.minute = t.secs / 60 % 60 ∧
      p.second = t.secs % 60 + t.frac / 1000000000 ∧
      p.microsecond = t.frac % 1000000000 / 1000 := by omega
  have hyear : p.date.year = t.year := by rw [hdate]; rfl
  have htext : chronoYear t.year = decimal 4 p.date.year.toNat := by
    rw [chronoYear, if_pos (by omega), hyear]
  rw [formatDeadline, ChronoUtc.deadline, strftime_eq, format_eq, htext, hdate, hclock.1, hclock.2.1,
    hclock.2.2.1, hclock.2.2.2]

lemma length_encode (s : String) : (encode s).length = s.utf8ByteSize := rfl

lemma length_encode_le (s : String) : (encode s).length ≤ 4 * s.length := by
  rw [length_encode]
  induction s using String.push_induction with
  | empty => simp
  | push s c =>
    have hc := c.utf8Size_le_four
    rw [String.length_push, String.utf8ByteSize_push]
    omega

lemma length_deadline_le (t : ChronoUtc) : t.deadline.length ≤ 4 * 30 := by
  have hyear : (chronoYear t.year).length ≤ 7 := by
    have hrange := t.year_range
    have hlog : Nat.log 10 t.year.natAbs < 6 := Nat.log_lt_of_lt_pow' (by decide) (by omega)
    unfold chronoYear
    split
    · rw [length_decimal]
      omega
    · rw [List.length_cons, length_decimal]
      omega
  refine (length_encode_le _).trans ?_
  rw [String.length_ofList, format_eq, List.length_append, length_clockText]
  omega

lemma lengthPrefix_readsBack : ReadsBack lengthPrefix (fun value => value.length < 2 ^ 64) :=
  readsBack_of_length (length_bigEndian 8) (fun _ _ hm hn => bigEndian_injective hm hn)

lemma framed_injective {fields fields' : List Bytes} (h : ∀ f ∈ fields, f.length < 2 ^ 64)
    (h' : ∀ f ∈ fields', f.length < 2 ^ 64) (hlength : fields.length = fields'.length)
    (heq : fingerprintFormat ++ fields.flatMap lengthPrefix =
      fingerprintFormat ++ fields'.flatMap lengthPrefix) : fields = fields' :=
  lengthPrefix_readsBack.flatMap_injective h h' hlength (List.append_cancel_left heq)

variable {tools : FingerprintTools}

lemma checkedLengthPrefix_ok {value part : Bytes} : checkedLengthPrefix value = .ok part ↔
    value.length < 2 ^ 64 ∧ part = lengthPrefix value := by
  simp only [checkedLengthPrefix, bind_ok, require_ok, pure_ok, decide_eq_true_eq, exists_const]
  refine and_congr ?_ eq_comm
  unfold maxFieldLength
  omega

lemma mapM_checkedLengthPrefix {fields parts : List Bytes} :
    fields.mapM checkedLengthPrefix = .ok parts ↔
      (∀ f ∈ fields, f.length < 2 ^ 64) ∧ parts = fields.map lengthPrefix := by
  rw [mapM_ok]
  simp only [checkedLengthPrefix_ok]
  induction fields generalizing parts with
  | nil => simp
  | cons f fields ih =>
    rw [List.forall₂_cons_left_iff]
    constructor
    · rintro ⟨part, rest, ⟨hf, rfl⟩, hrest, rfl⟩
      obtain ⟨hall, rfl⟩ := ih.mp hrest
      exact ⟨List.forall_mem_cons.mpr ⟨hf, hall⟩, rfl⟩
    · rintro ⟨hall, rfl⟩
      obtain ⟨hf, hall⟩ := List.forall_mem_cons.mp hall
      exact ⟨_, _, ⟨hf, rfl⟩, ih.mpr ⟨hall, rfl⟩, rfl⟩

lemma representation_ok {work : DeviceWork} {bytes : Bytes} :
    work.representation tools = .ok bytes ↔ validateWork tools work = .ok () ∧
      (∀ f ∈ work.fields tools, f.length < 2 ^ 64) ∧
      bytes = fingerprintFormat ++ (work.fields tools).flatMap lengthPrefix := by
  simp only [DeviceWork.representation, bind_ok, pure_ok, mapM_checkedLengthPrefix, List.flatMap_def]
  constructor
  · rintro ⟨_, hvalid, parts, ⟨hall, rfl⟩, rfl⟩
    exact ⟨hvalid, hall, rfl⟩
  · rintro ⟨hvalid, hall, rfl⟩
    exact ⟨_, hvalid, _, ⟨hall, rfl⟩, rfl⟩

/-- What the fingerprint says of a work, with its options in canonical form. -/
structure DeviceWork.Same (tools : FingerprintTools) (work work' : DeviceWork) : Prop where
  contractMajor : work.contractMajor = work'.contractMajor
  operation : work.operation = work'.operation
  deviceId : work.deviceId = work'.deviceId
  mediaType : tools.normalizedMediaType work.mediaType = tools.normalizedMediaType work'.mediaType
  document : work.document = work'.document
  options : tools.canonicalizeOptions work.options = tools.canonicalizeOptions work'.options
  expiresAt : work.expiresAt.instant = work'.expiresAt.instant

theorem representation_separates {work work' : DeviceWork} {bytes bytes' : Bytes}
    (h : work.representation tools = .ok bytes) (h' : work'.representation tools = .ok bytes') :
    bytes = bytes' ↔ work.Same tools work' := by
  obtain ⟨hvalid, hsize, rfl⟩ := representation_ok.mp h
  obtain ⟨hvalid', hsize', rfl⟩ := representation_ok.mp h'
  have hmajor : ∀ w : DeviceWork, validateWork tools w = .ok () →
      0 ≤ w.contractMajor ∧ w.contractMajor ≤ 2 ^ 32 - 1 := by
    intro w hw
    simp only [validateWork, bind_ok, require_ok, decide_eq_true_eq] at hw
    exact hw.choose_spec.1
  constructor
  · intro heq
    have hfields := framed_injective hsize hsize' rfl heq
    simp only [DeviceWork.fields, List.cons.injEq, and_true] at hfields
    obtain ⟨hm, hop, hdev, hmedia, hdoc, hopts, hdead⟩ := hfields
    have hb := hmajor work hvalid
    have hb' := hmajor work' hvalid'
    have hm := bigEndian_injective (by omega) (by omega) hm
    exact ⟨by omega, encode_injective hop, encode_injective hdev, encode_injective hmedia, hdoc, hopts,
      py_deadline_iff.mp hdead⟩
  · rintro ⟨hm, hop, hdev, hmedia, hdoc, hopts, hdead⟩
    rw [DeviceWork.fields, DeviceWork.fields, hm, hop, hdev, hmedia, hdoc, hopts,
      py_deadline_iff.mpr hdead]

end Inari

namespace Inari.Controller

open Lib

def ManagedDeviceWork.forAgent (work : ManagedDeviceWork) (document : Bytes) (expiresAt : PyDatetime) :
    DeviceWork where
  contractMajor := work.contractMajor
  operation := work.document.operation.text
  deviceId := work.deviceId.text
  mediaType := work.document.operation.mediaType
  document := document
  options := .obj work.normalizedDeviceOptions
  expiresAt := expiresAt

/-- A submission that the Controller accepts, with its document. -/
structure Checked (submission : ManagedWorkSubmission) (document : Bytes) : Prop where
  validated : validateSubmission submission = .ok ()
  content : decodedDocument submission = .ok document

def LowersAscii (lower : String → String) : Prop :=
  ∀ s : String, (∀ c ∈ s.toList, c.toNat < 128 ∧ c.isUpper = false) → lower s = s

variable {submission submission' : ManagedWorkSubmission} {document document' : Bytes}
  {canonical : Json → Bytes}

lemma Checked.contractMajor (h : Checked submission document) : submission.work.contractMajor = 1 := by
  have hvalid := h.validated
  simp only [validateSubmission, bind_ok, require_ok, beq_iff_eq] at hvalid
  obtain ⟨_, hmajor, _, hsame, -⟩ := hvalid
  exact hsame.trans hmajor

lemma Checked.decoded (h : Checked submission document) :
    Base64.standard.decode submission.work.document.contentBase64 = some document ∧
      document.length ≤ documentLimit submission.work.document.operation := by
  have hdoc := h.content
  unfold decodedDocument at hdoc
  obtain ⟨decoded, hdecode, hdoc⟩ := bind_ok.mp hdoc
  obtain ⟨_, hlimit, hdoc⟩ := bind_ok.mp hdoc
  obtain rfl := pure_ok.mp hdoc
  rw [require_ok, Bool.and_eq_true, decide_eq_true_iff] at hlimit
  exact ⟨orRaise_ok.mp hdecode, hlimit.2⟩

lemma managedWorkRepresentation_eq (h : Checked submission document) (t : ChronoUtc) :
    managedWorkRepresentation canonical submission.work t = .ok (fingerprintFormat ++
      (workFields canonical submission.work document t.deadline).flatMap lengthPrefix) := by
  rw [managedWorkRepresentation, fingerprintBytes, h.decoded.1]
  rfl

lemma managedWorkFingerprint_eq {tools : WireTools} (h : Checked submission document)
    (expiresAt : Instant) :
    managedWorkFingerprint tools submission.work expiresAt = .ok (tools.sha256 (fingerprintFormat ++
      (workFields tools.canonical submission.work document
        (tools.formatDeadline expiresAt)).flatMap lengthPrefix)) := by
  rw [managedWorkFingerprint, fingerprintBytes, h.decoded.1]
  rfl

lemma fingerprintDeviceWork_eq (tools : WireTools) (work : ManagedDeviceWork) (document : Bytes)
    (expiresAt : Instant) :
    fingerprintDeviceWork tools.toDigestTools ⟨work.contractMajor, work.document.operation.text,
      work.deviceId.text, work.document.operation.mediaType, document,
      tools.canonical (.obj work.normalizedDeviceOptions), expiresAt⟩ =
    tools.sha256 (fingerprintFormat ++ (workFields tools.canonical work document
      (tools.formatDeadline expiresAt)).flatMap lengthPrefix) := rfl

lemma deviceId_size (id : DeviceId) : (encode id.text).length ≤ 96 := by
  have hvalid := id.valid
  simp only [isIdentifier, Bool.and_eq_true, decide_eq_true_eq] at hvalid
  exact hvalid.1.1.1

lemma workFields_size (h : Checked submission document)
    (hoptions : (canonical (.obj submission.work.normalizedDeviceOptions)).length < 2 ^ 64)
    (t : ChronoUtc) :
    ∀ f ∈ workFields canonical submission.work document t.deadline, f.length < 2 ^ 64 := by
  have hid := deviceId_size submission.work.deviceId
  have hdeadline := length_deadline_le t
  have hdocument : document.length ≤ 10 * 1024 * 1024 := by
    refine h.decoded.2.trans ?_
    cases submission.work.document.operation <;> simp [documentLimit]
  have hoperation : (encode submission.work.document.operation.text).length ≤ 14 ∧
      (encode submission.work.document.operation.mediaType).length ≤ 25 := by
    cases submission.work.document.operation <;> decide
  intro f hf
  simp only [workFields, List.mem_cons, List.not_mem_nil, or_false] at hf
  rcases hf with rfl | rfl | rfl | rfl | rfl | rfl | rfl
  · rw [length_bigEndian]
    omega
  · omega
  · omega
  · omega
  · omega
  · exact hoptions
  · omega

variable {lower : String → String}

lemma normalizedMediaType_eq (hlower : LowersAscii lower) (operation : ManagedDocumentOperation) :
    FingerprintTools.normalizedMediaType ⟨lower, canonical⟩ operation.mediaType =
      operation.mediaType := by
  have hplain : ∀ op : ManagedDocumentOperation, op.mediaType.toList.all (fun c =>
      !isPySpace c && decide (c.toNat < 128) && !c.isUpper) = true := by
    intro op
    cases op <;> decide
  have hplain : ∀ c ∈ operation.mediaType.toList, isPySpace c = false ∧ c.toNat < 128 ∧
      c.isUpper = false := by
    intro c hc
    have := List.all_eq_true.mp (hplain operation) c hc
    simpa [and_assoc] using this
  rw [FingerprintTools.normalizedMediaType, strip_of_forall (fun c hc => (hplain c hc).1)]
  exact hlower _ (fun c hc => (hplain c hc).2)

lemma forAgent_fields (hlower : LowersAscii lower) (work : ManagedDeviceWork) (document : Bytes)
    (p : PyDatetime) :
    (work.forAgent document p).fields ⟨lower, canonical⟩ =
      workFields canonical work document (formatDeadline p) := by
  rw [DeviceWork.fields, workFields]
  simp only [ManagedDeviceWork.forAgent, normalizedMediaType_eq hlower, Int.toNat_natCast]

lemma forAgent_valid (hlower : LowersAscii lower) (h : Checked submission document) (p : PyDatetime) :
    validateWork ⟨lower, canonical⟩ (submission.work.forAgent document p) = .ok () := by
  have hmajor := h.contractMajor
  have hid : submission.work.deviceId.text ≠ "" := by
    intro hempty
    have := (isIdentifier_spec submission.work.deviceId.valid).2.1
    rw [hempty] at this
    exact this rfl
  have hmedia : ∀ op : ManagedDocumentOperation,
      matchesMediaType op.mediaType.toList = true := by
    intro op
    cases op <;> decide
  have hoperation : ∀ op : ManagedDocumentOperation,
      ["receipt_image", "report_pdf", "label_document"].contains op.text = true := by
    intro op
    cases op <;> decide
  simp only [validateWork, bind_ok, require_ok, ManagedDeviceWork.forAgent, hmajor,
    normalizedMediaType_eq hlower, bne_iff_ne]
  exact ⟨(), by decide, (), hoperation _, (), hid, hmedia _⟩

structure SameWork (canonical : Json → Bytes) (work work' : ManagedDeviceWork)
    (document document' : Bytes) (t t' : ChronoUtc) : Prop where
  contractMajor : work.contractMajor = work'.contractMajor
  operation : work.document.operation = work'.document.operation
  deviceId : work.deviceId = work'.deviceId
  mediaType : work.document.operation.mediaType = work'.document.operation.mediaType
  document : document = document'
  options : canonical (.obj work.normalizedDeviceOptions) =
    canonical (.obj work'.normalizedDeviceOptions)
  expiresAt : SameMicrosecond t t'

lemma workFields_iff (h : Checked submission document) (h' : Checked submission' document')
    {t t' : ChronoUtc} :
    workFields canonical submission.work document t.deadline =
      workFields canonical submission'.work document' t'.deadline ↔
    SameWork canonical submission.work submission'.work document document' t t' := by
  simp only [workFields, List.cons.injEq, and_true]
  constructor
  · rintro ⟨-, hop, hdev, hmedia, hdoc, hopts, hdead⟩
    have hop : submission.work.document.operation = submission'.work.document.operation := by
      have htext := encode_injective hop
      revert htext
      cases submission.work.document.operation <;> cases submission'.work.document.operation <;>
        decide
    exact ⟨h.contractMajor.trans h'.contractMajor.symm, hop, Identifier.eq_of_text
      (encode_injective hdev), encode_injective hmedia, hdoc, hopts, chrono_deadline_iff.mp hdead⟩
  · rintro ⟨hmajor, hop, hdev, hmedia, hdoc, hopts, hdead⟩
    exact ⟨by rw [hmajor], by rw [hop], by rw [hdev], by rw [hmedia], hdoc, hopts,
      chrono_deadline_iff.mpr hdead⟩

/-- Rust and Python hash the same bytes, which determine each field and the deadline to the
microsecond. -/
theorem payload_fingerprints (tools : WireTools) (lower : String → String)
    (hlower : LowersAscii lower) :
    (∀ (submission : ManagedWorkSubmission) (document : Bytes), Checked submission document →
      (tools.canonical (.obj submission.work.normalizedDeviceOptions)).length < 2 ^ 64 →
      ∀ (t : ChronoUtc) (p : PyDatetime), p.Denotes t → ∃ bytes,
        managedWorkRepresentation tools.canonical submission.work t = .ok bytes ∧
        (submission.work.forAgent document p).representation ⟨lower, tools.canonical⟩ = .ok bytes ∧
        ∀ expiresAt, tools.formatDeadline expiresAt = t.deadline →
          managedWorkFingerprint tools submission.work expiresAt = .ok (tools.sha256 bytes) ∧
          fingerprintDeviceWork tools.toDigestTools ⟨submission.work.contractMajor,
            submission.work.document.operation.text, submission.work.deviceId.text,
            submission.work.document.operation.mediaType, document,
            tools.canonical (.obj submission.work.normalizedDeviceOptions), expiresAt⟩ =
              tools.sha256 bytes) ∧
    (∀ (submission submission' : ManagedWorkSubmission) (document document' : Bytes),
      Checked submission document → Checked submission' document' →
      (tools.canonical (.obj submission.work.normalizedDeviceOptions)).length < 2 ^ 64 →
      (tools.canonical (.obj submission'.work.normalizedDeviceOptions)).length < 2 ^ 64 →
      ∀ t t' : ChronoUtc,
        managedWorkRepresentation tools.canonical submission.work t =
            managedWorkRepresentation tools.canonical submission'.work t' ↔
          SameWork tools.canonical submission.work submission'.work document document' t t') ∧
    ∀ (work work' : DeviceWork) (bytes bytes' : Bytes),
      work.representation ⟨lower, tools.canonical⟩ = .ok bytes →
      work'.representation ⟨lower, tools.canonical⟩ = .ok bytes' →
      (bytes = bytes' ↔ work.Same ⟨lower, tools.canonical⟩ work') := by
  refine ⟨?_, ?_, fun work work' bytes bytes' h h' => representation_separates h h'⟩
  · intro submission document h hoptions t p hdenotes
    refine ⟨_, managedWorkRepresentation_eq h t, ?_, ?_⟩
    · rw [representation_ok, forAgent_fields hlower, deadlines_agree hdenotes]
      exact ⟨forAgent_valid hlower h p, workFields_size h hoptions t, rfl⟩
    · intro expiresAt hdeadline
      rw [managedWorkFingerprint_eq h, fingerprintDeviceWork_eq, hdeadline]
      exact ⟨rfl, rfl⟩
  · intro submission submission' document document' h h' hoptions hoptions' t t'
    rw [managedWorkRepresentation_eq h, managedWorkRepresentation_eq h', Except.ok.injEq,
      ← workFields_iff h h']
    constructor
    · exact framed_injective (workFields_size h hoptions t) (workFields_size h' hoptions' t') rfl
    · intro hfields
      rw [hfields]

/-- `tests/fixtures/device-work-fingerprint.json` -/
def fixtureSubmission : ManagedWorkSubmission := { sampleSubmission with
  payloadFingerprint := "f0179a31c7694be1a166b51e32f58a155fc65292bca29078e8ddc35946b1008a"
  work := { sampleSubmission.work with
    scope := { sampleScope with agentId := ⟨"agt_example", by decide +kernel⟩ }
    printIntentId := ⟨"pi_v1_test", by decide +kernel⟩
    origin := { sampleSubmission.work.origin with
      binding := { sampleBinding with
        reportContractDigest := "aaaaaaaaaaaaaaaaaaaaaaaaaaaaaaaaaaaaaaaaaaaaaaaaaaaaaaaaaaaaaaaa"
        templateDigest := "bbbbbbbbbbbbbbbbbbbbbbbbbbbbbbbbbbbbbbbbbbbbbbbbbbbbbbbbbbbbbbbb" } }
    normalizedDeviceOptions := [("dpi", .int 300)] } }

def fixtureDeadline (microseconds : Nat) (h : microseconds < 1000000) : ChronoUtc where
  year := 2026
  ordinal := 249
  secs := 43500
  frac := microseconds * 1000
  year_range := by decide
  ordinal_pos := by decide
  ordinal_le := by decide
  secs_lt := by decide
  frac_lt := by omega
  leap_second := by omega

def fixtureDatetime : PyDatetime where
  date := ⟨2026, 9, 6, by decide, by decide, by decide, by decide⟩
  hour := 12
  minute := 5
  second := 0
  microsecond := 123000
  year_range := by decide
  hour_lt := by decide
  minute_lt := by decide
  second_lt := by decide
  microsecond_lt := by decide

theorem fixture_fingerprints :
    (∃ bytes, managedWorkRepresentation sampleWire.canonical fixtureSubmission.work
        (fixtureDeadline 123000 (by decide)) = .ok bytes ∧
      (fixtureSubmission.work.forAgent (encode "%PDF-1.4") fixtureDatetime).representation
        ⟨id, sampleWire.canonical⟩ = .ok bytes) ∧
    managedWorkRepresentation sampleWire.canonical fixtureSubmission.work
        (fixtureDeadline 123000 (by decide)) ≠
      managedWorkRepresentation sampleWire.canonical fixtureSubmission.work
        (fixtureDeadline 123001 (by decide)) := by
  obtain ⟨hagree, hseparate, -⟩ := payload_fingerprints sampleWire id (fun _ _ => rfl)
  have hchecked : Checked fixtureSubmission (encode "%PDF-1.4") :=
    ⟨by decide +kernel, by decide +kernel⟩
  have hoptions : (sampleWire.canonical
      (.obj fixtureSubmission.work.normalizedDeviceOptions)).length < 2 ^ 64 := by decide +kernel
  constructor
  · obtain ⟨bytes, hrust, hpython, -⟩ := hagree _ _ hchecked hoptions
      (fixtureDeadline 123000 (by decide)) fixtureDatetime ⟨by decide, by decide +kernel⟩
    exact ⟨bytes, hrust, hpython⟩
  · intro heq
    have hsame := (hseparate _ _ _ _ hchecked hchecked hoptions hoptions _ _).mp heq
    exact absurd hsame.expiresAt.frac (by decide)

/-- The digest of the representation is the `payload_fingerprint` of the fixture. -/
example : (managedWorkRepresentation sampleWire.canonical fixtureSubmission.work
    (fixtureDeadline 123000 (by decide))).map (fun bytes => Hex.encode (sampleWire.sha256 bytes)) =
      .ok fixtureSubmission.payloadFingerprint := by
  decide +kernel

end Inari.Controller
