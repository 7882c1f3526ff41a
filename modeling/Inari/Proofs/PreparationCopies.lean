import Inari.Browser.PreparationPrint
import Inari.Lib.Run

/-!
# One identity for each preparation copy

The calls for one copy return one plan until its result is accepted, if they do not overlap and no
failure is reported for an accepted copy.
-/

namespace Inari.Browser

open Lib

lemma segment_last (segment : Option Segment) :
    ((segment.map Segment.value).getD "null").toList.getLast? = some (segment.elim 'l' fun
      | .new => 'w' | .cancelled => 'd' | .noteUpdate => 'e' | .notes => 's') := by
  rcases segment with _ | (_ | _ | _ | _) <;> rfl

lemma sourceKey_injective {binding binding' : String} {segment segment' : Option Segment}
    (h : sourceKey binding segment = sourceKey binding' segment') :
    binding = binding' ∧ segment = segment' := by
  have hsegment : segment = segment' := by
    have hlast := congrArg (fun s : String => s.toList.getLast?) h
    simp only [sourceKey, String.toList_append, List.getLast?_append, segment_last,
      Option.some_or, Option.some.injEq] at hlast
    rcases segment with _ | (_ | _ | _ | _) <;> rcases segment' with _ | (_ | _ | _ | _) <;>
      first | rfl | exact absurd hlast (by decide)
  subst hsegment
  rw [sourceKey, sourceKey, String.append_left_inj, String.append_left_inj] at h
  exact ⟨h, rfl⟩

namespace PlanBook

variable {b : PlanBook}

lemma entry_setEntry (copy copy' : PreparationCopy) (e : PlanEntry) :
    (b.setEntry copy e).entry copy' = if copy' = copy then some e else b.entry copy' := by
  have hkey : copy'.orderChange = copy.orderChange ∧
      sourceKey copy'.bindingRevisionId copy'.segment =
        sourceKey copy.bindingRevisionId copy.segment ↔ copy' = copy := by
    constructor
    · rintro ⟨horder, hkey⟩
      obtain ⟨hbinding, hsegment⟩ := sourceKey_injective hkey
      cases copy
      cases copy'
      simp_all
    · rintro rfl
      exact ⟨rfl, rfl⟩
  simp only [entry, setEntry, hkey]

end PlanBook

section Traces

variable (copy copy' : PreparationCopy) (plan : LocalPrintPlan) (accepted : Bool)
  (trace : List Observation)

def plans : List LocalPrintPlan :=
  trace.filterMap fun
    | .returned copy' plan => if copy' = copy then some plan else none
    | .settled _ _ => none

/-- Those that were returned since its last accepted result. -/
def unsettled : List LocalPrintPlan := plans copy (trace.takeWhile (· != .settled copy true))

@[simp] lemma plans_returned : plans copy (.returned copy' plan :: trace) =
    if copy' = copy then plan :: plans copy trace else plans copy trace := by
  by_cases heq : copy' = copy <;> simp [plans, heq]

@[simp] lemma plans_settled : plans copy (.settled copy' accepted :: trace) = plans copy trace := rfl

@[simp] lemma unsettled_returned : unsettled copy (.returned copy' plan :: trace) =
    if copy' = copy then plan :: unsettled copy trace else unsettled copy trace := by
  simp [unsettled]

@[simp] lemma unsettled_settled : unsettled copy (.settled copy' accepted :: trace) =
    if copy' = copy ∧ accepted = true then [] else unsettled copy trace := by
  by_cases heq : copy' = copy ∧ accepted = true
  · obtain ⟨rfl, rfl⟩ := heq
    simp [unsettled, plans]
  · have hne : Observation.settled copy' accepted ≠ .settled copy true := by simpa using heq
    simp [unsettled, heq, hne]

end Traces

def SameCopy (plan plan' : LocalPrintPlan) : Prop :=
  plan.printIntentId = plan'.printIntentId ∧ plan.copyOrdinal = plan'.copyOrdinal

/-- Plans that no accepted result separates share intent and ordinal; the next plan has new ones. -/
def OneIdentity : List Observation → Prop
  | [] => True
  | .returned copy plan :: trace =>
    OneIdentity trace ∧ (∀ p ∈ unsettled copy trace, SameCopy plan p) ∧
      (unsettled copy trace = [] → ∀ last ∈ (plans copy trace).head?,
        plan.copyOrdinal = last.copyOrdinal + 1 ∧
          ∀ copy', ∀ p ∈ plans copy' trace, p.printIntentId ≠ plan.printIntentId)
  | .settled _ _ :: trace => OneIdentity trace

/-- No other call waits for the copy, and a failure is reported only for a copy that is not
accepted. -/
def PlanBook.InTurn (b : PlanBook) : PlanEvent → Prop
  | .plan r => ∀ c ∈ b.calls.reduceOption, c.request.copy ≠ r.copy
  | .settle copy accepted => accepted = false → ∀ e ∈ b.entry copy, e.state ≠ .accepted
  | _ => True

instance (b : PlanBook) (e : PlanEvent) : Decidable (b.InTurn e) := by
  cases e <;> unfold PlanBook.InTurn <;> infer_instance

namespace PlanBook

variable {tools : PlanTools} {b b' : PlanBook} {copy : PreparationCopy} {e : PlanEntry}
  {c : WaitingPlan}

/-- The book holds the last plan of each copy, and at most one call waits for a copy. -/
structure Inv (tools : PlanTools) (b : PlanBook) : Prop where
  last : ∀ copy, (plans copy b.trace).head? = (b.entry copy).map PlanEntry.plan
  accepted : ∀ copy, ∀ e ∈ b.entry copy, e.state = .accepted ↔ unsettled copy b.trace = []
  current : ∀ copy, ∀ e ∈ b.entry copy, ∀ p ∈ unsettled copy b.trace, SameCopy e.plan p
  waits : ∀ (call : Nat) c, b.calls[call]? = some (some c) → ∀ e ∈ b.entry c.request.copy,
    e.state = .accepted ∧ c.copyOrdinal = e.plan.copyOrdinal + 1
  alone : ∀ (call call' : Nat) c c', b.calls[call]? = some (some c) →
    b.calls[call']? = some (some c') → c.request.copy = c'.request.copy → call = call'
  drawn : ∀ copy, ∀ plan ∈ plans copy b.trace, ∃ call : Nat, b.calls[call]? = some none ∧
    plan.printIntentId = randomIntentId (tools.uuid call)
  inOrder : OneIdentity b.trace

lemma Inv.ended (h : b.Inv tools) (hentries : b'.entries = b.entries) (htrace : b'.trace = b.trace)
    (hwaiting : ∀ (call : Nat) c, b'.calls[call]? = some (some c) → b.calls[call]? = some (some c))
    (hended : ∀ call : Nat, b.calls[call]? = some none → b'.calls[call]? = some none) :
    b'.Inv tools := by
  have hentry : ∀ copy, b'.entry copy = b.entry copy := by simp [entry, hentries]
  refine ⟨?_, ?_, ?_, ?_, ?_, ?_, htrace ▸ h.inOrder⟩
  · simpa only [htrace, hentry] using h.last
  · simpa only [htrace, hentry] using h.accepted
  · simpa only [htrace, hentry] using h.current
  · intro call c hc
    rw [hentry]
    exact h.waits call c (hwaiting call c hc)
  · intro call call' c c' hc hc'
    exact h.alone call call' c c' (hwaiting call c hc) (hwaiting call' c' hc')
  · intro copy plan hplan
    rw [htrace] at hplan
    obtain ⟨call, hcall, hid⟩ := h.drawn copy plan hplan
    exact ⟨call, hended call hcall, hid⟩

lemma start_calls (started : Option WaitingPlan) (call : Nat) :
    (b.start started).calls[call]? =
      if call = b.calls.length then some started else b.calls[call]? := by
  rw [start, List.getElem?_append]
  rcases lt_trichotomy call b.calls.length with hlt | rfl | hgt
  · simp [hlt, hlt.ne]
  · simp
  · have hout : call - b.calls.length ≠ 0 := by omega
    simp [hgt.not_gt, hgt.ne', hout]

variable {call : Nat}

lemma started_waiting (hc : (b.start none).calls[call]? = some (some c)) :
    b.calls[call]? = some (some c) := by
  rw [start_calls] at hc
  split at hc
  · cases hc
  · exact hc

lemma finished_waiting {call' : Nat} (hc : (b.finish call).calls[call']? = some (some c)) :
    call ≠ call' ∧ b.calls[call']? = some (some c) := by
  rw [finish, List.getElem?_set] at hc
  split at hc
  · split at hc <;> cases hc
  · exact ⟨‹_›, hc⟩

lemma Inv.started (h : b.Inv tools) : (b.start none).Inv tools := by
  refine h.ended rfl rfl (fun call c => started_waiting) (fun call hcall => ?_)
  rw [start_calls]
  split
  · rfl
  · exact hcall

lemma Inv.finished (h : b.Inv tools) (call : Nat) : (b.finish call).Inv tools := by
  refine h.ended rfl rfl (fun call' c hc => (finished_waiting hc).2) (fun call' hcall => ?_)
  obtain ⟨hlt, -⟩ := List.getElem?_eq_some_iff.mp hcall
  rw [finish, List.getElem?_set]
  split
  · simp_all
  · exact hcall

lemma Inv.unsettled_waiting (h : b.Inv tools) (hc : b.calls[call]? = some (some c)) :
    unsettled c.request.copy b.trace = [] := by
  cases he : b.entry c.request.copy with
  | none =>
    have hplans := h.last c.request.copy
    rw [he, Option.map_none, List.head?_eq_none_iff] at hplans
    rw [List.eq_nil_iff_forall_not_mem] at hplans ⊢
    exact fun p hp => hplans p (((List.takeWhile_sublist _).filterMap _).mem hp)
  | some e => exact (h.accepted _ e he).mp (h.waits call c hc e he).1

lemma Inv.waiting (h : b.Inv tools) (hfree : ∀ (call : Nat) c', b.calls[call]? = some (some c') →
      c'.request.copy ≠ c.request.copy)
    (hentry : ∀ e ∈ b.entry c.request.copy,
      e.state = .accepted ∧ c.copyOrdinal = e.plan.copyOrdinal + 1) :
    (b.start (some c)).Inv tools := by
  refine ⟨h.last, h.accepted, h.current, ?_, ?_, ?_, h.inOrder⟩
  · intro call c' hc'
    rw [start_calls] at hc'
    split at hc'
    · cases hc'
      exact hentry
    · exact h.waits call c' hc'
  · intro call call' c₁ c₂ h₁ h₂ heq
    rw [start_calls] at h₁ h₂
    split at h₁ <;> split at h₂
    · omega
    · cases h₁
      exact absurd heq.symm (hfree call' c₂ h₂)
    · cases h₂
      exact absurd heq (hfree call c₁ h₁)
    · exact h.alone call call' c₁ c₂ h₁ h₂ heq
  · intro copy plan hplan
    obtain ⟨call, hcall, hid⟩ := h.drawn copy plan hplan
    obtain ⟨hlt, -⟩ := List.getElem?_eq_some_iff.mp hcall
    exact ⟨call, by rw [start_calls, if_neg hlt.ne, hcall], hid⟩

lemma setEntry_self (he : b.entry copy = some e) : b.setEntry copy e = b := by
  cases b
  rw [setEntry, mk.injEq]
  refine ⟨funext fun orderChange => funext fun key => ?_, rfl, rfl⟩
  split
  · rename_i heq
    rw [heq.1, heq.2]
    exact he.symm
  · rfl

lemma Inv.returned (h : b.Inv tools) (hstate : e.state ≠ .accepted)
    (hfree : ∀ (call : Nat) c', b.calls[call]? = some (some c') → c'.request.copy ≠ copy)
    (hdrawn : ∃ call : Nat, b.calls[call]? = some none ∧
      e.plan.printIntentId = randomIntentId (tools.uuid call))
    (hsame : ∀ p ∈ unsettled copy b.trace, SameCopy e.plan p)
    (hnext : unsettled copy b.trace = [] → ∀ last ∈ (plans copy b.trace).head?,
      e.plan.copyOrdinal = last.copyOrdinal + 1 ∧
        ∀ copy', ∀ p ∈ plans copy' b.trace, p.printIntentId ≠ e.plan.printIntentId) :
    ((b.setEntry copy e).observe (.returned copy e.plan)).Inv tools := by
  have hentry : ∀ copy', ((b.setEntry copy e).observe (.returned copy e.plan)).entry copy' =
      if copy' = copy then some e else b.entry copy' := fun copy' => entry_setEntry copy copy' e
  have htrace : ((b.setEntry copy e).observe (.returned copy e.plan)).trace =
      .returned copy e.plan :: b.trace := rfl
  refine ⟨fun copy' => ?_, fun copy' e' he' => ?_, fun copy' e' he' p hp => ?_,
    fun call c hc => ?_, h.alone, fun copy' p hp => ?_, h.inOrder, hsame, hnext⟩
  · rw [hentry, htrace, plans_returned]
    by_cases heq : copy' = copy
    · simp [heq]
    · simpa [heq, Ne.symm heq] using h.last copy'
  · rw [hentry] at he'
    rw [htrace, unsettled_returned]
    by_cases heq : copy' = copy
    · obtain rfl : e = e' := by simpa [heq] using he'
      simp [heq, hstate]
    · simpa [Ne.symm heq] using h.accepted copy' e' (by simpa [heq] using he')
  · rw [hentry] at he'
    rw [htrace, unsettled_returned] at hp
    by_cases heq : copy' = copy
    · subst heq
      obtain rfl : e = e' := by simpa using he'
      rcases List.mem_cons.mp (by simpa using hp) with rfl | hp
      · exact ⟨rfl, rfl⟩
      · exact hsame p hp
    · exact h.current copy' e' (by simpa [heq] using he') p (by simpa [Ne.symm heq] using hp)
  · rw [hentry, if_neg (hfree call c hc)]
    exact h.waits call c hc
  · rw [htrace, plans_returned] at hp
    split at hp
    · rcases List.mem_cons.mp hp with rfl | hp
      · exact hdrawn
      · exact h.drawn copy' p hp
    · exact h.drawn copy' p hp

lemma settle_entry (b : PlanBook) (copy copy' : PreparationCopy) (accepted : Bool) :
    (b.settle copy accepted).entry copy' = (b.entry copy').map (fun e => if copy' = copy then
      { e with state := if accepted then .accepted else .failed } else e) := by
  have hobserve : ∀ b : PlanBook, (b.observe (.settled copy accepted)).entry copy' =
      b.entry copy' := fun _ => rfl
  rw [PlanBook.settle, hobserve]
  by_cases heq : copy' = copy
  · subst heq
    cases he : b.entry copy' with
    | none => simpa using he
    | some => simp [entry_setEntry]
  · cases b.entry copy with
    | none => simp [heq]
    | some => simp [entry_setEntry, heq]

lemma Inv.settled (h : b.Inv tools) {accepted : Bool} (hturn : b.InTurn (.settle copy accepted)) :
    (b.settle copy accepted).Inv tools := by
  obtain ⟨htrace, hcalls⟩ : (b.settle copy accepted).trace = .settled copy accepted :: b.trace ∧
      (b.settle copy accepted).calls = b.calls := by
    rw [settle]
    cases b.entry copy <;> exact ⟨rfl, rfl⟩
  refine ⟨fun copy' => ?_, fun copy' e' he' => ?_, fun copy' e' he' p hp => ?_,
    fun call c hc e' he' => ?_, hcalls ▸ h.alone, by simpa [htrace, hcalls] using h.drawn,
    by rw [htrace]; exact h.inOrder⟩
  · rw [htrace, settle_entry, Option.map_map, plans_settled, h.last]
    congr 1
    funext e
    by_cases heq : copy' = copy <;> simp [heq]
  · rw [settle_entry] at he'
    obtain ⟨e, he, rfl⟩ := Option.map_eq_some_iff.mp he'
    rw [htrace, unsettled_settled]
    by_cases heq : copy' = copy
    · subst heq
      cases accepted with
      | true => simp
      | false => simp [← h.accepted copy' e he, hturn rfl e he]
    · simpa [heq, Ne.symm heq] using h.accepted copy' e he
  · rw [settle_entry] at he'
    obtain ⟨e, he, rfl⟩ := Option.map_eq_some_iff.mp he'
    rw [htrace, unsettled_settled] at hp
    split at hp
    · cases hp
    · have hsame := h.current copy' e he p hp
      by_cases heq : copy' = copy <;> simpa [heq] using hsame
  · rw [settle_entry] at he'
    obtain ⟨e, he, rfl⟩ := Option.map_eq_some_iff.mp he'
    obtain ⟨hstate, hordinal⟩ := h.waits call c (hcalls ▸ hc) e he
    by_cases heq : c.request.copy = copy
    · subst heq
      cases accepted with
      | true => simpa using hordinal
      | false => exact absurd hstate (hturn rfl e he)
    · simpa [heq] using ⟨hstate, hordinal⟩

lemma Inv.plan (h : b.Inv tools) {r : PlanRequest} (hturn : b.InTurn (.plan r)) :
    (b.plan r).1.Inv tools := by
  have hfree : ∀ (call : Nat) c, b.calls[call]? = some (some c) → c.request.copy ≠ r.copy :=
    fun call c hc => hturn c (List.reduceOption_mem_iff.mpr (List.mem_of_getElem? hc))
  unfold PlanBook.plan
  split
  · exact h.started
  · cases he : b.entry r.copy with
    | none => exact h.waiting hfree (by simp [he])
    | some e =>
      dsimp only
      split
      · exact h.waiting hfree (by simp_all)
      · rename_i hstate
        have hlast : e.plan ∈ plans r.copy b.trace :=
          List.mem_of_head? ((h.last r.copy).trans (congrArg (Option.map PlanEntry.plan) he))
        have hreturned := h.started.returned (e := e) hstate (fun call c hc => hfree call c
          (started_waiting hc)) (h.started.drawn r.copy e.plan hlast) (h.current r.copy e he)
          (fun hnone => absurd ((h.accepted r.copy e he).mpr hnone) hstate)
        rwa [show (b.start none).setEntry r.copy e = b.start none from setEntry_self he] at hreturned

lemma Inv.planned (h : b.Inv tools) (hc : b.calls[call]? = some (some c)) :
    (b.planned tools call c).1.Inv tools := by
  unfold PlanBook.planned
  dsimp only
  split
  · rename_i plan hplan
    obtain ⟨hid, hordinal⟩ := createLocalPrintPlan_identity hplan
    obtain ⟨hlt, -⟩ := List.getElem?_eq_some_iff.mp hc
    refine (h.finished call).returned (e := ⟨plan, .planned⟩) nofun ?_
      ⟨call, List.getElem?_set_self hlt, hid⟩ ?_ ?_
    · intro call' c' hc' heq
      obtain ⟨hne, hc'⟩ := finished_waiting hc'
      exact hne (h.alone call call' c c' hc hc' heq.symm)
    · rw [show unsettled c.request.copy (b.finish call).trace = [] from h.unsettled_waiting hc]
      nofun
    · intro _ last hlast
      rw [(h.finished call).last] at hlast
      obtain ⟨e, he, rfl⟩ := Option.map_eq_some_iff.mp hlast
      refine ⟨hordinal.trans (h.waits call c hc e he).2, fun copy p hp heq => ?_⟩
      obtain ⟨call', hcall', hid'⟩ := h.drawn copy p hp
      obtain rfl := tools.distinct (hid'.symm.trans (heq.trans hid))
      rw [hc] at hcall'
      cases hcall'
  · exact h.finished call

lemma Inv.step (h : b.Inv tools) {e : PlanEvent} (hturn : b.InTurn e) :
    (b.step tools e).1.Inv tools := by
  cases e with
  | plan => exact h.plan hturn
  | digested =>
    dsimp only [PlanBook.step]
    split
    · exact h.planned ‹_›
    · exact h
  | undigested call =>
    dsimp only [PlanBook.step]
    split
    · exact h.finished call
    · exact h
  | settle => exact h.settled hturn

lemma inv_empty : Inv tools {} where
  last _ := rfl
  accepted _ := nofun
  current _ := nofun
  waits := by simp
  alone := by simp
  drawn := by simp [plans]
  inOrder := trivial

end PlanBook

/-- In every run whose calls are in turn, a copy has one intent and ordinal until it is accepted. -/
theorem one_identity_per_copy (tools : PlanTools) (events : List PlanEvent)
    (hturn : RunOk PlanBook.InTurn (PlanBook.step tools) {} events) :
    Always (fun b => OneIdentity b.trace) (PlanBook.step tools) {} events := by
  intro earlier later hevents
  rw [hevents, runOk_append] at hturn
  exact (final_invariant (fun b e (h : b.Inv tools) => h.step) PlanBook.inv_empty hturn.1).inOrder

def sampleTools : PlanTools where
  uuid call := String.ofList (List.replicate call '0')
  distinct call call' h := by simpa [randomIntentId] using congrArg String.length h
  sha256 content := content

def sampleRequest : PlanRequest where
  binding := ⟨"revision-1", "dev_kitchen"⟩
  source := ⟨⟨"order-1", none, none⟩, 1, false, some .new, some 0⟩
  posSessionId := "42"
  content := "two soups"

def retriedRun : List PlanEvent :=
  [.plan sampleRequest, .digested 0, .settle sampleRequest.copy false, .plan sampleRequest,
    .settle sampleRequest.copy true, .plan sampleRequest, .digested 2]

theorem retried_copy_identity :
    RunOk PlanBook.InTurn (PlanBook.step sampleTools) {} retriedRun ∧
      Always (fun b => OneIdentity b.trace) (PlanBook.step sampleTools) {} retriedRun :=
  ⟨by decide +kernel, one_identity_per_copy sampleTools retriedRun (by decide +kernel)⟩

def samplePlan (printIntentId : String) : LocalPrintPlan :=
  ⟨printIntentId, "42", "order-1", none, "preparation_ticket", "revision-1", "dev_kitchen", 1,
    .preparation, some "sha256:two soups", some 0, some .new⟩

theorem overlapping_calls_differ :
    ¬ OneIdentity (final (PlanBook.step sampleTools) {} [.plan sampleRequest, .plan sampleRequest,
        .digested 0, .digested 1]).trace ∧
      ¬ OneIdentity (final (PlanBook.step sampleTools) {} [.plan sampleRequest, .digested 0,
        .settle sampleRequest.copy true, .settle sampleRequest.copy false,
        .plan sampleRequest]).trace := by
  have hoverlap : (final (PlanBook.step sampleTools) {} [.plan sampleRequest, .plan sampleRequest,
      .digested 0, .digested 1]).trace = [.returned sampleRequest.copy (samplePlan "pi_v1_0"),
        .returned sampleRequest.copy (samplePlan "pi_v1_")] := by decide +kernel
  have hfailed : (final (PlanBook.step sampleTools) {} [.plan sampleRequest, .digested 0,
      .settle sampleRequest.copy true, .settle sampleRequest.copy false,
      .plan sampleRequest]).trace = [.returned sampleRequest.copy (samplePlan "pi_v1_"),
        .settled sampleRequest.copy false, .settled sampleRequest.copy true,
        .returned sampleRequest.copy (samplePlan "pi_v1_")] := by decide +kernel
  rw [hoverlap, hfailed]
  simp [OneIdentity, SameCopy, samplePlan]

end Inari.Browser
