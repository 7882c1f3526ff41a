import Inari.Lib.Sequences
import Inari.Proofs.ControllerWrites

/-!
# Commands, Managed Work and payloads stay together

The commands of an Agent are numbered without a gap, and Managed Work that waits has a payload
that protects the message of its command.
-/

namespace Inari.Controller

open Lib

def agentKeys (db : Db) (agentId : AgentId) : List CommandKey :=
  (commandKeys db).filter (fun c => c.agentId == agentId)

structure StoreInv (tools : WireTools) (db : Db) : Prop where
  sequences : ∀ agentId, (agentKeys db agentId).map (·.sequence) =
    List.range' 1 (agentKeys db agentId).length
  bounded : ∀ c ∈ commandKeys db, c.sequence ≤ 9223372036854775807
  inline : ∀ c ∈ commandKeys db, ∀ m, c.command = .inline m → m.commandId = c.commandId ∧
    m.messageId = c.messageId ∧ m.sequence = c.sequence ∧ ∀ d, m.body ≠ .dispatchDeviceWork d
  managed : ∀ c ∈ commandKeys db, ∀ id, c.command = .managedWork id →
    c.commandId = dispatchCommandId tools id
  waiting : ∀ w ∈ db.works.rows, w.state = .dispatching → w.printJobObservation = none ∧
    ∃ p ∈ db.payloads.rows, p.managedWorkId = w.managedWorkId
  payloads : ∀ p ∈ db.payloads.rows,
    (∃ w ∈ db.works.rows, w.managedWorkId = p.managedWorkId ∧
      p.protection.context = w.payloadContext) ∧
    ∃ c ∈ commandKeys db, Dispatches c p

variable {tools : WireTools} {verified : SignedAgentStateObservation → Prop} {db db' : Db}

lemma storeInv_empty : StoreInv tools {} := by
  constructor <;> simp [agentKeys, commandKeys]

lemma agentKeys_congr (h : commandKeys db' = commandKeys db) (agentId : AgentId) :
    agentKeys db' agentId = agentKeys db agentId := by
  rw [agentKeys, agentKeys, h]

/-- The next number of an Agent is one more than its commands. -/
lemma sequences_append {key : CommandKey} (hinv : StoreInv tools db)
    (hnext : key.sequence = nextSequence db key.agentId)
    (hkeys : commandKeys db' = commandKeys db ++ [key]) (agentId : AgentId) :
    (agentKeys db' agentId).map (·.sequence) = List.range' 1 (agentKeys db' agentId).length := by
  have hold := hinv.sequences agentId
  by_cases hagent : key.agentId = agentId
  · have happend : agentKeys db' agentId = agentKeys db agentId ++ [key] := by
      simp [agentKeys, hkeys, hagent]
    have hseq : key.sequence = (agentKeys db agentId).length + 1 := by
      rw [hnext, nextSequence, hagent]
      change ((agentKeys db agentId).map (·.sequence)).foldr max 0 + 1 = _
      rw [hold, foldr_max_range']
    rw [happend, List.map_append, hold, List.length_append, List.length_singleton,
      List.range'_concat, List.map_singleton, hseq]
    simp [Nat.add_comm]
  · have hsame : agentKeys db' agentId = agentKeys db agentId := by
      simp [agentKeys, hkeys, hagent]
    rw [hsame]
    exact hold

lemma StoreInv.frame (hinv : StoreInv tools db) (hkeys : commandKeys db' = commandKeys db)
    (hworks : db'.works.rows = db.works.rows) (hpayloads : db'.payloads.rows = db.payloads.rows) :
    StoreInv tools db' where
  sequences agentId := by rw [agentKeys_congr hkeys]; exact hinv.sequences agentId
  bounded := by rw [hkeys]; exact hinv.bounded
  inline := by rw [hkeys]; exact hinv.inline
  managed := by rw [hkeys]; exact hinv.managed
  waiting := by rw [hworks, hpayloads]; exact hinv.waiting
  payloads := by rw [hkeys, hworks, hpayloads]; exact hinv.payloads

/-- A new command, with its work and payload if it dispatches one. -/
lemma StoreInv.append {key : CommandKey} (hinv : StoreInv tools db)
    (hinline : ∀ m, key.command = .inline m → m.commandId = key.commandId ∧
      m.messageId = key.messageId ∧ m.sequence = key.sequence ∧
      ∀ d, m.body ≠ .dispatchDeviceWork d)
    (hmanaged : ∀ id, key.command = .managedWork id → key.commandId = dispatchCommandId tools id)
    (hnext : key.sequence = nextSequence db key.agentId)
    (hmax : key.sequence ≤ 9223372036854775807)
    (hkeys : commandKeys db' = commandKeys db ++ [key])
    (hwaiting : ∀ w ∈ db'.works.rows, w.state = .dispatching → w.printJobObservation = none ∧
      ∃ p ∈ db'.payloads.rows, p.managedWorkId = w.managedWorkId)
    (hpayloads : ∀ p ∈ db'.payloads.rows,
      (∃ w ∈ db'.works.rows, w.managedWorkId = p.managedWorkId ∧
        p.protection.context = w.payloadContext) ∧
      ∃ c ∈ commandKeys db', Dispatches c p) :
    StoreInv tools db' where
  sequences := sequences_append hinv hnext hkeys
  bounded := by
    rw [hkeys]
    intro c hc
    rcases List.mem_append.mp hc with hc | hc
    · exact hinv.bounded c hc
    · exact List.mem_singleton.mp hc ▸ hmax
  inline := by
    rw [hkeys]
    intro c hc
    rcases List.mem_append.mp hc with hc | hc
    · exact hinv.inline c hc
    · exact List.mem_singleton.mp hc ▸ hinline
  managed := by
    rw [hkeys]
    intro c hc
    rcases List.mem_append.mp hc with hc | hc
    · exact hinv.managed c hc
    · exact List.mem_singleton.mp hc ▸ hmanaged
  waiting := hwaiting
  payloads := hpayloads

@[simp] lemma swept_managedWorkId (w : ManagedWorkRow) (now : Instant) :
    (w.swept now).managedWorkId = w.managedWorkId := by
  unfold ManagedWorkRow.swept
  split <;> rfl

@[simp] lemma swept_payloadContext (w : ManagedWorkRow) (now : Instant) :
    (w.swept now).payloadContext = w.payloadContext := by
  unfold ManagedWorkRow.swept
  split <;> rfl

lemma swept_not_dispatching (w : ManagedWorkRow) (now : Instant) :
    (w.swept now).state ≠ .dispatching := by
  unfold ManagedWorkRow.swept
  split <;> simp_all

/-- Managed Work stops waiting when its payload is deleted. -/
lemma StoreInv.settle (hinv : StoreInv tools db) {p : ManagedWorkRow → Bool}
    {q : ManagedPayloadRow → Bool} {f : ManagedWorkRow → ManagedWorkRow}
    (hkeys : commandKeys db' = commandKeys db)
    (hworks : db'.works.rows = Table.updated db.works.rows p f)
    (hpayloads : db'.payloads.rows = db.payloads.rows.filter (fun r => !q r))
    (hf : ∀ w ∈ db.works.rows, p w = true → (f w).managedWorkId = w.managedWorkId ∧
      (f w).payloadContext = w.payloadContext ∧ (f w).state ≠ .dispatching)
    (hq : ∀ w ∈ db.works.rows, p w = false → w.state = .dispatching →
      ∀ r ∈ db.payloads.rows, r.managedWorkId = w.managedWorkId → q r = false) :
    StoreInv tools db' where
  sequences agentId := by rw [agentKeys_congr hkeys]; exact hinv.sequences agentId
  bounded := by rw [hkeys]; exact hinv.bounded
  inline := by rw [hkeys]; exact hinv.inline
  managed := by rw [hkeys]; exact hinv.managed
  waiting := by
    intro w hw hstate
    rcases Table.updated_cases hworks hw with ⟨hw, hp⟩ | ⟨w₀, hw₀, hp, rfl⟩
    · obtain ⟨hnone, r, hr, hid⟩ := hinv.waiting w hw hstate
      refine ⟨hnone, r, ?_, hid⟩
      rw [hpayloads, List.mem_filter]
      exact ⟨hr, by simp [hq w hw hp hstate r hr hid]⟩
    · exact absurd hstate (hf w₀ hw₀ hp).2.2
  payloads := by
    intro r hr
    rw [hpayloads] at hr
    obtain ⟨⟨w, hw, hid, hcontext⟩, hcommand⟩ := hinv.payloads r (List.mem_of_mem_filter hr)
    rw [hkeys]
    refine ⟨Table.exists_updated hworks hw (fun _ => ⟨hid, hcontext⟩) (fun hp => ?_), hcommand⟩
    rw [(hf w hw hp).1, (hf w hw hp).2.1]
    exact ⟨hid, hcontext⟩

/-- Managed Work has at most one payload. -/
lemma payload_unique {a b : ManagedPayloadRow} (ha : a ∈ db.payloads.rows)
    (hb : b ∈ db.payloads.rows) (h : a.managedWorkId = b.managedWorkId) : a = b :=
  db.payloads.eq_of_key (u := payloadIdKey) (by simp [payloadSpec]) ha hb rfl
    (by simp [payloadIdKey, h])

lemma first_work {w : ManagedWorkRow} (hw : w ∈ db.works.rows) :
    db.works.first (fun r => r.managedWorkId == w.managedWorkId) = some w :=
  Table.first_eq hw (by simp) (fun r hr hid => work_unique hr hw (by simpa using hid))

/-- Every write of the Controller keeps the tables together. -/
theorem StoreInv.write (hinv : StoreInv tools db) (h : Write tools verified db db') :
    StoreInv tools db' := by
  cases h with
  | frame hkeys hworks hpayloads => exact hinv.frame hkeys hworks hpayloads
  | inline key message hcommand hid hmessage hsequence hbody hnext hmax hkeys hworks hpayloads
      _ =>
    refine hinv.append ?_ ?_ hnext hmax hkeys ?_ ?_
    · intro m hm
      cases hcommand.symm.trans hm
      exact ⟨hid, hmessage, hsequence, hbody⟩
    · intro id hmanaged
      cases hcommand.symm.trans hmanaged
    · rw [hworks, hpayloads]
      exact hinv.waiting
    · rw [hworks, hpayloads, hkeys]
      intro p hp
      obtain ⟨hwork, c, hc, hdispatch⟩ := hinv.payloads p hp
      exact ⟨hwork, c, List.mem_append_left _ hc, hdispatch⟩
  | managed key work payload hcommand hid hpayload hcontext hdispatch hfresh hnext hmax hkeys hworks
      hpayloads _ =>
    refine hinv.append ?_ ?_ hnext hmax hkeys ?_ ?_
    · intro m hm
      cases hcommand.symm.trans hm
    · intro id hmanaged
      cases hcommand.symm.trans hmanaged
      exact hid
    · rw [hworks, hpayloads]
      intro w hw hstate
      rcases List.mem_append.mp hw with hw | hw
      · obtain ⟨hnone, p, hp, hpid⟩ := hinv.waiting w hw hstate
        exact ⟨hnone, p, List.mem_append_left _ hp, hpid⟩
      · rw [List.mem_singleton] at hw
        subst hw
        exact ⟨hfresh.printJobObservation, payload, by simp, hpayload⟩
    · rw [hworks, hpayloads, hkeys]
      intro p hp
      rcases List.mem_append.mp hp with hp | hp
      · obtain ⟨⟨w, hw, hw'⟩, c, hc, hdispatch⟩ := hinv.payloads p hp
        exact ⟨⟨w, List.mem_append_left _ hw, hw'⟩, c, List.mem_append_left _ hc, hdispatch⟩
      · rw [List.mem_singleton] at hp
        subst hp
        exact ⟨⟨work, by simp, hpayload.symm, hcontext⟩, key, by simp, hdispatch⟩
  | sweep ids now _ hkeys hworks hpayloads =>
    refine hinv.settle hkeys hworks hpayloads ?_ ?_
    · intro w _ _
      exact ⟨swept_managedWorkId w now, swept_payloadContext w now, swept_not_dispatching w now⟩
    · intro w _ hp _ r _ hid
      rw [hid]
      exact hp
  | observe agentId work signed replace now hmem _ _ hreplace hkeys hworks hpayloads =>
    refine hinv.settle hkeys hworks hpayloads ?_ ?_
    · intro w hw hp
      simp only [Bool.and_eq_true, beq_iff_eq] at hp
      obtain rfl := work_unique hw hmem hp.2
      exact ⟨rfl, rfl, by simp [ManagedWorkRow.observed]⟩
    · intro w hw hp hstate r _ hid
      by_contra hq
      have hq : w.managedWorkId = work.managedWorkId := by simpa [hid] using hq
      obtain rfl := work_unique hw hmem hq
      -- an observation that does not replace the current one finds work that has left `dispatching`
      have hfalse : replace = false := by simpa using hp
      exact replacesCurrent_false (hfalse ▸ hreplace) (hinv.waiting w hw hstate).1

/-- So they are together in every database a run reaches. -/
theorem Reachable.storeInv {tools : Tools} {db : Db} (h : Reachable tools db) :
    StoreInv tools.wire db :=
  h.invariant storeInv_empty (fun _ _ _ hinv hwrite => hinv.write hwrite)

end Inari.Controller
