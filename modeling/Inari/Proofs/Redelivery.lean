import Inari.Proofs.CommandSequences

/-!
# Commands that are delivered again

An Agent asks for its commands until it has applied them, and the payload of Managed Work may be
gone before that, but it is not replaced.
-/

namespace Inari.Controller

open Lib

/-- The work of the payload is stored, and no other payload is stored for it. -/
def OnlyPayload (p : ManagedPayloadRow) (db : Db) : Prop :=
  (∃ w ∈ db.works.rows, w.managedWorkId = p.managedWorkId) ∧
    ∀ q ∈ db.payloads.rows, q.managedWorkId = p.managedWorkId → q = p

lemma Write.onlyPayload {tools : WireTools} {verified : SignedAgentStateObservation → Prop}
    {db db' : Db} {p : ManagedPayloadRow} (h : Write tools verified db db')
    (hp : OnlyPayload p db) : OnlyPayload p db' := by
  obtain ⟨⟨w, hw, hid⟩, honly⟩ := hp
  cases h with
  | frame _ hworks hpayloads | inline _ _ _ _ _ _ _ _ _ _ hworks hpayloads =>
    rw [OnlyPayload, hworks, hpayloads]
    exact ⟨⟨w, hw, hid⟩, honly⟩
  | managed _ work payload _ _ hpayload _ _ _ _ _ _ hworks hpayloads =>
    rw [OnlyPayload, hworks, hpayloads]
    refine ⟨⟨w, List.mem_append_left _ hw, hid⟩, fun q hq hqid => ?_⟩
    rcases List.mem_append.mp hq with hq | hq
    · exact honly q hq hqid
    · rw [List.mem_singleton.mp hq, hpayload, ← hid] at hqid
      exact absurd (congrArg some hqid.symm)
        (Table.append_fresh hworks (u := workIdKey) (by simp [workSpec]) rfl hw)
  | sweep _ now _ _ hworks hpayloads =>
    refine ⟨Table.exists_updated hworks hw (fun _ => hid) (fun _ => ?_), fun q hq => ?_⟩
    · rw [swept_managedWorkId, hid]
    · exact honly q (List.mem_of_mem_filter (hpayloads ▸ hq))
  | observe _ work _ _ _ _ _ _ _ _ hworks hpayloads =>
    refine ⟨Table.exists_updated hworks hw (fun _ => hid) (fun hmatch => ?_), fun q hq => ?_⟩
    · simp only [Bool.and_eq_true, beq_iff_eq] at hmatch
      exact hmatch.2.symm.trans hid
    · exact honly q (List.mem_of_mem_filter (hpayloads ▸ hq))

/-- A reply to a query of the command history. -/
def Replied (db : Db) (history : CommandHistory) : Prop :=
  ∃ config fleet key fromSequence now,
    historyForQueryKey config fleet db key fromSequence now = .ok (some history)

lemma Replied.stored {tools : WireTools} {db : Db} (hinv : StoreInv tools db)
    {history : CommandHistory} (h : Replied db history) {m : ControllerCommand}
    (hm : m ∈ history.commands) :
    ∃ c ∈ db.commands.rows, c.commandId = m.commandId ∧ storedMessage db c = some m := by
  obtain ⟨config, fleet, key, fromSequence, now, h⟩ := h
  unfold historyForQueryKey at h
  split at h
  · cases h
  · simp only [commandHistory, bind_ok, pure_ok, Option.some.injEq] at h
    obtain ⟨_, ⟨_, -, rows, hrows, rfl⟩, commands, hcommands, rfl⟩ := h
    obtain ⟨c, hc, hmessage⟩ := exists_left_of_forall₂ (mapM_ok.mp hcommands) hm
    obtain ⟨row, hrow, hpersisted⟩ := exists_left_of_forall₂ (mapM_ok.mp hrows) hc
    have hmem := List.mem_of_mem_filter ((List.mem_insertionSort _).mp hrow)
    cases (persistedCommand_stored hinv hmem).symm.trans hpersisted
    have hadmits : fleet.admits c.agentId = true := by
      simp only [dispatchMessage, bind_ok, Fleet.requireAdmission, require_ok] at hmessage
      exact hmessage.choose_spec.1
    have hstored := ((dispatchMessage_iff hinv hmem hadmits).mp hmessage).1
    exact ⟨c, hmem, (storedMessage_spec hinv hmem hstored).1.symm, hstored⟩

/-- Whatever is committed between two replies, to any Agent and at any times, a command that is in
both is the same message in both. -/
theorem redelivered_unchanged (tools : Tools) (ts later : List CommandTransaction)
    (first second : CommandHistory) (hfirst : Replied (final (commit tools) {} ts) first)
    (hsecond : Replied (final (commit tools) {} (ts ++ later)) second) :
    ∀ m ∈ first.commands, ∀ m' ∈ second.commands, m.commandId = m'.commandId → m = m' := by
  intro m hm m' hm' hid
  have hinv := (final_commandsInv tools ts).store
  obtain ⟨c, hc, hcid, hstored⟩ := hfirst.stored hinv hm
  obtain ⟨c', hc', hcid', hstored'⟩ := hsecond.stored (final_commandsInv tools _).store hm'
  rw [final_append] at hc' hstored'
  -- the command of the first reply is still stored, and it is the only one with its id
  obtain ⟨c₁, hc₁, hfixed, -⟩ := final_command tools later hc
  obtain rfl : c₁ = c' := command_unique hc₁ hc'
    ((commandId_of_fixed hfixed).trans (hcid.trans (hid.trans hcid'.symm)))
  have hcommand := command_of_fixed hfixed
  cases hcontent : c.command with
  | inline =>
    simp only [storedMessage, hcommand, hcontent] at hstored hstored'
    exact Option.some.inj (hstored.symm.trans hstored')
  | managedWork =>
    simp only [storedMessage, hcommand, hcontent, Option.map_eq_some_iff] at hstored hstored'
    obtain ⟨p, hp, rfl⟩ := hstored
    obtain ⟨p', hp', rfl⟩ := hstored'
    obtain ⟨hp, hpid⟩ := Table.first_spec hp
    obtain ⟨hp', hpid'⟩ := Table.first_spec hp'
    obtain ⟨⟨w, hw, hwid, -⟩, -⟩ := hinv.payloads p hp
    have honly : OnlyPayload p (final (commit tools) (final (commit tools) {} ts) later) := by
      refine final_of_step (fun db t h => ?_) ⟨⟨w, hw, hwid⟩, fun q hq => payload_unique hq hp⟩
        later
      obtain ⟨_, hwrites⟩ := commit_writes tools db t
      exact hwrites.preserve (fun _ _ h hwrite => hwrite.onlyPayload h) h
    rw [honly.2 p' hp' ((beq_iff_eq.mp hpid').trans (beq_iff_eq.mp hpid).symm)]

def sampleCommits : List CommandTransaction := sampleEvents.map (fun e => .other (.request e))

lemma replied_of_length (db : Db) {n : Nat}
    (h : (historyForQueryKey sampleConfig sampleFleet db (historyKey sampleConfig sampleAgent) 1
      3000000).toOption.map (·.map (·.commands.length)) = some (some n)) :
    ∃ history, Replied db history ∧ history.commands.length = n := by
  cases hreply : historyForQueryKey sampleConfig sampleFleet db
      (historyKey sampleConfig sampleAgent) 1 3000000 with
  | error e => simp [hreply, Except.toOption] at h
  | ok reply =>
    cases reply with
    | none => simp [hreply, Except.toOption] at h
    | some history =>
      simp only [hreply, Except.toOption, Option.map_some, Option.some.injEq] at h
      exact ⟨history, ⟨_, _, _, _, _, hreply⟩, h⟩

/-- Two commands, and the same two after every request was made again. -/
theorem repeated_requests_redelivered : ∃ first second,
    Replied (final (commit sampleTools) {} sampleCommits) first ∧
      Replied (final (commit sampleTools) {} (sampleCommits ++ sampleCommits)) second ∧
      first.commands.length = 2 ∧ second.commands.length = 2 ∧
      ∀ m ∈ first.commands, ∀ m' ∈ second.commands, m.commandId = m'.commandId → m = m' := by
  obtain ⟨first, hfirst, hlength⟩ := replied_of_length
    (final (commit sampleTools) {} sampleCommits) (n := 2) (by decide +kernel)
  obtain ⟨second, hsecond, hlength'⟩ := replied_of_length
    (final (commit sampleTools) {} (sampleCommits ++ sampleCommits)) (n := 2) (by decide +kernel)
  exact ⟨first, second, hfirst, hsecond, hlength, hlength',
    redelivered_unchanged sampleTools sampleCommits sampleCommits first second hfirst hsecond⟩

end Inari.Controller
