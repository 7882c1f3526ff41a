import Inari.Proofs.CommandDelivery
import Inari.Proofs.CommandHandlers
import Inari.Proofs.ProtocolReading

/-!
# The command channel

A history reply is read as a whole, so one message outside the Agent's bounds closes the channel.
-/

namespace Inari.Controller

open Lib Agent

def EnrolledFor (enrollment : GatewayEnrollmentRecord) (m : ControllerCommand) : Prop :=
  ∀ kind : JobKind, m.body = kind.body →
    kind.requiredAction ∈ enrollment.controllerActions.map (·.value)

/-- The Agent reads the message and the reply, and its handler finishes the command. -/
def Unblocked (tools : WireTools) (history : CommandHistory) (m : ControllerCommand) : Prop :=
  ∃ message messages recovered,
    ControllerCommandMessage.modelValidate tools (m.toJson tools) = .ok message ∧
    parseHistoryPayload tools (history.toJson tools) = .ok messages ∧ message ∈ messages ∧
    recoverCommandsSince tools [history.toJson tools] = .ok recovered ∧
    ∀ crypto keyPair services enrollment now agent,
      EnrolledFor enrollment m → Expects agent message →
      ∃ agent', handleCommand tools crypto keyPair services enrollment now agent message =
        .ok agent' ∧ Applied agent' message

variable {tools : WireTools} {db : Db}

lemma history_message (hinv : StoreInv tools db) {config : Config} {fleet : Fleet} {key : String}
    {fromSequence : Nat} {now : Instant} {history : CommandHistory}
    (hhistory : historyForQueryKey config fleet db key fromSequence now = .ok (some history))
    {m : ControllerCommand} (hm : m ∈ history.commands) :
    ∃ c ∈ db.commands.rows, storedMessage db c = some m := by
  unfold historyForQueryKey at hhistory
  split at hhistory
  · cases hhistory
  · simp only [bind_ok, pure_ok, Option.some.injEq] at hhistory
    obtain ⟨⟨version, stored⟩, hstored, commands, hcommands, rfl⟩ := hhistory
    obtain ⟨c, hc, hdispatch⟩ := exists_left_of_forall₂ (mapM_ok.mp hcommands) hm
    have hrow : c ∈ db.commands.rows := by
      simp only [commandHistory, bind_ok, pure_ok, Prod.mk.injEq] at hstored
      obtain ⟨_, _, rows, hrows, _, rfl⟩ := hstored
      obtain ⟨r, hr, hpersisted⟩ := exists_left_of_forall₂ (mapM_ok.mp hrows) hc
      have hmem : r ∈ db.commands.rows :=
        List.mem_of_mem_filter ((List.mem_insertionSort _).mp hr)
      rw [persistedCommand_stored hinv hmem] at hpersisted
      exact Except.ok.inj hpersisted ▸ hmem
    have hadmits : fleet.admits c.agentId = true := by
      simp only [dispatchMessage, bind_ok, Fleet.requireAdmission, require_ok] at hdispatch
      exact hdispatch.choose_spec.1
    exact ⟨c, hrow, ((dispatchMessage_iff hinv hrow hadmits).mp hdispatch).1⟩

lemma one_le_sequence (hinv : StoreInv tools db) {c : CommandRow} (hc : c ∈ db.commands.rows) :
    1 ≤ c.sequence := by
  have hmem : c.sequence ∈ (db.agentCommands c.agentId).map (·.sequence) :=
    List.mem_map_of_mem (mem_agentCommands.mpr ⟨hc, rfl⟩)
  rw [agentCommands_sequences hinv, List.mem_range'_1] at hmem
  exact hmem.1

lemma read_history_iff {history : CommandHistory}
    (hseq : ∀ m ∈ history.commands, 1 ≤ m.sequence)
    (htimes : ∀ m ∈ history.commands, m.RepresentsTimes tools) :
    (∃ messages, parseHistoryPayload tools (history.toJson tools) = .ok messages) ↔
      ∀ m ∈ history.commands, m.body.InAgentBounds := by
  constructor
  · rintro ⟨messages, hread⟩ m hm
    obtain ⟨y, _, hy⟩ := exists_right_of_forall₂ (read_history.mp hread) hm
    obtain ⟨_, content, hcontent, _⟩ := (read_command (htimes m hm)).mp hy
    exact exists_readsAs.mp ⟨content, hcontent⟩
  · intro hbounds
    have hreads : ∀ m ∈ history.commands, ∃ y,
        ControllerCommandMessage.modelValidate tools (m.toJson tools) = .ok y := by
      intro m hm
      obtain ⟨content, hcontent⟩ := exists_readsAs.mpr (hbounds m hm)
      exact ⟨_, (read_command (htimes m hm)).mpr ⟨hseq m hm, content, hcontent, rfl⟩⟩
    obtain ⟨messages, hmessages⟩ := exists_mapM_ok hreads
    exact ⟨messages, read_history.mpr (mapM_ok.mp hmessages)⟩

lemma handleCommand_applies {m : ControllerCommand} {content : ControllerCommandContent}
    (hbody : ∀ d, m.body ≠ .dispatchDeviceWork d) (hcontent : m.body.ReadsAs content)
    (crypto : CryptoTools) (keyPair : DispatchEncryptionKeyPair) (services : CommandServices)
    {enrollment : GatewayEnrollmentRecord} (henrolled : EnrolledFor enrollment m) (now : Int)
    {agent : CommandDb} (hexpects : Expects agent (m.asRead content)) :
    ∃ agent', handleCommand tools crypto keyPair services enrollment now agent
      (m.asRead content) = .ok agent' ∧ Applied agent' (m.asRead content) := by
  have haction : ∀ action : ControllerAction,
      action.value ∈ enrollment.controllerActions.map (·.value) →
        action ∈ enrollment.controllerActions := by
    intro action h
    obtain ⟨a, ha, heq⟩ := List.mem_map.mp h
    cases a <;> cases action <;> first | exact ha | simp [ControllerAction.value] at heq
  cases hb : m.body with
  | executeDeviceCommand payload =>
    rw [hb, readsAs_executeDeviceCommand] at hcontent
    obtain ⟨p, _, rfl⟩ := hcontent
    have hallowed := haction .commandsExecute (henrolled (.executeDeviceCommand payload) hb)
    obtain ⟨agent', hhandle, happlied⟩ :=
      handleJob_applies hexpects hallowed (executeDeviceCommand services p)
    refine ⟨agent', ?_, happlied⟩
    simp only [handleCommand, ControllerCommand.asRead, mapError_ok]
    exact hhandle
  | cancelJob jobId =>
    rw [hb, readsAs_cancelJob] at hcontent
    subst hcontent
    have hallowed := haction .jobsCancel (henrolled (.cancelJob jobId) hb)
    obtain ⟨agent', hhandle, happlied⟩ :=
      handleJob_applies hexpects hallowed (services.cancel (strip isRustSpace jobId))
    refine ⟨agent', ?_, happlied⟩
    simp only [handleCommand, ControllerCommand.asRead, mapError_ok]
    exact hhandle
  | dispatchDeviceWork d => exact absurd hb (hbody d)

/-- The channel stays open exactly when every message of the reply is within the Agent's bounds. -/
theorem command_unblocked_iff (tools : Tools) (db : Db) (hreach : Reachable tools db)
    (c : CommandRow) (hc : c ∈ db.commands.rows) (m : ControllerCommand)
    (hm : c.command = .inline m) (config : Config) (fleet : Fleet) (key : String)
    (fromSequence : Nat) (now : Instant) (history : CommandHistory)
    (hhistory : historyForQueryKey config fleet db key fromSequence now = .ok (some history))
    (hmem : m ∈ history.commands)
    (htimes : ∀ m' ∈ history.commands, m'.RepresentsTimes tools.wire) :
    Unblocked tools.wire history m ↔ ∀ m' ∈ history.commands, m'.body.InAgentBounds := by
  have hinv := hreach.storeInv
  have hseq : ∀ m' ∈ history.commands, 1 ≤ m'.sequence := by
    intro m' hm'
    obtain ⟨c', hc', hstored⟩ := history_message hinv hhistory hm'
    rw [(storedMessage_spec hinv hc' hstored).2.2]
    exact one_le_sequence hinv hc'
  rw [← read_history_iff hseq htimes]
  constructor
  · rintro ⟨_, messages, _, _, hread, _⟩
    exact ⟨messages, hread⟩
  · rintro ⟨messages, hread⟩
    obtain ⟨message, hmessage, hy⟩ := exists_right_of_forall₂ (read_history.mp hread) hmem
    obtain ⟨_, content, hcontent, rfl⟩ := (read_command (htimes m hmem)).mp hy
    have hbody := (hinv.inline _ (List.mem_map_of_mem hc) m hm).2.2.2
    have hrecover : ∃ recovered,
        recoverCommandsSince tools.wire [history.toJson tools.wire] = .ok recovered := by
      simp only [recoverCommandsSince, bind_ok, pure_ok]
      exact ⟨_, [messages], by simp [hread], rfl⟩
    obtain ⟨recovered, hrecover⟩ := hrecover
    refine ⟨_, messages, recovered, hy, hread, hmessage, hrecover, ?_⟩
    intro crypto keyPair services enrollment now agent henrolled hexpects
    exact handleCommand_applies hbody hcontent crypto keyPair services henrolled now hexpects

variable (count : UInt8)

def feedRequest : JobRequest :=
  ⟨.executeDeviceCommand ⟨⟨"dev_printer"⟩, .feedLines count, []⟩⟩

def feedEvents : List Event :=
  [.enqueueJob sampleConfig sampleFleet sampleAgent ⟨"job_feed", by decide +kernel⟩
      (feedRequest count) 1,
    .enqueueJob sampleConfig sampleFleet sampleAgent drawerJob
      ⟨.executeDeviceCommand ⟨⟨"dev_printer"⟩, .openCashDrawer, []⟩⟩ 2]

def afterFeed : Db := (feedEvents count).foldl (step sampleTools) {}

lemma reachable_afterFeed : Reachable sampleTools (afterFeed count) :=
  Reachable.start.run _

def feedMessage : ControllerCommand :=
  ⟨"msg_job_feed", "job_feed", 1, 1,
    .executeDeviceCommand ⟨⟨"dev_printer"⟩, .feedLines count, []⟩⟩

def drawerMessage : ControllerCommand :=
  ⟨"msg_job_drawer", "job_drawer", 2, 2,
    .executeDeviceCommand ⟨⟨"dev_printer"⟩, .openCashDrawer, []⟩⟩

def feedHistory : CommandHistory :=
  ⟨"2026-10-03", [feedMessage count, drawerMessage]⟩

lemma feedHistory_times : ∀ m ∈ (feedHistory count).commands, m.RepresentsTimes sampleWire := by
  intro m hm
  simp only [feedHistory, List.mem_cons, List.not_mem_nil, or_false] at hm
  rcases hm with rfl | rfl
  · exact ⟨show sampleWire.representsTime 1 by decide +kernel, fun _ h => by cases h⟩
  · exact ⟨by decide +kernel, fun _ h => by cases h⟩

theorem short_feed_unblocked : Unblocked sampleWire (feedHistory 24) (feedMessage 24) :=
  (command_unblocked_iff sampleTools (afterFeed 24) (reachable_afterFeed 24)
    ⟨"job_feed", sampleAgent, "msg_job_feed", 1, .queued, .inline (feedMessage 24),
      sampleWire.sha256 (sampleWire.toVec ((feedRequest 24).toJson sampleWire)), 1, none, 1⟩
    (by decide +kernel) (feedMessage 24) rfl sampleConfig sampleFleet
    (historyKey sampleConfig sampleAgent) 1 3 (feedHistory 24) (by decide +kernel)
    (by decide +kernel) (feedHistory_times 24)).mpr (by decide +kernel)

/-- A feed of 25 lines fails the recovery of the drawer command after it. -/
theorem long_feed_blocks_drawer :
    Reachable sampleTools (afterFeed 25) ∧
      historyForQueryKey sampleConfig sampleFleet (afterFeed 25)
        (historyKey sampleConfig sampleAgent) 1 3 = .ok (some (feedHistory 25)) ∧
      (∀ m ∈ (feedHistory 25).commands, m.RepresentsTimes sampleWire) ∧
      (ControllerCommandMessage.modelValidate sampleWire
        ((feedMessage 25).toJson sampleWire)).toOption = none ∧
      (recoverCommandsSince sampleWire [(feedHistory 25).toJson sampleWire]).toOption = none ∧
      ¬Unblocked sampleWire (feedHistory 25) (feedMessage 25) ∧
      ¬Unblocked sampleWire (feedHistory 25) drawerMessage := by
  have hfails : (recoverCommandsSince sampleWire [(feedHistory 25).toJson sampleWire]).toOption =
      none := by decide +kernel
  have hblocked : ∀ m, ¬Unblocked sampleWire (feedHistory 25) m := by
    rintro m ⟨_, _, recovered, _, _, _, hrecovered, _⟩
    rw [hrecovered] at hfails
    cases hfails
  exact ⟨reachable_afterFeed 25, by decide +kernel, feedHistory_times 25, by decide +kernel, hfails,
    hblocked _, hblocked _⟩

end Inari.Controller
