import Inari.Agent.Inbound
import Inari.Controller.Samples
import Inari.Proofs.ControllerStore

/-!
# Delivery of stored commands

One Managed Work command that can no longer be dispatched fails the reply with all later commands.
-/

namespace Inari.Controller

open Lib Inari.Agent

def Db.agentCommands (db : Db) (agentId : AgentId) : List CommandRow :=
  db.commands.rows.filter (fun c => c.agentId == agentId)

def storedMessage (db : Db) (c : CommandRow) : Option ControllerCommand :=
  match c.command with
  | .inline message => some message
  | .managedWork id =>
    (db.payloads.first (fun p => p.managedWorkId == id)).map (·.protection.plaintext)

def ControllerCommand.dispatchEpoch (m : ControllerCommand) : Option Nat :=
  match m.body with
  | .dispatchDeviceWork d => some d.authenticatedData.dispatchEpoch
  | _ => none

/-- What the handlers of the Agent pass to `record_inbound_command`. -/
def ControllerCommand.inbound (m : ControllerCommand) : InboundCommand ControllerCommand :=
  ⟨m.commandId, m.messageId, some m.sequence, m.dispatchEpoch, m.body.messageType, m⟩

structure Records (r : InboundRow ControllerCommand) (m : ControllerCommand) : Prop where
  messageId : r.messageId = m.messageId
  dispatchEpoch : r.dispatchEpoch = m.dispatchEpoch
  messageType : r.messageType = m.body.messageType
  payload : r.payload = m

/-- The Agent has applied exactly the commands `1, .., k` of those the Controller stores for it. -/
structure AppliedThrough (db : Db) (agentId : AgentId) (agent : GatewayDb ControllerCommand)
    (k : Nat) : Prop where
  applied : ∀ n, (∃ r ∈ agent.inbound.rows, r.state.applied = true ∧ r.sequence = some n) ↔
    1 ≤ n ∧ n ≤ k
  recorded : ∀ r ∈ agent.inbound.rows, ∃ c ∈ db.agentCommands agentId,
    r.commandId = c.commandId ∧ r.sequence = some c.sequence ∧
      ∀ m, storedMessage db c = some m → Records r m
  epochs : ∀ position, agent.dispatchPosition = some position →
    ∀ c ∈ db.agentCommands agentId, k < c.sequence → ∀ m, storedMessage db c = some m →
      ∀ epoch, m.dispatchEpoch = some epoch → position.dispatchEpoch ≤ epoch

def historyKey (config : Config) (agentId : AgentId) : String :=
  String.ofList (config.namespacePrefix.toList.rdropWhile (· == '/') ++
    '/' :: agentId.text.toList ++ "/commands/history".toList)

/-- The reply for the commands after `k` starts with command `k + 1`, and the Agent records it. -/
def Delivered (config : Config) (fleet : Fleet) (db : Db) (agentId : AgentId)
    (agent : GatewayDb ControllerCommand) (k : Nat) (now : Instant) : Prop :=
  ∃ history first rest result,
    historyForQueryKey config fleet db (historyKey config agentId) (k + 1) now =
      .ok (some history) ∧
    history.commands = first :: rest ∧ first.sequence = k + 1 ∧
    GatewayRepository.recordInboundCommand agent first.inbound = .ok result

def ControllerCommand.dispatchExpiry (m : ControllerCommand) : Option Int :=
  match m.body with
  | .dispatchDeviceWork d => some d.authenticatedData.expiresAt
  | _ => none

/-- Neither the deadline nor the expiry of the signed dispatch of waiting Managed Work has passed.
-/
def DispatchOpen (config : Config) (db : Db) (now : Instant) (id : ManagedWorkId) : Prop :=
  config.dispatchSigner.isSome = true ∧
  (∃ w ∈ db.works.rows, w.managedWorkId = id ∧ w.state = .dispatching ∧ now < w.expiresAt) ∧
  ∃ p ∈ db.payloads.rows, p.managedWorkId = id ∧
    p.protection.plaintext.dispatchExpiry.any (fun e => timestamp now < e) = true

instance (config : Config) (db : Db) (now : Instant) (id : ManagedWorkId) :
    Decidable (DispatchOpen config db now id) :=
  inferInstanceAs (Decidable (_ ∧ _))

def CommandContent.managedWorkId? : CommandContent → Option ManagedWorkId
  | .inline _ => none
  | .managedWork id => some id

def Db.managedAfter (db : Db) (agentId : AgentId) (k : Nat) : List ManagedWorkId :=
  ((db.agentCommands agentId).filter (fun c => k < c.sequence)).filterMap
    (·.command.managedWorkId?)

variable {tools : WireTools} {db : Db}

lemma agentKeys_eq (agentId : AgentId) :
    agentKeys db agentId = (db.agentCommands agentId).map CommandRow.key := by
  rw [agentKeys, commandKeys, List.filter_map]
  rfl

variable {agentId : AgentId} {c : CommandRow} {k : Nat} {m : ControllerCommand} {config : Config}
  {fleet : Fleet} {now : Instant} {agent : GatewayDb ControllerCommand}

lemma mem_agentCommands :
    c ∈ db.agentCommands agentId ↔ c ∈ db.commands.rows ∧ c.agentId = agentId := by
  simp [Db.agentCommands]

lemma mem_managedAfter {id : ManagedWorkId} :
    id ∈ db.managedAfter agentId k ↔
      ∃ c ∈ db.agentCommands agentId, k < c.sequence ∧ c.command = .managedWork id := by
  simp only [Db.managedAfter, List.mem_filterMap, List.mem_filter, decide_eq_true_eq, and_assoc]
  refine exists_congr (fun c => and_congr_right (fun _ => and_congr_right (fun _ => ?_)))
  cases c.command <;> simp [CommandContent.managedWorkId?]

lemma agentCommands_sequences (hinv : StoreInv tools db) (agentId : AgentId) :
    (db.agentCommands agentId).map (·.sequence) =
      List.range' 1 (db.agentCommands agentId).length := by
  have h := hinv.sequences agentId
  rw [agentKeys_eq, List.map_map, List.length_map] at h
  exact h

lemma sequence_unique {a b : CommandRow} (ha : a ∈ db.agentCommands agentId)
    (hb : b ∈ db.agentCommands agentId) (h : a.sequence = b.sequence) : a = b := by
  rw [mem_agentCommands] at ha hb
  exact db.commands.eq_of_key (u := commandSequenceKey) (by simp [commandSpec]) ha.1 hb.1 rfl
    (by simp [commandSequenceKey, ha.2, hb.2, h])

lemma first_payload {p : ManagedPayloadRow} (hp : p ∈ db.payloads.rows) :
    db.payloads.first (fun r => r.managedWorkId == p.managedWorkId) = some p :=
  Table.first_eq hp (by simp) (fun r hr hid => payload_unique hr hp (by simpa using hid))

lemma payload_dispatches (hinv : StoreInv tools db) (hc : c ∈ db.commands.rows)
    {p : ManagedPayloadRow} (hp : p ∈ db.payloads.rows)
    (hcommand : c.command = .managedWork p.managedWorkId) : Dispatches c.key p := by
  obtain ⟨_, key, hkey, hdispatch⟩ := hinv.payloads p hp
  obtain ⟨c', hc', rfl⟩ := List.mem_map.mp hkey
  have hid := hinv.managed _ (List.mem_map_of_mem hc) _ hcommand
  have hid' := hinv.managed _ hkey _ hdispatch.content
  rw [command_unique hc hc' (hid.trans hid'.symm)]
  exact hdispatch

lemma storedMessage_spec (hinv : StoreInv tools db) (hc : c ∈ db.commands.rows)
    (h : storedMessage db c = some m) :
    m.commandId = c.commandId ∧ m.messageId = c.messageId ∧ m.sequence = c.sequence := by
  unfold storedMessage at h
  split at h
  · rename_i message hcommand
    cases h
    obtain ⟨hid, hmessage, hsequence, _⟩ := hinv.inline _ (List.mem_map_of_mem hc) _ hcommand
    exact ⟨hid, hmessage, hsequence⟩
  · rename_i id hcommand
    obtain ⟨p, hfirst, rfl⟩ := Option.map_eq_some_iff.mp h
    obtain ⟨hp, hpid⟩ := Table.first_spec hfirst
    have hdispatch := payload_dispatches hinv hc hp (by rw [hcommand, beq_iff_eq.mp hpid])
    exact ⟨hdispatch.commandId, hdispatch.messageId, hdispatch.sequence⟩

lemma openDispatch_iff (hinv : StoreInv tools db) (hc : c ∈ db.commands.rows)
    (hadmits : fleet.admits c.agentId = true) {id : ManagedWorkId}
    (hcommand : c.command = .managedWork id) :
    openDispatch config fleet db c id now = .ok m ↔
      storedMessage db c = some m ∧ DispatchOpen config db now id := by
  have hstored : storedMessage db c =
      (db.payloads.first (fun p => p.managedWorkId == id)).map (·.protection.plaintext) := by
    simp only [storedMessage, hcommand]
  simp only [openDispatch, managedPayload, bind_ok, orRaise_ok, require_ok, pure_ok, hstored]
  constructor
  · rintro ⟨_, ⟨w, hw, _, hstate, p, hp, rfl⟩, _, hsigner, m', hopen, d, hd, _, hmatch, _, _, rfl⟩
    have hm : p.protection.plaintext = m' := by
      simp only [ProtectedPayload.open] at hopen
      split at hopen
      · exact Except.ok.inj hopen
      · cases hopen
    have hbody : m'.body = .dispatchDeviceWork d := by
      unfold dispatchOf at hd
      split at hd
      · rename_i heq
        cases hd
        exact heq
      · cases hd
    simp only [Bool.and_eq_true, beq_iff_eq, decide_eq_true_eq] at hstate hmatch
    refine ⟨by rw [hp, Option.map_some, hm], hsigner, ?_, ?_⟩
    · exact ⟨w, (Table.first_spec hw).1, by simpa using (Table.first_spec hw).2, hstate.1, hstate.2⟩
    · refine ⟨p, (Table.first_spec hp).1, by simpa using (Table.first_spec hp).2, ?_⟩
      simp [ControllerCommand.dispatchExpiry, hm, hbody, hmatch.2]
  · rintro ⟨hm, hsigner, ⟨w, hw, rfl, hstate, hexpires⟩, p, hp, hpid, hopen⟩
    have hfirst := first_payload hp
    rw [hpid] at hfirst
    rw [hfirst, Option.map_some, Option.some.injEq] at hm
    have hdispatch := payload_dispatches hinv hc hp (by rw [hcommand, hpid])
    obtain ⟨d, hbody, hwork, hagent⟩ := hdispatch.body
    have hopen : timestamp now < d.authenticatedData.expiresAt := by
      simpa [ControllerCommand.dispatchExpiry, hbody] using hopen
    obtain ⟨⟨w', hw', hid, hcontext⟩, _⟩ := hinv.payloads p hp
    obtain rfl := work_unique hw' hw (hid.trans hpid)
    refine ⟨_, ⟨w', first_work hw, (), by simp [hstate, hexpires], p, hfirst, rfl⟩, (), hsigner, m,
      ?_, d, ?_, (), ?_, (), ?_, rfl⟩
    · simp only [ProtectedPayload.open, hcontext, if_true, hm]
    · simp only [dispatchOf, ← hm, hbody]
    · simp only [← hm, hdispatch.commandId, hwork, hpid, hagent, CommandRow.key, beq_self_eq_true,
        Bool.and_true, Bool.true_and, decide_eq_true_eq]
      exact hopen
    · simp [Fleet.requireAdmission, hadmits]

lemma dispatchMessage_iff (hinv : StoreInv tools db) (hc : c ∈ db.commands.rows)
    (hadmits : fleet.admits c.agentId = true) :
    dispatchMessage config fleet db now c = .ok m ↔ storedMessage db c = some m ∧
      ∀ id, c.command = .managedWork id → DispatchOpen config db now id := by
  simp only [dispatchMessage, bind_ok, Fleet.requireAdmission, require_ok, hadmits]
  cases hcommand : c.command with
  | inline => simp [storedMessage, hcommand, pure_ok]
  | managedWork =>
    simp only [openDispatch_iff hinv hc hadmits hcommand, CommandContent.managedWork.injEq,
      forall_eq']
    constructor
    · rintro ⟨_, _, h⟩
      exact h
    · intro h
      exact ⟨(), trivial, h⟩

lemma mem_text_ne_slash {c : Char} (hc : c ∈ agentId.text.toList) : c ≠ '/' := by
  have hvalid := agentId.valid
  simp only [isIdentifier, Bool.and_eq_true] at hvalid
  obtain ⟨⟨⟨_, hstart⟩, _⟩, hall⟩ := hvalid
  obtain ⟨suffix, hsuffix⟩ := List.isPrefixOf_iff_prefix.mp hstart
  rw [← hsuffix] at hc hall
  have hdrop : ("agt_".toList ++ suffix).drop "agt_".length = suffix := rfl
  rw [hdrop] at hall
  rcases List.mem_append.mp hc with hc | hc
  · rintro rfl
    revert hc
    decide
  · rintro rfl
    have := List.all_eq_true.mp hall _ hc
    revert this
    decide

lemma agentIdFromKey_historyKey (config : Config) (agentId : AgentId) :
    agentIdFromKey config.namespacePrefix (historyKey config agentId) = some agentId.text := by
  set start := config.namespacePrefix.toList.rdropWhile (· == '/') with hstart
  have hkey : (historyKey config agentId).toList =
      start ++ ('/' :: (agentId.text.toList ++ "/commands/history".toList)) := by
    simp only [historyKey, String.toList_ofList, ← hstart, List.append_assoc, List.cons_append]
  have hpre : start.isPrefixOf (historyKey config agentId).toList = true := by
    rw [hkey]
    exact List.isPrefixOf_iff_prefix.mpr (List.prefix_append _ _)
  have hdrop : (historyKey config agentId).toList.drop start.length =
      '/' :: (agentId.text.toList ++ "/commands/history".toList) := by
    rw [hkey, List.drop_left]
  have htake : (agentId.text.toList ++ "/commands/history".toList).takeWhile (· ≠ '/') =
      agentId.text.toList := by
    rw [List.takeWhile_append_of_pos]
    · simp
    · intro c hc
      simpa using mem_text_ne_slash hc
  simp only [agentIdFromKey, ← hstart, hpre, hdrop, htake, String.ofList_toList]

lemma agent_of_admits (h : fleet.admits agentId = true) :
    ∃ row, fleet.agent? agentId.text = some row := by
  simp only [Fleet.admits, Fleet.isActiveAgent, Bool.and_eq_true, List.any_eq_true,
    beq_iff_eq] at h
  obtain ⟨_, row, hrow, ⟨⟨⟨_, hid⟩, _⟩, _⟩, _⟩ := h
  rw [← Option.isSome_iff_exists, Fleet.agent?, List.find?_isSome]
  exact ⟨row, hrow, by simp [hid]⟩

lemma persistedCommand_stored (hinv : StoreInv tools db) (hc : c ∈ db.commands.rows) :
    persistedCommand c = .ok c := by
  unfold persistedCommand
  split
  · rename_i hcommand
    exact absurd rfl ((hinv.inline _ (List.mem_map_of_mem hc) _ hcommand).2.2.2 _)
  · rfl

lemma commandHistory_eq (hinv : StoreInv tools db) {row : AgentRow}
    (hrow : fleet.agent? agentId.text = some row) (hk : k < (db.agentCommands agentId).length) :
    commandHistory fleet db agentId.text (k + 1) =
      .ok (row.protocolVersion, (db.agentCommands agentId).drop k) := by
  have hseq := agentCommands_sequences hinv agentId
  have hlast : (db.agentCommands agentId).length ≤ 9223372036854775807 := by
    have hmem : (db.agentCommands agentId).length ∈
        (db.agentCommands agentId).map (·.sequence) := by
      rw [hseq, List.mem_range'_1]
      omega
    obtain ⟨c, hc, hcseq⟩ := List.mem_map.mp hmem
    rw [← hcseq]
    exact hinv.bounded _ (List.mem_map_of_mem (mem_agentCommands.mp hc).1)
  have hmin : min (k + 1) 9223372036854775807 = 1 + k := by omega
  have hselect : db.commands.select (fun c => c.agentId.text == agentId.text &&
      decide (min (k + 1) 9223372036854775807 ≤ c.sequence)) =
      (db.agentCommands agentId).drop k := by
    rw [hmin, ← filter_numbered hseq k, Db.agentCommands, List.filter_filter, Table.select]
    apply List.filter_congr
    intro c _
    rw [Bool.and_comm]
    congr 1
    rw [Bool.eq_iff_iff, beq_iff_eq, beq_iff_eq]
    constructor
    · intro htext
      cases hid : c.agentId
      cases hid' : agentId
      simp_all
    · rintro rfl
      rfl
  have hsorted : ((db.agentCommands agentId).drop k).Pairwise
      (fun a b => a.sequence ≤ b.sequence) := by
    have hrange : ((db.agentCommands agentId).map (·.sequence)).Pairwise (· ≤ ·) := by
      rw [hseq]
      exact List.pairwise_le_range'
    exact (List.pairwise_map.mp hrange).drop
  have hpersisted : ((db.agentCommands agentId).drop k).mapM persistedCommand =
      .ok ((db.agentCommands agentId).drop k) := by
    rw [mapM_ok, List.forall₂_same]
    intro c hc
    exact persistedCommand_stored hinv (mem_agentCommands.mp (List.mem_of_mem_drop hc)).1
  simp only [commandHistory, hrow, hselect, hsorted.insertionSort_eq, hpersisted, orRaise]
  rfl

lemma lastAppliedSequence_eq (h : AppliedThrough db agentId agent k) :
    GatewayRepository.lastAppliedSequence agent = k := by
  apply foldr_max_eq
  intro n
  rw [← h.applied n]
  simp only [List.mem_filterMap, Table.select, List.mem_filter]
  constructor
  · rintro ⟨r, ⟨hr, happlied⟩, hn⟩
    exact ⟨r, hr, happlied, hn⟩
  · rintro ⟨r, hr, happlied, hn⟩
    exact ⟨r, ⟨hr, happlied⟩, hn⟩

lemma inbound_insert (hid : ∀ r ∈ agent.inbound.rows, r.commandId ≠ m.commandId)
    (hsequence : ∀ r ∈ agent.inbound.rows, r.sequence ≠ some m.sequence) :
    ∃ inbound, agent.inbound.insert m.inbound.row = (.ok inbound : Except GatewayError _) := by
  apply Table.insert_ok rfl
  intro u hu k hk r hr hkey
  simp only [inboundSpec, List.mem_cons, List.not_mem_nil, or_false] at hu
  rcases hu with rfl | rfl | rfl
  · exact hid r hr (Option.some.inj (hkey.trans hk.symm))
  · exact hsequence r hr (hkey.trans hk.symm)
  · -- equal pairs of epoch and sequence have equal sequences
    obtain ⟨_, _, h⟩ := Option.bind_eq_some_iff.mp hkey
    obtain ⟨_, _, h'⟩ := Option.bind_eq_some_iff.mp hk
    obtain ⟨n, hn, rfl⟩ := Option.map_eq_some_iff.mp h
    obtain ⟨n', hn', heq⟩ := Option.map_eq_some_iff.mp h'
    cases heq
    exact hsequence r hr (hn.trans hn'.symm)

lemma recordInboundCommand_next (hinv : StoreInv tools db)
    (happlied : AppliedThrough db agentId agent k) (hc : c ∈ db.agentCommands agentId)
    (hseq : c.sequence = k + 1) (hm : storedMessage db c = some m) :
    ∃ result, GatewayRepository.recordInboundCommand agent m.inbound = .ok result := by
  obtain ⟨hid, hmessage, hsequence⟩ := storedMessage_spec hinv (mem_agentCommands.mp hc).1 hm
  unfold GatewayRepository.recordInboundCommand
  cases hfirst : agent.inbound.first (fun r => r.commandId == m.inbound.commandId) with
  | some existing =>
    obtain ⟨hmem, hexisting⟩ := Table.first_spec hfirst
    obtain ⟨c', hc', hid', hseq', hrecords⟩ := happlied.recorded existing hmem
    have hsame : c' = c := by
      apply command_unique (mem_agentCommands.mp hc').1 (mem_agentCommands.mp hc).1
      rw [← hid', beq_iff_eq.mp hexisting]
      exact hid
    subst hsame
    obtain ⟨hmessage', hepoch, htype, hpayload⟩ := hrecords m hm
    refine ⟨(agent, existing, false), ?_⟩
    simp only [bind_ok, pure_ok, GatewayRepository.assertExactInboundReplay, require_ok]
    refine ⟨(), ?_, trivial⟩
    simp [ControllerCommand.inbound, hmessage', hepoch, htype, hpayload, hseq', hsequence]
  | none =>
    have hlast := lastAppliedSequence_eq happlied
    have hepoch : GatewayRepository.requireCurrentEpoch agent m.inbound.dispatchEpoch = .ok () := by
      cases hposition : agent.dispatchPosition with
      | none => cases h : m.inbound.dispatchEpoch <;>
          simp [GatewayRepository.requireCurrentEpoch, hposition]
      | some position =>
        cases h : m.inbound.dispatchEpoch with
        | none => rfl
        | some epoch =>
          have hle := happlied.epochs position hposition c hc (by omega) m hm epoch h
          simp [GatewayRepository.requireCurrentEpoch, hposition, hle]
    -- a record with this sequence would be of this command, but there is none with its id
    have hfresh : ∀ r ∈ agent.inbound.rows, r.sequence ≠ some m.sequence := by
      intro r hr hrseq
      obtain ⟨c', hc', hid', hseq', _⟩ := happlied.recorded r hr
      have hsame : c' = c := sequence_unique hc' hc
        (Option.some.inj (hseq'.symm.trans (hrseq.trans (by rw [hsequence]))))
      have hne := Table.first_none hfirst hr
      rw [hid', hsame, ← hid] at hne
      simp [ControllerCommand.inbound] at hne
    obtain ⟨inbound, hinsert⟩ := inbound_insert (fun r hr => by
      simpa [ControllerCommand.inbound] using Table.first_none hfirst hr) hfresh
    refine ⟨({ agent with inbound := inbound }, m.inbound.row, true), ?_⟩
    simp only [bind_ok, pure_ok, hepoch, hinsert, GatewayRepository.requireNextSequence]
    refine ⟨(), ?_, (), trivial, inbound, rfl, rfl⟩
    simp [ControllerCommand.inbound, hlast, hsequence, hseq]

lemma historyForQueryKey_eq (hinv : StoreInv tools db) (hadmits : fleet.admits agentId = true)
    (hk : k < (db.agentCommands agentId).length) {messages : List ControllerCommand} :
    (∃ history, historyForQueryKey config fleet db (historyKey config agentId) (k + 1) now =
      .ok (some history) ∧ history.commands = messages) ↔
      ((db.agentCommands agentId).drop k).mapM (dispatchMessage config fleet db now) =
        .ok messages := by
  obtain ⟨row, hrow⟩ := agent_of_admits hadmits
  simp only [historyForQueryKey, agentIdFromKey_historyKey, commandHistory_eq hinv hrow hk, bind_ok,
    pure_ok, Except.ok.injEq, Option.some.injEq]
  constructor
  · rintro ⟨_, ⟨_, rfl, commands, hcommands, rfl⟩, rfl⟩
    exact hcommands
  · intro h
    exact ⟨⟨row.protocolVersion, messages⟩, ⟨_, rfl, messages, h, rfl⟩, rfl⟩

lemma storedMessage_of_open (h : ∀ id, c.command = .managedWork id → DispatchOpen config db now id) :
    ∃ m, storedMessage db c = some m := by
  unfold storedMessage
  split
  · exact ⟨_, rfl⟩
  · rename_i id hcommand
    obtain ⟨_, _, p, hp, rfl, _⟩ := h id hcommand
    exact ⟨_, by rw [first_payload hp, Option.map_some]⟩

/-- The next command is delivered if and only if all later Managed Work can still be dispatched. -/
theorem next_command_delivered_iff (tools : Tools) (db : Db) (hreach : Reachable tools db)
    (config : Config) (fleet : Fleet) (agentId : AgentId) (hadmits : fleet.admits agentId = true)
    (agent : GatewayDb ControllerCommand) (k : Nat) (hk : k < (db.agentCommands agentId).length)
    (happlied : AppliedThrough db agentId agent k) (now : Instant) :
    Delivered config fleet db agentId agent k now ↔
      ∀ id ∈ db.managedAfter agentId k, DispatchOpen config db now id := by
  have hinv := hreach.storeInv
  have hseq := agentCommands_sequences hinv agentId
  have hlater : ∀ c, c ∈ (db.agentCommands agentId).drop k ↔
      c ∈ db.agentCommands agentId ∧ k < c.sequence := by
    intro c
    rw [← filter_numbered hseq k, List.mem_filter, decide_eq_true_eq]
    exact and_congr_right (fun _ => by omega)
  have hiff : ∀ c ∈ (db.agentCommands agentId).drop k, ∀ m,
      dispatchMessage config fleet db now c = .ok m ↔ storedMessage db c = some m ∧
        ∀ id, c.command = .managedWork id → DispatchOpen config db now id := by
    intro c hc m
    obtain ⟨hmem, hagent⟩ := mem_agentCommands.mp (List.mem_of_mem_drop hc)
    exact dispatchMessage_iff hinv hmem (hagent ▸ hadmits)
  constructor
  · rintro ⟨history, _, _, _, hhistory, _⟩ id hid
    obtain ⟨c, hc, hck, hcommand⟩ := mem_managedAfter.mp hid
    have hall := mapM_ok.mp ((historyForQueryKey_eq hinv hadmits hk).mp ⟨history, hhistory, rfl⟩)
    have hdrop := (hlater c).mpr ⟨hc, hck⟩
    obtain ⟨i, hi, rfl⟩ := List.getElem_of_mem hdrop
    exact ((hiff _ hdrop _).mp (hall.get hi (hall.length_eq ▸ hi))).2 id hcommand
  · intro hall
    have hopen : ∀ c ∈ db.agentCommands agentId, k < c.sequence →
        ∀ id, c.command = .managedWork id → DispatchOpen config db now id :=
      fun c hc hck id hid => hall id (mem_managedAfter.mpr ⟨c, hc, hck, hid⟩)
    have hmessage : ∀ c ∈ (db.agentCommands agentId).drop k, ∃ m,
        dispatchMessage config fleet db now c = .ok m := by
      intro c hc
      have hc' := (hlater c).mp hc
      obtain ⟨m, hm⟩ := storedMessage_of_open (hopen c hc'.1 hc'.2)
      exact ⟨m, (hiff c hc m).mpr ⟨hm, hopen c hc'.1 hc'.2⟩⟩
    obtain ⟨messages, hmessages⟩ := exists_mapM_ok hmessage
    obtain ⟨history, hhistory, hcommands⟩ :=
      (historyForQueryKey_eq hinv hadmits hk).mpr hmessages
    obtain ⟨first, rest, hdrop⟩ : ∃ first rest, (db.agentCommands agentId).drop k = first :: rest :=
      List.exists_cons_of_ne_nil (by simpa using hk)
    have hreplies := mapM_ok.mp hmessages
    rw [hdrop] at hreplies
    obtain ⟨m, ms, hfirst, _, rfl⟩ := List.forall₂_cons_left_iff.mp hreplies
    have hm := ((hiff first (hdrop ▸ List.mem_cons_self) m).mp hfirst).1
    have hmem : first ∈ db.agentCommands agentId :=
      List.mem_of_mem_drop (hdrop ▸ List.mem_cons_self)
    have hnumber : first.sequence = k + 1 := by
      have hget : (db.agentCommands agentId)[k]? = some first := by
        rw [← List.head?_drop, hdrop, List.head?_cons]
      have hmap := congrArg (fun l => l[k]?) hseq
      simp only [List.getElem?_map, hget, Option.map_some] at hmap
      rw [List.getElem?_range' hk] at hmap
      have := Option.some.inj hmap
      omega
    obtain ⟨result, hresult⟩ := recordInboundCommand_next hinv happlied hmem hnumber hm
    have hmseq := (storedMessage_spec hinv (mem_agentCommands.mp hmem).1 hm).2.2
    exact ⟨history, m, ms, result, hhistory, hcommands, hmseq.trans hnumber, hresult⟩

lemma appliedThrough_empty (db : Db) (agentId : AgentId) : AppliedThrough db agentId {} 0 where
  applied n := by
    simp only [Table.rows_empty, List.not_mem_nil, false_and, exists_false, false_iff]
    omega
  recorded r hr := by simp at hr
  epochs position h := by cases h

lemma reachable_afterEvents (events : List Event) : Reachable sampleTools (afterEvents events) :=
  Reachable.start.run events

theorem sample_first_command_delivered :
    (afterEvents sampleEvents).managedAfter sampleAgent 0 ≠ [] ∧
      Delivered sampleConfig sampleFleet (afterEvents sampleEvents) sampleAgent {} 0 3000000 :=
  ⟨by decide +kernel,
    (next_command_delivered_iff sampleTools _ (reachable_afterEvents sampleEvents) sampleConfig
      sampleFleet sampleAgent (by decide +kernel) {} 0 (by decide +kernel)
      (appliedThrough_empty _ _) 3000000).mpr (by decide +kernel)⟩

def sweptEvents : List Event := sampleEvents ++ [.sweep (fun _ => true) 300000000]

/-- Managed Work whose deadline has passed keeps the drawer command after it from being delivered.
-/
theorem expired_work_blocks_later_command :
    Reachable sampleTools (afterEvents sweptEvents) ∧ sampleFleet.admits sampleAgent = true ∧
      (afterEvents sweptEvents).works.rows.map (·.state) = [.recoveryUncertain] ∧
      0 < ((afterEvents sweptEvents).agentCommands sampleAgent).length ∧
      AppliedThrough (afterEvents sweptEvents) sampleAgent {} 0 ∧
      historyForQueryKey sampleConfig sampleFleet (afterEvents sweptEvents)
        (historyKey sampleConfig sampleAgent) 1 301000000 =
          .error (.conflict "Managed Work is not available for dispatch") ∧
      ¬Delivered sampleConfig sampleFleet (afterEvents sweptEvents) sampleAgent {} 0 301000000 := by
  have hfails : historyForQueryKey sampleConfig sampleFleet (afterEvents sweptEvents)
      (historyKey sampleConfig sampleAgent) 1 301000000 =
        .error (.conflict "Managed Work is not available for dispatch") := by decide +kernel
  refine ⟨reachable_afterEvents _, by decide +kernel, by decide +kernel, by decide +kernel,
    appliedThrough_empty _ _, hfails, ?_⟩
  rintro ⟨history, _, _, _, hhistory, _⟩
  rw [hfails] at hhistory
  cases hhistory

end Inari.Controller
