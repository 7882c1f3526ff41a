import Inari.Lib.Moves
import Inari.Lib.Run
import Inari.Proofs.CommandDelivery
import Inari.Proofs.Submissions

/-!
# The commands of an Agent over a run of the Controller

Each transaction moves the stored commands and may append one. An inline command takes the last
answer its Agent sends.
-/

namespace Inari.Controller

open Lib

def CommandState.isAnswer : CommandState → Bool
  | .accepted | .rejected => true
  | _ => false

def CommandRow.fixed (c : CommandRow) : CommandKey × Bytes × Instant :=
  (c.key, c.requestFingerprint, c.issuedAt)

/-- What one transaction may do to a stored command; `answers` says which answers it takes. -/
inductive CommandMove (answers : CommandRow → CommandState → Prop) (c : CommandRow) :
    CommandRow → Prop
  | stays : CommandMove answers c c
  | published (now : Instant) (h : c.state = .queued ∨ c.state = .published) :
      CommandMove answers c
        { c with state := .published, publishedAt := some now, updatedAt := now }
  | answered (state : CommandState) (now : Instant) (hinline : c.command.isInline = true)
      (hstate : state.isAnswer = true) (h : answers c state) :
      CommandMove answers c { c with state := state, updatedAt := now }
  | observed (now : Instant) (h : c.command.isInline = false) :
      CommandMove answers c { c with state := .accepted, updatedAt := now }

/-- A command as it is inserted: it waits for its Agent, and a dispatch has its Managed Work. -/
def NewCommand (db : Db) (c : CommandRow) : Prop :=
  c.state = .queued ∧ ∀ id, c.command = .managedWork id → ∃ w ∈ db.works.rows,
    w.managedWorkId = id ∧ w.requestFingerprint = c.requestFingerprint

abbrev CommandStep (answers : CommandRow → CommandState → Prop) (db db' : Db) : Prop :=
  Moves (CommandMove answers) (NewCommand db') db.commands.rows db'.commands.rows

section

variable {answers : CommandRow → CommandState → Prop} {tools : WireTools} {db db' : Db}
  {c' row : CommandRow} {agentId : AgentId} {fingerprint : Bytes} {kind : JobKind} {now : Instant}
  {fleet : Fleet} {jobId : JobId} {config : Config}

variable {c : CommandRow}

lemma CommandMove.fixed (h : CommandMove answers c c') : c'.fixed = c.fixed := by
  cases h <;> rfl

lemma commandId_of_fixed (h : c'.fixed = c.fixed) :
    c'.commandId = c.commandId := congrArg (fun f => f.1.commandId) h

lemma command_of_fixed (h : c'.fixed = c.fixed) :
    c'.command = c.command := congrArg (fun f => f.1.command) h

lemma requestFingerprint_of_fixed (h : c'.fixed = c.fixed) :
    c'.requestFingerprint = c.requestFingerprint := congrArg (fun f => f.2.1) h

lemma CommandMove.isAnswer (h : CommandMove answers c c') (hc : c.state.isAnswer = true) :
    c'.state.isAnswer = true := by
  cases h with
  | stays => exact hc
  | published now h => rcases h with h | h <;> simp [h, CommandState.isAnswer] at hc
  | answered state now _ hstate => exact hstate
  | observed => rfl

lemma CommandStep.frame (h : db'.commands = db.commands) : CommandStep answers db db' := by
  rw [CommandStep, h]
  exact .refl (fun _ => .stays) _

lemma CommandStep.insert {commands : Table commandSpec}
    (h : db.commands.insert row = (.ok commands : Except Error _)) (hrow : NewCommand db' row)
    (hcommands : db'.commands = commands) : CommandStep answers db db' := by
  rw [CommandStep, hcommands, Table.insert_rows h]
  exact .append (fun _ => .stays) hrow

lemma CommandStep.updated {commands : Table commandSpec} {p : CommandRow → Bool}
    {f : CommandRow → CommandRow} (h : db.commands.update p f = (.ok commands : Except Error _))
    (hf : ∀ c ∈ db.commands.rows, p c = true → CommandMove answers c (f c))
    (hcommands : db'.commands = commands) : CommandStep answers db db' := by
  rw [CommandStep, hcommands, Table.update_rows h]
  exact .updated (fun _ => .stays) hf

lemma Change.commands {admits : Prop} {verified : SignedAgentStateObservation → Prop}
    (h : Change tools admits verified db db') : CommandStep answers db db' := by
  cases h with
  | none => exact .frame rfl
  | preflights => exact .frame rfl
  | inserted h =>
    simp only [insertCommand, bind_ok, pure_ok, Prod.mk.injEq] at h
    obtain ⟨n, _, commands, hcommands, _, _, rfl, _⟩ := h
    exact .insert hcommands ⟨rfl, fun id hid => by simp [queuedCommand] at hid⟩ rfl
  | @published agentId commandId now _ h =>
    simp only [markCommandPublished, bind_ok, pure_ok] at h
    obtain ⟨commands, hcommands, rfl⟩ := h
    refine .updated hcommands (fun c _ hp => .published now ?_) rfl
    simp only [Bool.and_eq_true, Bool.or_eq_true, beq_iff_eq] at hp
    exact hp.1.2
  | admitted _ h =>
    simp only [insertManagedWork, bind_ok, pure_ok, Prod.mk.injEq] at h
    obtain ⟨n, _, message, _, commands, hcommands, works, hworks, payloads, _, rfl, _, _⟩ := h
    refine .insert hcommands ⟨rfl, fun id hid => ?_⟩ rfl
    cases hid
    exact ⟨_, Table.insert_rows hworks ▸ List.mem_append_right _ List.mem_cons_self, rfl, rfl⟩
  | swept h =>
    simp only [expireManagedPayloads, bind_ok, pure_ok] at h
    obtain ⟨works, _, rfl⟩ := h
    exact .frame rfl
  | @observed dispatch work signed now _ hdispatch hmanaged _ _ h =>
    simp only [projectObservation, bind_ok, pure_ok] at h
    obtain ⟨_, _, _, _, _, _, _, _, _, _, commands, hcommands, rfl⟩ := h
    refine .updated hcommands (fun c hc hp => ?_) rfl
    obtain rfl := command_unique hc hdispatch (beq_iff_eq.mp hp)
    exact .observed now hmanaged

lemma enqueueRequested_change {admits : Prop} {verified : SignedAgentStateObservation → Prop}
    {requested : Option JobId}
    (h : enqueueRequested fleet db agentId requested fingerprint kind now = .ok (db', row)) :
    Change tools admits verified db db' := by
  unfold enqueueRequested at h
  split at h
  · exact enqueueCommand_change h
  · simp only [bind_ok] at h
    obtain ⟨_, _, _, _, _, _, h⟩ := h
    exact .inserted h

end

variable (tools : Tools) (db : Db) (ts : List CommandTransaction)

/-- The publication is new and answers the inline command with the state. -/
def Event.answers (event : Event) (c : CommandRow) (state : CommandState) : Bool :=
  match event with
  | .publication fleet agentId _ message inventoryOk _ =>
    inventoryOk && (fleet.agent? agentId.text).isSome &&
      (db.publications.first (fun p => p.messageId == message.messageId)).isNone &&
      c.agentId == agentId && c.command.isInline && message.answer == some (c.commandId, state)
  | _ => false

def CommandTransaction.answers (t : CommandTransaction) (c : CommandRow) (state : CommandState) :
    Bool :=
  match t with
  | .other (.request event) => event.answers db c state
  | _ => false

variable {message : AgentPublication} {state : CommandState} {envelopes : StateEnvelopes}
  {fleet : Fleet} {agentId : AgentId} {now : Instant} {t : CommandTransaction}

lemma isAnswer_of_answer {commandId : String} (h : message.answer = some (commandId, state)) :
    state.isAnswer = true := by
  unfold AgentPublication.answer at h
  split at h
  · cases h
    rfl
  · cases h
    rfl
  · cases h

lemma reconcileStateObservation_answer {db db' : Db} {answer : String × CommandState}
    (hanswer : message.answer = some answer)
    (h : reconcileStateObservation envelopes fleet db agentId message now = .ok db') :
    db' = db := by
  unfold reconcileStateObservation at h
  split at h
  · simp [AgentPublication.answer] at hanswer
  · cases h
    rfl

lemma recordPublication_commands (wire : WireTools) {db db' : Db} {key : String} {inventoryOk : Bool}
    (h : recordPublication envelopes fleet db agentId key message inventoryOk now = .ok db') :
    CommandStep (fun c s => (Event.publication fleet agentId key message inventoryOk now).answers
      db c s = true) db db' := by
  obtain ⟨hinventory, hagent, ⟨_, _, _, _, _, rfl⟩ |
    ⟨publications, reconciled, hfirst, -, hreconciled, happly⟩⟩ := recordPublication_ok h
  · exact .frame rfl
  · unfold applyAnswer at happly
    split at happly
    · rename_i commandId state hanswer
      obtain rfl := reconcileStateObservation_answer hanswer hreconciled
      simp only [bind_ok, pure_ok] at happly
      obtain ⟨commands, hcommands, rfl⟩ := happly
      refine .updated hcommands (fun c _ hp => ?_) rfl
      simp only [Bool.and_eq_true, beq_iff_eq] at hp
      refine .answered state now hp.2 (isAnswer_of_answer hanswer) ?_
      simp [Event.answers, hinventory, hagent, hfirst, hp, hanswer]
    · cases happly
      change CommandStep _ { db with publications := publications } db'
      exact (reconcileStateObservation_change wire False hreconciled).commands

lemma commit_other (t : Transaction) : (commit tools db (.other t)).1 = transact tools db t := by
  unfold commit transact CommandTransaction.run
  split <;> simp_all

lemma commit_enqueueCommand (fleet : Fleet) (agentId : AgentId) (requested : Option JobId)
    (fingerprint : Bytes) (kind : JobKind) (now : Instant) :
    Change tools.wire False (fun _ => False) db
      (commit tools db (.enqueueCommand fleet agentId requested fingerprint kind now)).1 := by
  unfold commit
  split
  · rename_i db' hrun
    obtain ⟨⟨_, row⟩, henqueue, rfl⟩ := map_ok.mp hrun
    exact enqueueRequested_change henqueue
  · exact .none

theorem commit_commands (t : CommandTransaction) :
    CommandStep (fun c s => t.answers db c s = true) db (commit tools db t).1 := by
  cases t with
  | enqueueCommand fleet agentId requested fingerprint kind now =>
    exact (commit_enqueueCommand tools db fleet agentId requested fingerprint kind now).commands
  | other t =>
    rw [commit_other]
    rcases transact_change tools db t with hchange | ⟨_, _, _, _, _, _, rfl, hrecord⟩
    · exact hchange.commands
    · exact recordPublication_commands tools.wire hrecord

lemma commit_writes (t : CommandTransaction) :
    ∃ verified, Writes tools.wire verified db (commit tools db t).1 := by
  cases t with
  | enqueueCommand fleet agentId requested fingerprint kind now =>
    exact ⟨_, .single
      (commit_enqueueCommand tools db fleet agentId requested fingerprint kind now).write⟩
  | other t => exact ⟨_, commit_other tools db t ▸ transact_writes tools db t⟩

structure CommandsInv (tools : WireTools) (db : Db) : Prop where
  store : StoreInv tools db
  notRejected : ∀ c ∈ db.commands.rows, c.command.isInline = false → c.state ≠ .rejected
  dispatched : ∀ c ∈ db.commands.rows, ∀ id, c.command = .managedWork id →
    ∃ w ∈ db.works.rows, w.managedWorkId = id ∧ w.requestFingerprint = c.requestFingerprint

lemma commandsInv_empty (tools : WireTools) : CommandsInv tools {} :=
  ⟨storeInv_empty, by simp, by simp⟩

theorem CommandsInv.commit {tools : Tools} {db : Db} (hinv : CommandsInv tools.wire db)
    (t : CommandTransaction) : CommandsInv tools.wire (commit tools db t).1 := by
  obtain ⟨verified, hwrites⟩ := commit_writes tools db t
  have hstep := commit_commands tools db t
  refine ⟨hwrites.preserve (fun _ _ h hwrite => h.write hwrite) hinv.store, ?_, ?_⟩
  · intro c' hc' hmanaged
    rcases hstep.backward hc' with ⟨c, hc, hmove⟩ | ⟨hqueued, -⟩
    · cases hmove with
      | stays => exact hinv.notRejected _ hc hmanaged
      | published => simp
      | answered state now hinline => simp [hinline] at hmanaged
      | observed => simp
    · simp [hqueued]
  · intro c' hc' id hid
    rcases hstep.backward hc' with ⟨c, hc, hmove⟩ | ⟨-, hnew⟩
    · obtain ⟨w, hw, hwid, hfingerprint⟩ :=
        hinv.dispatched c hc id ((command_of_fixed hmove.fixed).symm.trans hid)
      obtain ⟨w', hw', hmoves⟩ := hwrites.moves hw
      have hidentity := hmoves.identity.1
      refine ⟨w', hw', (managedWorkId_of_identity hidentity).trans hwid, ?_⟩
      rw [requestFingerprint_of_fixed hmove.fixed, ← hfingerprint]
      exact congrArg SubmissionIdentity.requestFingerprint hidentity
    · exact hnew id hid

lemma final_commandsInv : CommandsInv tools.wire (final (commit tools) {} ts) :=
  final_of_step (fun _ t hinv => hinv.commit t) (commandsInv_empty _) ts

lemma final_command {db : Db} {c : CommandRow} (hc : c ∈ db.commands.rows) :
    ∃ c' ∈ (final (commit tools) db ts).commands.rows, c'.fixed = c.fixed ∧
      (c.state.isAnswer = true → c'.state.isAnswer = true) := by
  induction ts generalizing db c with
  | nil => exact ⟨c, hc, rfl, id⟩
  | cons t ts ih =>
    obtain ⟨c₁, hc₁, hmove⟩ := (commit_commands tools db t).forward hc
    obtain ⟨c₂, hc₂, hfixed, hanswer⟩ := ih hc₁
    exact ⟨c₂, hc₂, hfixed.trans hmove.fixed, fun h => hanswer (hmove.isAnswer h)⟩

section

variable {tools : Tools} {db : Db} {c : CommandRow}

lemma insert_stored {commands : Table commandSpec} {row : CommandRow} (hc : c ∈ db.commands.rows)
    (hid : c.commandId = row.commandId)
    (h : db.commands.insert row = (.ok commands : Except Error _)) : False :=
  Table.append_fresh (u := commandIdKey) (Table.insert_rows h) (by simp [commandSpec]) rfl hc
    (by simp [commandIdKey, hid])

lemma first_command (hc : c ∈ db.commands.rows) {commandId : String}
    (hid : c.commandId = commandId) :
    db.commands.first (fun r => r.commandId == commandId) = some c :=
  Table.first_eq hc (by simp [hid]) (fun r hr h =>
    command_unique hr hc ((beq_iff_eq.mp h).trans hid.symm))

lemma enqueueCommand_stored {fleet : Fleet} {agentId : AgentId} {jobId : JobId}
    {fingerprint : Bytes} {kind : JobKind} {now : Instant} {db' : Db} {row : CommandRow}
    (hc : c ∈ db.commands.rows) (hid : c.commandId = jobId.text)
    (h : enqueueCommand fleet db agentId jobId fingerprint kind now = .ok (db', row)) :
    db' = db ∧ c.agentId = agentId ∧ c.requestFingerprint = fingerprint := by
  simp only [enqueueCommand, bind_ok, first_command hc hid, pure_ok, Prod.mk.injEq] at h
  obtain ⟨_, _, _, _, row', hreplay, rfl, _⟩ := h
  simp only [replayCommand, bind_ok, require_ok, Bool.and_eq_true, beq_iff_eq] at hreplay
  obtain ⟨_, hsame, _⟩ := hreplay
  exact ⟨rfl, hsame⟩

lemma findExistingManagedWork_fingerprint {managedWorkId : ManagedWorkId}
    {organizationId : OrganizationId} {idempotencyKey : String} {printIntentId : PrintIntentId}
    {fingerprint : Bytes} {existing : Option ManagedWorkRow} {w : ManagedWorkRow}
    (hw : w ∈ db.works.rows) (hid : w.managedWorkId = managedWorkId)
    (h : findExistingManagedWork db managedWorkId organizationId idempotencyKey printIntentId
      fingerprint = .ok existing) : w.requestFingerprint = fingerprint := by
  have hfirst : db.works.first (fun r => r.managedWorkId == managedWorkId) = some w := by
    rw [← hid]
    exact first_work hw
  simp only [findExistingManagedWork, findExistingAt, bind_ok, require_ok, List.all_eq_true] at h
  obtain ⟨_, hall, _⟩ := h
  have hsame := hall w (List.mem_filterMap.mpr ⟨some w, by simp [hfirst], rfl⟩)
  simp only [ManagedWorkRow.sameIdentity, Bool.and_eq_true, beq_iff_eq] at hsame
  exact hsame.1.2

lemma admitManagedWork_repeated (hinv : CommandsInv tools.wire db) {fleet : Fleet}
    {a : ManagedWorkAdmission} {build : ManagedDispatchAllocation → Except Error ControllerCommand}
    {db' : Db} {result : ManagedWorkRow × Option CommandRow} (hc : c ∈ db.commands.rows)
    (hid : c.commandId = dispatchCommandId tools.wire a.managedWorkId)
    (h : admitManagedWork tools.wire fleet db a build = .ok (db', result)) :
    db' = db ∧ (c.command = .managedWork a.managedWorkId →
      c.requestFingerprint = a.requestFingerprint) := by
  simp only [admitManagedWork, bind_ok] at h
  obtain ⟨_, _, _, _, existing, hexisting, h⟩ := h
  refine ⟨?_, fun hcontent => ?_⟩
  · split at h
    · simp only [bind_ok, pure_ok, Prod.mk.injEq] at h
      obtain ⟨_, _, rfl, _⟩ := h
      rfl
    · simp only [bind_ok] at h
      obtain ⟨⟨preflight, recipientKey⟩, _, _, hinsert, _⟩ := h
      simp only [insertManagedWork, bind_ok] at hinsert
      obtain ⟨n, _, message, _, commands, hcommands, _⟩ := hinsert
      exact (insert_stored hc (by exact hid) hcommands).elim
  · obtain ⟨w, hw, hwid, hfingerprint⟩ := hinv.dispatched c hc _ hcontent
    rw [← hfingerprint]
    exact findExistingManagedWork_fingerprint hw hwid hexisting

end

lemma commit_run {tools : Tools} {db db' : Db} (h : t.run tools db = .ok db') :
    (commit tools db t).1 = db' := by
  rw [commit, h]

lemma commit_of_ok {tools : Tools} {db : Db} {P : Prop}
    (h : ∀ db', t.run tools db = .ok db' → db' = db ∧ P) :
    (commit tools db t).1 = db ∧ ((commit tools db t).2 = .ok () → P) := by
  unfold commit
  split
  · rename_i db' hrun
    exact ⟨(h db' hrun).1, fun _ => (h db' hrun).2⟩
  · exact ⟨rfl, fun hok => by cases hok⟩

def CommandTransaction.reverses (t : CommandTransaction) : Bool :=
  db.commands.rows.any (fun c =>
    (c.state == .accepted && t.answers db c .rejected) ||
      (c.state == .rejected && t.answers db c .accepted))

/-- Along the run, a command that its Agent has answered keeps the answer. -/
def AnswersKept : Prop :=
  ∀ earlier later rest, ts = earlier ++ later ++ rest →
    ∀ c ∈ (final (commit tools) {} earlier).commands.rows, c.state.isAnswer = true →
      ∃ c' ∈ (final (commit tools) {} (earlier ++ later)).commands.rows,
        c'.commandId = c.commandId ∧ c'.state = c.state

lemma reverses_iff {db : Db} :
    t.reverses db = true ↔ ∃ c ∈ db.commands.rows, ∃ state, c.state.isAnswer = true ∧
      state.isAnswer = true ∧ c.state ≠ state ∧ t.answers db c state = true := by
  simp only [CommandTransaction.reverses, List.any_eq_true, Bool.or_eq_true, Bool.and_eq_true,
    beq_iff_eq]
  constructor
  · rintro ⟨c, hc, ⟨hstate, h⟩ | ⟨hstate, h⟩⟩
    · exact ⟨c, hc, .rejected, by rw [hstate]; rfl, rfl, by simp [hstate], h⟩
    · exact ⟨c, hc, .accepted, by rw [hstate]; rfl, rfl, by simp [hstate], h⟩
  · rintro ⟨c, hc, state, hanswer, hstate, hne, h⟩
    refine ⟨c, hc, ?_⟩
    cases hc' : c.state <;> cases state <;> simp_all [CommandState.isAnswer]

lemma commit_keeps {tools : Tools} {db : Db} (hinv : CommandsInv tools.wire db)
    (ht : t.reverses db = false) {c : CommandRow} (hc : c ∈ db.commands.rows)
    (hanswer : c.state.isAnswer = true) :
    ∃ c' ∈ (commit tools db t).1.commands.rows, c'.commandId = c.commandId ∧
      c'.state = c.state := by
  obtain ⟨c', hc', hmove⟩ := (commit_commands tools db t).forward hc
  refine ⟨c', hc', commandId_of_fixed hmove.fixed, ?_⟩
  cases hmove with
  | stays => rfl
  | published now h => rcases h with h | h <;> simp [h, CommandState.isAnswer] at hanswer
  | answered state now _ hstate h =>
    by_contra hne
    have hreverses := reverses_iff.mpr ⟨c, hc, state, hanswer, hstate, Ne.symm hne, h⟩
    rw [ht] at hreverses
    cases hreverses
  | observed now hmanaged =>
    have hnot := hinv.notRejected c hc hmanaged
    cases hstate : c.state <;> simp_all [CommandState.isAnswer]

lemma recordPublication_answer {envelopes : StateEnvelopes} {fleet : Fleet} {db : Db}
    {agentId : AgentId} {key : String} {message : AgentPublication} {now : Instant}
    {commandId : String} {state : CommandState} (hagent : (fleet.agent? agentId.text).isSome = true)
    (hfirst : db.publications.first (fun p => p.messageId == message.messageId) = none)
    (hanswer : message.answer = some (commandId, state)) :
    ∃ db', recordPublication envelopes fleet db agentId key message true now = .ok db' ∧
      db'.commands.rows = Table.updated db.commands.rows
        (fun c => c.agentId == agentId && c.commandId == commandId && c.command.isInline)
        (fun c => { c with state := state, updatedAt := now }) := by
  obtain ⟨publications, hinsert⟩ := insertPublication_ok hfirst
  have hreconcile : reconcileStateObservation envelopes fleet
      { db with publications := publications } agentId message now =
        .ok { db with publications := publications } := by
    unfold reconcileStateObservation
    split
    · simp [AgentPublication.answer] at hanswer
    · rfl
  obtain ⟨commands, hcommands⟩ := Table.update_ok (ε := Error) (t := db.commands)
    (p := fun c => c.agentId == agentId && c.commandId == commandId && c.command.isInline)
    (f := fun c => { c with state := state, updatedAt := now })
    (fun c hc _ => (db.commands.check_of_mem hc : commandSpec.check c = true))
    (by
      intro u hu c _ _
      simp only [commandSpec, List.mem_cons, List.not_mem_nil, or_false] at hu
      rcases hu with rfl | rfl | rfl <;> rfl)
  refine ⟨{ db with publications := publications, commands := commands }, ?_,
    Table.update_rows hcommands⟩
  simp only [recordPublication, bind_ok, require_ok, hfirst]
  refine ⟨(), trivial, (), hagent, publications, hinsert, _, hreconcile, ?_⟩
  simp only [applyAnswer, hanswer, bind_ok, pure_ok]
  exact ⟨commands, hcommands, rfl⟩

lemma commit_answers {tools : Tools} {db : Db} {t : CommandTransaction} {c : CommandRow}
    {state : CommandState} (hc : c ∈ db.commands.rows) (h : t.answers db c state = true) :
    ∃ c' ∈ (commit tools db t).1.commands.rows, c'.commandId = c.commandId ∧ c'.state = state := by
  unfold CommandTransaction.answers Event.answers at h
  split at h
  · split at h
    · rename_i fleet agentId key message inventoryOk now
      simp only [Bool.and_eq_true, Option.isNone_iff_eq_none, beq_iff_eq] at h
      obtain ⟨⟨⟨⟨⟨rfl, hagent⟩, hfirst⟩, rfl⟩, hinline⟩, hanswer⟩ := h
      obtain ⟨db', hrun, hrows⟩ :
          ∃ db', recordPublication tools.envelopes fleet db c.agentId key message true now =
            .ok db' ∧ _ := recordPublication_answer hagent hfirst hanswer
      have hcommit : (commit tools db (.other (.request (.publication fleet c.agentId key message
          true now)))).1 = db' := commit_run hrun
      rw [hcommit, hrows]
      exact ⟨_, Table.mem_updated.mpr ⟨c, hc, rfl⟩, by simp [hinline], by simp [hinline]⟩
    · cases h
  · cases h

lemma answersKept_iff :
    AnswersKept tools ts ↔
      RunOk (fun db t => t.reverses db = false) (commit tools) {} ts := by
  rw [runOk_iff]
  constructor
  · intro hkept earlier t later hts
    by_contra hreverses
    obtain ⟨c, hc, state, hanswer, hstate, hne, h⟩ :=
      reverses_iff.mp (Bool.not_eq_false _ ▸ hreverses)
    obtain ⟨c₁, hc₁, hid₁, hkept₁⟩ := hkept earlier [t] later (by simp [hts]) c hc hanswer
    rw [final_append, final_cons, final_nil] at hc₁
    obtain ⟨c₂, hc₂, hid₂, hstate₂⟩ := @commit_answers tools _ _ _ _ hc h
    obtain rfl := command_unique hc₁ hc₂ (hid₁.trans hid₂.symm)
    exact hne (hkept₁.symm.trans hstate₂)
  · intro hok earlier later
    induction later using List.reverseRecOn with
    | nil =>
      intro rest _ c hc _
      exact ⟨c, by rwa [List.append_nil], rfl, rfl⟩
    | append_singleton later t ih =>
      intro rest hts c hc hanswer
      obtain ⟨c₁, hc₁, hid₁, hstate₁⟩ := ih (t :: rest) (by simp [hts]) c hc hanswer
      have hquiet := hok (earlier ++ later) t rest (by simp [hts])
      obtain ⟨c₂, hc₂, hid₂, hstate₂⟩ :=
        commit_keeps (final_commandsInv tools _) hquiet hc₁ (hstate₁ ▸ hanswer)
      refine ⟨c₂, ?_, hid₂.trans hid₁, hstate₂.trans hstate₁⟩
      rw [← List.append_assoc, final_append]
      exact hc₂

/-- Sequences without a gap, stored commands that keep their content, and which answers are kept. -/
theorem command_sequences (tools : Tools) (ts : List CommandTransaction) :
    let db := final (commit tools) {} ts
    (∀ agentId, (db.agentCommands agentId).map (·.sequence) =
      List.range' 1 (db.agentCommands agentId).length) ∧
    (∀ later, ∀ c ∈ db.commands.rows,
      ∃ c' ∈ (final (commit tools) {} (ts ++ later)).commands.rows, c'.fixed = c.fixed ∧
        (c.state.isAnswer = true → c'.state.isAnswer = true)) ∧
    (∀ fleet agentId jobId fingerprint kind now, ∀ c ∈ db.commands.rows,
      c.commandId = jobId.text →
        let result :=
          commit tools db (.enqueueCommand fleet agentId (some jobId) fingerprint kind now)
        result.1 = db ∧
          (result.2 = .ok () → c.agentId = agentId ∧ c.requestFingerprint = fingerprint)) ∧
    (∀ fleet a signer random, ∀ c ∈ db.commands.rows,
      c.commandId = dispatchCommandId tools.wire a.managedWorkId →
        let result := commit tools db (.other (.admitManagedWork fleet a signer random))
        result.1 = db ∧ (result.2 = .ok () → c.command = .managedWork a.managedWorkId →
          c.requestFingerprint = a.requestFingerprint)) ∧
    (AnswersKept tools ts ↔ RunOk (fun db t => t.reverses db = false) (commit tools) {} ts) := by
  intro db
  have hinv : CommandsInv tools.wire db := final_commandsInv tools ts
  refine ⟨agentCommands_sequences hinv.store, ?_, ?_, ?_, answersKept_iff tools ts⟩
  · intro later c hc
    rw [final_append]
    exact final_command tools later hc
  · intro fleet agentId jobId fingerprint kind now c hc hid
    refine commit_of_ok (fun db' hrun => ?_)
    obtain ⟨⟨_, row⟩, henqueue, rfl⟩ := map_ok.mp hrun
    exact enqueueCommand_stored hc hid henqueue
  · intro fleet a signer random c hc hid
    refine commit_of_ok (fun db' hrun => ?_)
    obtain ⟨⟨_, result⟩, hadmit, rfl⟩ := map_ok.mp hrun
    exact admitManagedWork_repeated hinv hc hid hadmit

def reversedAnswer : List CommandTransaction :=
  [.enqueueCommand sampleFleet sampleAgent (some drawerJob) (List.replicate 32 0)
      (.executeDeviceCommand ⟨⟨"dev_printer"⟩, .openCashDrawer, []⟩) 0,
    .other (.request (.publication sampleFleet sampleAgent "" (.commandAccepted "msg_1" "job_drawer"
      1000000 none "accepted") true 1000000)),
    .other (.request (.publication sampleFleet sampleAgent "" (.commandRejected "msg_2" "job_drawer"
      2000000 "UPSTREAM_SCOPE_DENIED" "denied") true 2000000))]

theorem accepted_command_rejected :
    (final (commit sampleTools) {} (reversedAnswer.take 2)).commands.rows.map (·.state) =
        [.accepted] ∧
      (final (commit sampleTools) {} reversedAnswer).commands.rows.map (·.state) = [.rejected] ∧
      ¬AnswersKept sampleTools reversedAnswer := by
  refine ⟨by decide +kernel, by decide +kernel, ?_⟩
  rw [answersKept_iff]
  decide +kernel

end Inari.Controller
