import Inari.Controller.Service

/-!
# What a step of the Controller writes

Every operation changes the tables of commands, Managed Work and payloads by a few kinds of
writes.
-/

namespace Inari.Controller

open Lib

structure CommandKey where
  commandId : String
  agentId : AgentId
  messageId : String
  sequence : Nat
  command : CommandContent

def CommandRow.key (c : CommandRow) : CommandKey :=
  ⟨c.commandId, c.agentId, c.messageId, c.sequence, c.command⟩

def commandKeys (db : Db) : List CommandKey := db.commands.rows.map CommandRow.key

def nextSequence (db : Db) (agentId : AgentId) : Nat :=
  (((commandKeys db).filter (fun c => c.agentId == agentId)).map (·.sequence)).foldr max 0 + 1

variable {agentId : AgentId} {row : CommandRow} {fingerprint random : Bytes} {now : Instant}
  {fleet : Fleet} {jobId : JobId} {config : Config} {crypto : CryptoTools}
  {signer : ManagedDispatchSigner} {idempotencyKey : String} {work : ManagedWorkRow}
  {message : AgentPublication}

lemma nextCommandSequence_ok {db : Db} {n : Nat} (h : nextCommandSequence db agentId = .ok n) :
    n = nextSequence db agentId ∧ n ≤ 9223372036854775807 := by
  simp only [nextCommandSequence, bind_ok, require_ok, pure_ok] at h
  obtain ⟨_, hle, rfl⟩ := h
  have hcol : (db.commands.select (fun c => c.agentId == agentId)).map (·.sequence) =
      ((commandKeys db).filter (fun c => c.agentId == agentId)).map (·.sequence) := by
    rw [commandKeys, List.filter_map, List.map_map]
    rfl
  refine ⟨?_, by simpa using hle⟩
  rw [nextSequence, maxSequence, hcol]

structure Dispatches (c : CommandKey) (p : ManagedPayloadRow) : Prop where
  content : c.command = .managedWork p.managedWorkId
  commandId : p.protection.plaintext.commandId = c.commandId
  messageId : p.protection.plaintext.messageId = c.messageId
  sequence : p.protection.plaintext.sequence = c.sequence
  body : ∃ d, p.protection.plaintext.body = .dispatchDeviceWork d ∧
    d.managedWorkId = p.managedWorkId ∧ d.authenticatedData.agentId = c.agentId

structure ManagedWorkRow.Fresh (w : ManagedWorkRow) : Prop where
  state : w.state = .dispatching
  payloadDeletedAt : w.payloadDeletedAt = none
  printJobId : w.printJobId = none
  printJobObservation : w.printJobObservation = none

/-- A write of one transaction. `verified` holds of the observations whose signature it has checked.
-/
inductive Write (tools : WireTools) (verified : SignedAgentStateObservation → Prop) : Db → Db → Prop
  /-- Other tables, and columns of commands that may change. -/
  | frame {db db' : Db} (hkeys : commandKeys db' = commandKeys db)
      (hworks : db'.works.rows = db.works.rows) (hpayloads : db'.payloads.rows = db.payloads.rows)
      (hobservations : db'.observations = db.observations) :
      Write tools verified db db'
  | inline {db db' : Db} (key : CommandKey) (message : ControllerCommand)
      (hcommand : key.command = .inline message) (hid : message.commandId = key.commandId)
      (hmessage : message.messageId = key.messageId) (hsequence : message.sequence = key.sequence)
      (hbody : ∀ d, message.body ≠ .dispatchDeviceWork d)
      (hnext : key.sequence = nextSequence db key.agentId)
      (hmax : key.sequence ≤ 9223372036854775807)
      (hkeys : commandKeys db' = commandKeys db ++ [key])
      (hworks : db'.works.rows = db.works.rows) (hpayloads : db'.payloads.rows = db.payloads.rows)
      (hobservations : db'.observations = db.observations) :
      Write tools verified db db'
  | managed {db db' : Db} (key : CommandKey) (work : ManagedWorkRow) (payload : ManagedPayloadRow)
      (hcommand : key.command = .managedWork work.managedWorkId)
      (hid : key.commandId = dispatchCommandId tools work.managedWorkId)
      (hpayload : payload.managedWorkId = work.managedWorkId)
      (hcontext : payload.protection.context = work.payloadContext)
      (hdispatch : Dispatches key payload) (hfresh : work.Fresh)
      (hnext : key.sequence = nextSequence db key.agentId)
      (hmax : key.sequence ≤ 9223372036854775807)
      (hkeys : commandKeys db' = commandKeys db ++ [key])
      (hworks : db'.works.rows = db.works.rows ++ [work])
      (hpayloads : db'.payloads.rows = db.payloads.rows ++ [payload])
      (hobservations : db'.observations = db.observations) : Write tools verified db db'
  | sweep {db db' : Db} (ids : List ManagedWorkId) (now : Instant)
      (hdue : ∀ w ∈ db.works.rows, ids.contains w.managedWorkId = true → w.due now = true)
      (hkeys : commandKeys db' = commandKeys db)
      (hworks : db'.works.rows = Table.updated db.works.rows
        (fun w => ids.contains w.managedWorkId) (fun w => w.swept now))
      (hpayloads : db'.payloads.rows =
        db.payloads.rows.filter (fun p => !ids.contains p.managedWorkId))
      (hobservations : db'.observations = db.observations) : Write tools verified db db'
  | observe {db db' : Db} (agentId : AgentId) (work : ManagedWorkRow)
      (signed : SignedAgentStateObservation) (replace : Bool) (now : Instant)
      (hmem : work ∈ db.works.rows) (hverified : verified signed)
      (hidentity : validateWorkIdentity work signed.observation = .ok ())
      (hreplace : replacesCurrent work signed.observation = .ok replace)
      (hkeys : commandKeys db' = commandKeys db)
      (hworks : db'.works.rows = Table.updated db.works.rows
        (fun w => replace && w.managedWorkId == work.managedWorkId)
        (fun _ => work.observed signed now))
      (hpayloads : db'.payloads.rows =
        db.payloads.rows.filter (fun p => !(p.managedWorkId == work.managedWorkId)))
      (hobservations : storeObservation db.observations ⟨signed.observation.envelopeId, agentId,
        work.managedWorkId, signed, now⟩ = .ok db'.observations) :
      Write tools verified db db'

abbrev Writes (tools : WireTools) (verified : SignedAgentStateObservation → Prop) :
    Db → Db → Prop :=
  Relation.ReflTransGen (Write tools verified)

variable {tools : WireTools} {verified : SignedAgentStateObservation → Prop} {db db' : Db}

lemma Write.refl : Write tools verified db db := .frame rfl rfl rfl rfl

lemma commandKeys_insert {db : Db} {commands : Table commandSpec}
    (h : db.commands.insert row = (.ok commands : Except Error _)) :
    commandKeys { db with commands := commands } = commandKeys db ++ [row.key] := by
  simp only [commandKeys, Table.insert_rows h, List.map_append, List.map_cons, List.map_nil]

lemma commandKeys_update {db : Db} {commands : Table commandSpec} {p : CommandRow → Bool}
    {f : CommandRow → CommandRow} (h : db.commands.update p f = (.ok commands : Except Error _))
    (hf : ∀ c ∈ db.commands.rows, p c = true → (f c).key = c.key) :
    commandKeys { db with commands := commands } = commandKeys db := by
  simp only [commandKeys, Table.update_rows h]
  exact Table.map_updated _ hf

lemma insertCommand_write {commandId : String} {kind : JobKind}
    (h : insertCommand db agentId commandId fingerprint kind now = .ok (db', row)) :
    Write tools verified db db' := by
  simp only [insertCommand, bind_ok, pure_ok, Prod.mk.injEq] at h
  obtain ⟨n, hn, commands, hcommands, _, _, rfl, _⟩ := h
  obtain ⟨hnext, hmax⟩ := nextCommandSequence_ok hn
  refine .inline _ (kind.intoMessage ("msg_" ++ commandId) commandId n now) rfl rfl rfl rfl
    (fun d => ?_) hnext hmax (commandKeys_insert hcommands) rfl rfl rfl
  cases kind <;> simp [JobKind.intoMessage, JobKind.body]

lemma markCommandPublished_write {commandId : String}
    (h : markCommandPublished db agentId commandId now = .ok db') :
    Write tools verified db db' := by
  simp only [markCommandPublished, bind_ok, pure_ok] at h
  obtain ⟨commands, hcommands, rfl⟩ := h
  exact .frame (commandKeys_update hcommands (fun _ _ _ => rfl)) rfl rfl rfl

lemma command_ok {allocation : ManagedDispatchAllocation} {submission : ManagedWorkSubmission}
    {message : ControllerCommand}
    (h : signer.command tools crypto allocation idempotencyKey submission random = .ok message) :
    ∃ sealedEnvelope, message = ⟨allocation.messageId, allocation.commandId, allocation.sequence,
      allocation.issuedAt, .dispatchDeviceWork ⟨allocation.managedWorkId,
        signer.authenticatedData allocation idempotencyKey submission, sealedEnvelope⟩⟩ := by
  simp only [ManagedDispatchSigner.command, bind_ok, pure_ok] at h
  obtain ⟨_, _, sealedEnvelope, _, rfl⟩ := h
  exact ⟨sealedEnvelope, rfl⟩

lemma insertManagedWork_write {a : ManagedWorkAdmission} {preflight : PreflightRow}
    {recipientKey : DispatchEncryptionKey} {command : CommandRow}
    (h : insertManagedWork tools db a preflight recipientKey
      (buildDispatch tools crypto signer idempotencyKey a.submission fingerprint random) =
      .ok (db', work, command)) :
    Write tools verified db db' := by
  simp only [insertManagedWork, bind_ok, pure_ok, Prod.mk.injEq] at h
  obtain ⟨n, hn, message, hmessage, commands, hcommands, works, hworks, payloads, hpayloads, rfl,
    _, _⟩ := h
  simp only [buildDispatch, bind_ok] at hmessage
  obtain ⟨_, _, _, _, hmessage⟩ := hmessage
  obtain ⟨sealedEnvelope, rfl⟩ := command_ok hmessage
  obtain ⟨hnext, hmax⟩ := nextCommandSequence_ok hn
  refine .managed _ (a.row preflight) _ rfl rfl rfl rfl ?_ ⟨rfl, rfl, rfl, rfl⟩ hnext hmax
    (commandKeys_insert hcommands) (Table.insert_rows hworks) (Table.insert_rows hpayloads) rfl
  exact ⟨rfl, rfl, rfl, rfl, _, rfl, rfl, rfl⟩

lemma command_unique {a b : CommandRow} (ha : a ∈ db.commands.rows) (hb : b ∈ db.commands.rows)
    (h : a.commandId = b.commandId) : a = b :=
  db.commands.eq_of_key (u := commandIdKey) (by simp [commandSpec]) ha hb rfl
    (by simp [commandIdKey, h])

lemma work_unique {a b : ManagedWorkRow} (ha : a ∈ db.works.rows) (hb : b ∈ db.works.rows)
    (h : a.managedWorkId = b.managedWorkId) : a = b :=
  db.works.eq_of_key (u := workIdKey) (by simp [workSpec]) ha hb rfl (by simp [workIdKey, h])

lemma expireManagedPayloads_write {choice : ManagedWorkId → Bool}
    (h : expireManagedPayloads db choice now = .ok db') : Write tools verified db db' := by
  simp only [expireManagedPayloads, bind_ok, pure_ok] at h
  obtain ⟨works, hworks, rfl⟩ := h
  refine .sweep _ now (fun w hw hid => ?_) rfl (Table.update_rows hworks) rfl rfl
  rw [List.contains_iff_mem, List.mem_map] at hid
  obtain ⟨v, hv, hid⟩ := hid
  have hselected : v ∈ db.works.select (fun w => w.due now) := by
    split at hv
    · exact hv
    · exact List.mem_of_mem_filter (List.mem_of_mem_take hv)
  rw [Table.select, List.mem_filter] at hselected
  rw [← work_unique hselected.1 hw hid]
  exact hselected.2

lemma replacesCurrent_false {incoming : AgentStateObservation}
    (h : replacesCurrent work incoming = .ok false) : work.printJobObservation ≠ none := by
  intro hnone
  simp [replacesCurrent, hnone] at h

lemma projectObservation_write {dispatch : CommandRow} {signed : SignedAgentStateObservation}
    (hdispatch : dispatch ∈ db.commands.rows) (hwork : work ∈ db.works.rows)
    (hverified : verified signed) (h : projectObservation db dispatch work signed now = .ok db') :
    Write tools verified db db' := by
  simp only [projectObservation, bind_ok, pure_ok] at h
  obtain ⟨_, hidentity, _, _, replace, hreplace, observations, hobservations, works, hworks,
    commands, hcommands, rfl⟩ := h
  have hkeys : commandKeys { db with commands := commands } = commandKeys db := by
    refine commandKeys_update hcommands (fun c hc hid => ?_)
    rw [command_unique hc hdispatch (beq_iff_eq.mp hid)]
    rfl
  exact .observe dispatch.agentId work signed replace now hwork hverified hidentity hreplace hkeys
    (Table.update_rows hworks) rfl hobservations

structure VerifiedBy (envelopes : StateEnvelopes) (fleet : Fleet) (agentId : AgentId)
    (publication : AgentPublication) (signed : SignedAgentStateObservation) : Prop where
  envelope : ∃ messageId occurredAt event commandId jobId,
    publication = .runtimeEvent messageId occurredAt event commandId jobId ∧
      stateEnvelope event = .ok signed.stateEnvelope
  key : ∃ key ∈ fleet.keys, key.agentId = agentId ∧ key.purpose = .agentState ∧
    key.retiredAt = none ∧ envelopes.keyId signed.stateEnvelope = some key.keyId ∧
    envelopes.verify signed.stateEnvelope key.publicJwk = some signed.observation

lemma applyAnswer_write (h : applyAnswer db agentId message now = .ok db') :
    Write tools verified db db' := by
  unfold applyAnswer at h
  split at h
  · simp only [bind_ok, pure_ok] at h
    obtain ⟨commands, hcommands, rfl⟩ := h
    exact .frame (commandKeys_update hcommands (fun _ _ _ => rfl)) rfl rfl rfl
  · cases h
    exact .refl

/-- What an operation does to the tables. `admits` holds if it may admit Managed Work. -/
inductive Change (tools : WireTools) (admits : Prop) (verified : SignedAgentStateObservation → Prop)
    (db : Db) : Db → Prop
  | none : Change tools admits verified db db
  | preflights (preflights : Table preflightSpec) :
      Change tools admits verified db { db with preflights }
  | inserted {agentId : AgentId} {commandId : String} {fingerprint : Bytes} {kind : JobKind}
      {now : Instant} {db' : Db} {row : CommandRow}
      (h : insertCommand db agentId commandId fingerprint kind now = .ok (db', row)) :
      Change tools admits verified db db'
  | published {agentId : AgentId} {commandId : String} {now : Instant} {db' : Db}
      (h : markCommandPublished db agentId commandId now = .ok db') :
      Change tools admits verified db db'
  | admitted {crypto : CryptoTools} {signer : ManagedDispatchSigner} {a : ManagedWorkAdmission}
      {preflight : PreflightRow} {recipientKey : DispatchEncryptionKey} {idempotencyKey : String}
      {fingerprint random : Bytes} {db' : Db} {work : ManagedWorkRow} {command : CommandRow}
      (hadmits : admits) (h : insertManagedWork tools db a preflight recipientKey
        (buildDispatch tools crypto signer idempotencyKey a.submission fingerprint random) =
        .ok (db', work, command)) :
      Change tools admits verified db db'
  | swept {choice : ManagedWorkId → Bool} {now : Instant} {db' : Db}
      (h : expireManagedPayloads db choice now = .ok db') : Change tools admits verified db db'
  | observed {dispatch : CommandRow} {work : ManagedWorkRow} {signed : SignedAgentStateObservation}
      {now : Instant} {db' : Db} (hdispatch : dispatch ∈ db.commands.rows)
      (hmanaged : dispatch.command.isInline = false) (hwork : work ∈ db.works.rows)
      (hverified : verified signed) (h : projectObservation db dispatch work signed now = .ok db') :
      Change tools admits verified db db'

variable {admits : Prop}

lemma Change.write (h : Change tools admits verified db db') : Write tools verified db db' := by
  cases h with
  | none => exact .refl
  | preflights => exact .frame rfl rfl rfl rfl
  | inserted h => exact insertCommand_write h
  | published h => exact markCommandPublished_write h
  | admitted _ h => exact insertManagedWork_write h
  | swept h => exact expireManagedPayloads_write h
  | observed hdispatch _ hwork hverified h => exact projectObservation_write hdispatch hwork hverified h

lemma enqueueCommand_change {kind : JobKind}
    (h : enqueueCommand fleet db agentId jobId fingerprint kind now = .ok (db', row)) :
    Change tools admits verified db db' := by
  simp only [enqueueCommand, bind_ok] at h
  obtain ⟨_, _, _, _, h⟩ := h
  split at h
  · simp only [bind_ok, pure_ok, Prod.mk.injEq] at h
    obtain ⟨_, _, rfl, _⟩ := h
    exact .none
  · exact .inserted h

lemma enqueueJob_change {request : JobRequest}
    (h : enqueueJob tools config fleet db agentId jobId request now = .ok (db', row)) :
    Change tools admits verified db db' := by
  simp only [enqueueJob, bind_ok] at h
  obtain ⟨_, _, _, _, _, _, h⟩ := h
  exact enqueueCommand_change h

lemma preflightManagedWork_change {request : ManagedWorkPreflightRequest}
    {preflightId : ManagedPreflightId} {row : Option PreflightRow}
    (h : preflightManagedWork config fleet db request preflightId now = .ok (db', row)) :
    Change tools admits verified db db' := by
  simp only [preflightManagedWork, bind_ok] at h
  obtain ⟨_, _, _, _, _, _, _, _, _, _, _, _, h⟩ := h
  split at h
  · simp only [bind_ok, pure_ok, Prod.mk.injEq] at h
    obtain ⟨_, _, rfl, _⟩ := h
    exact .preflights _
  · simp only [pure_ok, Prod.mk.injEq] at h
    obtain ⟨rfl, _⟩ := h
    exact .none

lemma admitManagedWork_change {a : ManagedWorkAdmission}
    {result : ManagedWorkRow × Option CommandRow} (hadmits : admits)
    (h : admitManagedWork tools fleet db a
      (buildDispatch tools crypto signer idempotencyKey a.submission fingerprint random) =
      .ok (db', result)) :
    Change tools admits verified db db' := by
  simp only [admitManagedWork, bind_ok] at h
  obtain ⟨_, _, _, _, existing, _, h⟩ := h
  split at h
  · simp only [bind_ok, pure_ok, Prod.mk.injEq] at h
    obtain ⟨_, _, rfl, _⟩ := h
    exact .none
  · simp only [bind_ok, pure_ok, Prod.mk.injEq] at h
    obtain ⟨⟨preflight, recipientKey⟩, _, ⟨db'', work, command⟩, hinsert, rfl, _⟩ := h
    exact .admitted hadmits hinsert

lemma submitManagedWork_change {managedWorkId : ManagedWorkId} {submission : ManagedWorkSubmission}
    {result : ManagedWorkRow × Option CommandRow} (hadmits : admits)
    (h : submitManagedWork tools crypto config fleet db managedWorkId idempotencyKey submission
      random now = .ok (db', result)) :
    Change tools admits verified db db' := by
  simp only [submitManagedWork, submitAt, bind_ok] at h
  obtain ⟨⟨signer, a⟩, _, replay, _, h⟩ := h
  split at h
  · simp only [pure_ok, Prod.mk.injEq] at h
    obtain ⟨rfl, _⟩ := h
    exact .none
  · simp only [bind_ok] at h
    obtain ⟨_, _, h⟩ := h
    exact admitManagedWork_change hadmits h

variable {envelopes : StateEnvelopes}

lemma reconcileStateObservation_change (tools : WireTools) (admits : Prop)
    (h : reconcileStateObservation envelopes fleet db agentId message now = .ok db') :
    Change tools admits (VerifiedBy envelopes fleet agentId message) db db' := by
  unfold reconcileStateObservation at h
  split at h
  · split at h
    · simp only [reconcilePrintJob, bind_ok, orRaise_ok] at h
      obtain ⟨compact, hcompact, keyId, hkeyId, key, hkey, observation, hverify, _, _, h⟩ := h
      split at h
      · simp only [bind_ok, pure_ok] at h
        obtain ⟨_, _, rfl⟩ := h
        exact .none
      · rename_i hcurrent
        simp only [reconcileCurrent, bind_ok, orRaise_ok, require_ok, beq_iff_eq] at h
        obtain ⟨_, _, _, _, dispatch, hdispatch, _, hcontent, work, hwork, h⟩ := h
        have hfound := List.find?_some hkey
        simp only [Bool.and_eq_true, beq_iff_eq] at hfound
        refine .observed (Table.first_spec hdispatch).1 (by rw [hcontent]; rfl)
          (Table.first_spec hwork).1 ⟨⟨_, _, _, _, _, rfl, hcompact⟩, key,
            List.mem_of_find?_eq_some hkey, hfound.1.2, hfound.2, hcurrent, ?_, hverify⟩ h
        rw [hkeyId, hfound.1.1]
    · cases h
      exact .none
  · cases h
    exact .none

lemma insertPublication_ok {agentId : AgentId} {key : String} {message : AgentPublication}
    {now : Instant}
    (hnew : db.publications.first (fun p => p.messageId == message.messageId) = none) :
    ∃ publications, db.publications.insert ⟨message.messageId, agentId, key, message, now⟩ =
      (.ok publications : Except Error _) := by
  refine Table.insert_ok rfl (fun u hu k hk p hp hkey => ?_)
  simp only [publicationSpec, List.mem_singleton] at hu
  subst hu
  have hid : p.messageId = message.messageId := Option.some.inj (hkey.trans hk.symm)
  simpa [hid] using Table.first_none hnew hp

lemma recordPublication_ok {key : String} {inventoryOk : Bool}
    (h : recordPublication envelopes fleet db agentId key message inventoryOk now = .ok db') :
    inventoryOk = true ∧ (fleet.agent? agentId.text).isSome = true ∧
    ((∃ p ∈ db.publications.rows, p.messageId = message.messageId ∧ p.agentId = agentId ∧
      p.payload = message ∧ db' = db) ∨
    ∃ publications reconciled,
      db.publications.first (fun p => p.messageId == message.messageId) = none ∧
      publications.rows = db.publications.rows ++ [⟨message.messageId, agentId, key, message, now⟩] ∧
      reconcileStateObservation envelopes fleet { db with publications := publications } agentId
        message now = .ok reconciled ∧ applyAnswer reconciled agentId message now = .ok db') := by
  simp only [recordPublication, bind_ok, require_ok] at h
  obtain ⟨_, hinventory, _, henrolled, h⟩ := h
  refine ⟨hinventory, henrolled, ?_⟩
  split at h
  · rename_i stored hstored
    simp only [bind_ok, require_ok, pure_ok, Bool.and_eq_true, beq_iff_eq] at h
    obtain ⟨_, ⟨hagent, hpayload⟩, rfl⟩ := h
    obtain ⟨hmem, hid⟩ := Table.first_spec hstored
    exact .inl ⟨stored, hmem, beq_iff_eq.mp hid, hagent, hpayload, rfl⟩
  · rename_i hnone
    simp only [bind_ok] at h
    obtain ⟨publications, hinsert, reconciled, hreconciled, hanswer⟩ := h
    exact .inr ⟨publications, reconciled, hnone, Table.insert_rows hinsert, hreconciled, hanswer⟩

lemma recordPublication_writes {key : String} {inventoryOk : Bool}
    (h : recordPublication envelopes fleet db agentId key message inventoryOk now = .ok db') :
    Writes tools (VerifiedBy envelopes fleet agentId message) db db' := by
  obtain ⟨-, -, ⟨_, _, _, _, _, rfl⟩ | ⟨publications, reconciled, -, -, hreconciled, hanswer⟩⟩ :=
    recordPublication_ok h
  · exact .refl
  · have hpublished : Write tools (VerifiedBy envelopes fleet agentId message) db
        { db with publications := publications } := .frame rfl rfl rfl rfl
    exact ((Relation.ReflTransGen.single hpublished).tail
      (reconcileStateObservation_change tools False hreconciled).write).tail
      (applyAnswer_write hanswer)

def Event.Verifies (envelopes : StateEnvelopes) : Event → SignedAgentStateObservation → Prop
  | .publication fleet agentId _ message _ _ => VerifiedBy envelopes fleet agentId message
  | _ => fun _ => False

def Event.Admits : Event → Prop
  | .submitWork .. => True
  | _ => False

theorem run_change {tools : Tools} {event : Event} (h : event.run tools db = .ok db') :
    Change tools.wire event.Admits (event.Verifies tools.envelopes) db db' ∨
      ∃ fleet agentId key message inventoryOk now,
        event = .publication fleet agentId key message inventoryOk now := by
  cases event with
  | enqueueJob =>
    obtain ⟨⟨_, row⟩, hrun, rfl⟩ := map_ok.mp h
    exact .inl (enqueueJob_change hrun)
  | cancelJob =>
    obtain ⟨⟨_, row⟩, hrun, rfl⟩ := map_ok.mp h
    simp only [cancelJob, bind_ok] at hrun
    obtain ⟨_, _, _, _, _, _, _, _, hrun⟩ := hrun
    exact .inl (enqueueJob_change hrun)
  | markPublished => exact .inl (.published h)
  | preflight =>
    obtain ⟨⟨_, row⟩, hrun, rfl⟩ := map_ok.mp h
    exact .inl (preflightManagedWork_change hrun)
  | submitWork =>
    obtain ⟨⟨_, result⟩, hrun, rfl⟩ := map_ok.mp h
    exact .inl (submitManagedWork_change trivial hrun)
  | sweep => exact .inl (.swept h)
  | publication =>
    exact .inr ⟨_, _, _, _, _, _, rfl⟩

theorem run_writes {tools : Tools} {event : Event} (h : event.run tools db = .ok db') :
    Writes tools.wire (event.Verifies tools.envelopes) db db' := by
  rcases run_change h with hchange | ⟨_, _, _, _, _, _, rfl⟩
  · exact .single hchange.write
  · exact recordPublication_writes h

lemma Reachable.run {tools : Tools} {db : Db} (h : Reachable tools db) (events : List Event) :
    Reachable tools (events.foldl (step tools) db) := by
  induction events generalizing db with
  | nil => exact h
  | cons e es ih => exact ih (h.next e)

lemma Writes.preserve {I : Db → Prop} (h : Writes tools verified db db')
    (hwrite : ∀ db db', I db → Write tools verified db db' → I db') (hdb : I db) : I db' := by
  induction h with
  | refl => exact hdb
  | tail _ hlast ih => exact hwrite _ _ ih hlast

theorem Reachable.invariant {tools : Tools} {I : Db → Prop} (hstart : I {})
    (hwrite : ∀ verified db db', I db → Write tools.wire verified db db' → I db') {db : Db}
    (h : Reachable tools db) : I db := by
  induction h with
  | start => exact hstart
  | @next db _ event ih =>
    unfold step
    split
    · rename_i db' hrun
      exact (run_writes hrun).preserve (hwrite _) ih
    · exact ih

end Inari.Controller
