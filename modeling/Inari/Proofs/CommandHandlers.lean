import Inari.Agent.CommandDispatcher
import Inari.Lib.Sequences

/-!
# The handlers finish their command

A handler ends with its command accepted or rejected, whatever the job service answers.
-/

namespace Inari.Agent

open Lib GatewayRepository

/-- The message is the next one, and a record of its id or sequence is its own. -/
structure Expects (db : CommandDb) (message : ControllerCommandMessage) : Prop where
  next : message.sequence = lastAppliedSequence db + 1
  record : ∀ r ∈ db.inbound.rows,
    r.commandId = message.commandId ∨ r.sequence = some message.sequence →
      r = (message.inbound none).row

def Applied (db : CommandDb) (message : ControllerCommandMessage) : Prop :=
  (∃ r ∈ db.inbound.rows, r.commandId = message.commandId ∧ r.state.applied = true) ∧
    lastAppliedSequence db = message.sequence

variable {db : CommandDb} {P : Type}

lemma le_lastAppliedSequence {r : InboundRow ControllerCommandMessage} {n : Nat}
    (hr : r ∈ db.inbound.rows) (happlied : r.state.applied = true) (hn : r.sequence = some n) :
    n ≤ lastAppliedSequence db := by
  apply le_foldr_max
  rw [List.mem_filterMap]
  exact ⟨r, List.mem_filter.mpr ⟨hr, happlied⟩, hn⟩

lemma lastAppliedSequence_le {b : Nat}
    (h : ∀ r ∈ db.inbound.rows, r.state.applied = true → ∀ n, r.sequence = some n → n ≤ b) :
    lastAppliedSequence db ≤ b := by
  apply foldr_max_le
  intro n hn
  obtain ⟨r, hr, hseq⟩ := List.mem_filterMap.mp hn
  obtain ⟨hmem, happlied⟩ := List.mem_filter.mp hr
  exact h r hmem happlied n hseq

lemma recordInboundCommand_expected {message : ControllerCommandMessage} (h : Expects db message) :
    ∃ db' created,
      recordInboundCommand db (message.inbound none) =
        .ok (db', (message.inbound none).row, created) ∧
      (message.inbound none).row ∈ db'.inbound.rows ∧
      ∀ r ∈ db'.inbound.rows, r.commandId ≠ message.commandId → r ∈ db.inbound.rows := by
  unfold recordInboundCommand
  cases hfirst : db.inbound.first (fun r => r.commandId == (message.inbound none).commandId) with
  | some existing =>
    obtain ⟨hmem, hid⟩ := Table.first_spec hfirst
    have heq : existing = (message.inbound none).row :=
      h.record existing hmem (.inl (beq_iff_eq.mp hid))
    refine ⟨db, false, ?_, heq ▸ hmem, fun r hr _ => hr⟩
    subst heq
    simp only [bind_ok, pure_ok, assertExactInboundReplay, require_ok]
    exact ⟨(), by simp [InboundCommand.row], trivial⟩
  | none =>
    have hid : ∀ r ∈ db.inbound.rows, r.commandId ≠ message.commandId := by
      intro r hr
      simpa [ControllerCommandMessage.inbound] using Table.first_none hfirst hr
    have hfresh : ∀ r ∈ db.inbound.rows, r.sequence ≠ some message.sequence := by
      intro r hr hseq
      exact hid r hr (h.record r hr (.inr hseq) ▸ rfl)
    have hinsert : ∃ rows, db.inbound.insert (message.inbound none).row =
        (.ok rows : Except GatewayError _) := by
      apply Table.insert_ok rfl
      intro u hu k hk r hr hkey
      simp only [inboundSpec, List.mem_cons, List.not_mem_nil, or_false] at hu
      rcases hu with rfl | rfl | rfl
      · exact hid r hr (Option.some.inj (hkey.trans hk.symm))
      · exact hfresh r hr (hkey.trans hk.symm)
      · cases hk
    obtain ⟨rows, hrows⟩ := hinsert
    have hmem := Table.insert_rows hrows
    refine ⟨{ db with inbound := rows }, true, ?_, ?_, ?_⟩
    · simp only [bind_ok, pure_ok, requireNextSequence, requireCurrentEpoch,
        ControllerCommandMessage.inbound, require_ok]
      exact ⟨(), by simpa using h.next, (), trivial, rows, hrows, rfl⟩
    · rw [hmem]
      simp
    · intro r hr hne
      rw [hmem, List.mem_append, List.mem_singleton] at hr
      rcases hr with hr | rfl
      · exact hr
      · exact absurd rfl hne

variable (r : InboundRow P) (answer : CommandAnswer)

@[simp] lemma finish_commandId :
    (r.finish answer).commandId = r.commandId := by cases answer <;> rfl

@[simp] lemma finish_sequence : (r.finish answer).sequence = r.sequence := by cases answer <;> rfl

@[simp] lemma finish_dispatchEpoch :
    (r.finish answer).dispatchEpoch = r.dispatchEpoch := by cases answer <;> rfl

@[simp] lemma finish_applied : (r.finish answer).state.applied = true := by cases answer <;> rfl

lemma markInbound_ok (db : CommandDb) (commandId : String) (answer : CommandAnswer) :
    ∃ db', markInbound db commandId answer = .ok db' ∧
      db'.inbound.rows =
        Table.updated db.inbound.rows (fun r => r.commandId == commandId) (·.finish answer) := by
  have hupdate : ∃ rows, db.inbound.update (fun r => r.commandId == commandId) (·.finish answer) =
      (.ok rows : Except GatewayError _) := by
    apply Table.update_ok
    · intro r _ _
      rfl
    · intro u hu r _ _
      simp only [inboundSpec, List.mem_cons, List.not_mem_nil, or_false] at hu
      rcases hu with rfl | rfl | rfl <;>
        simp [inboundIdKey, inboundSequenceKey, inboundEpochKey]
  obtain ⟨rows, hrows⟩ := hupdate
  refine ⟨{ db with inbound := rows }, ?_, Table.update_rows hrows⟩
  simp only [markInbound, bind_ok, pure_ok]
  exact ⟨rows, hrows, rfl⟩

theorem handleJob_applies {message : ControllerCommandMessage} (h : Expects db message)
    {enrollment : GatewayEnrollmentRecord} {action : ControllerAction}
    (haction : action ∈ enrollment.controllerActions) (outcome : Except Rejection String) :
    ∃ db', handleJob db message enrollment action outcome = .ok db' ∧ Applied db' message := by
  obtain ⟨db₁, created, hrecord, hmem, hothers⟩ := recordInboundCommand_expected h
  obtain ⟨db₂, hmark, hrows⟩ := markInbound_ok db₁ message.commandId (answerOf outcome)
  refine ⟨db₂, ?_, ?_, ?_⟩
  · simp only [handleJob, requireAction, bind_ok, require_ok, hrecord]
    exact ⟨(), by simpa using haction, _, rfl, by simpa [InboundCommand.row] using hmark⟩
  · refine ⟨(message.inbound none).row.finish (answerOf outcome), ?_, by simp [InboundCommand.row,
      ControllerCommandMessage.inbound], by simp⟩
    exact Table.mem_written hrows hmem (by simp [InboundCommand.row,
      ControllerCommandMessage.inbound])
  · apply le_antisymm
    · apply lastAppliedSequence_le
      intro r hr happlied n hn
      rcases Table.updated_cases hrows hr with ⟨hr, hid⟩ | ⟨a, ha, hid, rfl⟩
      · have hle := le_lastAppliedSequence (hothers r hr (by simpa using hid)) happlied hn
        have hnext := h.next
        omega
      · -- the ids are unique, so this is the record of the message
        have heq : a = (message.inbound none).row := by
          apply db₁.inbound.eq_of_key (u := inboundIdKey) (by simp [inboundSpec]) ha hmem
          · rfl
          · simp [inboundIdKey, InboundCommand.row, ControllerCommandMessage.inbound,
              beq_iff_eq.mp hid]
        subst heq
        simp [InboundCommand.row, ControllerCommandMessage.inbound] at hn
        omega
    · apply le_lastAppliedSequence (r := (message.inbound none).row.finish (answerOf outcome))
      · exact Table.mem_written hrows hmem (by simp [InboundCommand.row,
          ControllerCommandMessage.inbound])
      · simp
      · simp [InboundCommand.row, ControllerCommandMessage.inbound]

end Inari.Agent
