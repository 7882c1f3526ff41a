import Inari.Proofs.CommandExecution

/-!
# Records and handlers of the gateway after a step

Where the records of commands and the handler after a step come from.
-/

namespace Inari.Agent

open Lib GatewayRepository

namespace Gateway

variable {config : GatewayConfig} {s : Gateway} {h : Handler} {inp : HandlerInput}
  {e : GatewayEvent} {actions : List GatewayAction} {jobId : String}

inductive RecordFrom (s : Gateway) (actions : List GatewayAction)
    (r : InboundRow ControllerCommandMessage) : Prop
  | kept (hr : r ∈ s.commands.inbound.rows)
  | finished (h : Handler) (epoch : Option Nat) (a : CommandAnswer)
      (r₀ : InboundRow ControllerCommandMessage) (hhandler : s.handler = some h)
      (hphase : h.phase = .finish epoch a) (hr₀ : r₀ ∈ s.commands.inbound.rows)
      (hfinished : FinishedAs a r₀ r)
  | recorded (h : Handler) (hhandler : s.handler = some h) (hpayload : r.payload = h.message)
      (hresponse : r.response = none) (hjob : r.jobId = none)
      (haction : .recorded h.enrolled.controller h.message ∈ actions)

variable {r : InboundRow ControllerCommandMessage}

lemma Handles.records {next : Gateway × List GatewayAction} (hc : Handles s h inp next)
    (hx : Recording s) (hhandler : s.handler = some h) (hr : r ∈ next.1.commands.inbound.rows) :
    RecordFrom s next.2 r := by
  cases hc with
  | recorded epoch phase commands hphase hstart hrows =>
    have hr' : r ∈ commands.inbound.rows := hr
    rw [hrows, List.mem_append, List.mem_singleton] at hr'
    rcases hr' with hr' | rfl
    · exact .kept hr'
    · exact .recorded h hhandler rfl rfl rfl (List.mem_singleton_self _)
  | finished epoch answer commands hphase hrecord =>
    obtain ⟨-, ⟨f, hrows, hspec⟩⟩ := hrecord.finishes hx.settled (hx.phase h hhandler) hphase
    rcases Table.updated_cases hrows hr with ⟨hr, -⟩ | ⟨r₀, hr₀, -, rfl⟩
    · exact .kept hr
    · exact .finished h epoch answer r₀ hhandler hphase hr₀ (hspec r₀)
  | requeued messageId =>
    obtain ⟨outbox, hmark, -⟩ := mark_eq (s := s) messageId .pending
    rw [hmark] at hr
    exact .kept hr
  | _ => exact .kept hr

theorem next_records (hx : Recording s)
    (hr : r ∈ (s.next config e).1.commands.inbound.rows) : RecordFrom s (s.next config e).2 r := by
  have hleft : ofHandler e = false → RecordFrom s (s.next config e).2 r := by
    intro he
    rw [(next_leaves he).commands] at hr
    exact .kept hr
  cases e with
  | deliver => simp only [next] at hr; split at hr <;> exact .kept hr
  | handle =>
    simp only [next] at hr ⊢
    split at hr
    · exact .kept hr
    · exact handle_cases.records hx ‹_› hr
  | cancelHandler | stop => exact .kept hr
  | _ => exact hleft rfl

lemma Handles.handler {next : Gateway × List GatewayAction} {h' : Handler}
    (hc : Handles s h inp next) (hhandler : s.handler = some h) (hh : next.1.handler = some h') :
    h'.message = h.message ∧ h'.enrolled = h.enrolled ∧
      ∀ jobId, h'.phase = .cancel jobId → h' = h ∨ h'.message.content = .cancelJob jobId := by
  cases hc with
  | recorded epoch phase commands hphase hstart | resumed epoch phase hphase hstart =>
    cases hh
    refine ⟨rfl, rfl, ?_⟩
    rintro jobId ⟨⟩
    cases hstart
    exact .inr ‹_›
  | left | sent | requeued => cases hh
  | waits | advanced =>
    obtain rfl := Option.some.inj (hhandler.symm.trans hh)
    exact ⟨rfl, rfl, fun _ _ => .inl rfl⟩
  | _ => cases hh; exact ⟨rfl, rfl, by rintro _ ⟨⟩⟩

inductive HandledBy (s : Gateway) (e : GatewayEvent) (h' : Handler) : Prop
  | kept (h : Handler) (hhandler : s.handler = some h) (hmessage : h'.message = h.message)
      (henrolled : h'.enrolled = h.enrolled)
  | delivered (he : e = .deliver h'.message) (henrolled : s.enrolled = some h'.enrolled)

theorem next_handler {h' : Handler} (hh : (s.next config e).1.handler = some h') :
    HandledBy s e h' := by
  have hleft : ofHandler e = false → HandledBy s e h' := by
    intro he
    rw [(next_leaves he).handler] at hh
    exact .kept h' hh rfl rfl
  cases e with
  | deliver =>
    simp only [next] at hh
    split at hh
    · rename_i enrolled _ henrolled
      cases hh
      exact .delivered rfl henrolled
    · exact .kept h' hh rfl rfl
  | handle =>
    simp only [next] at hh
    split at hh
    · exact .kept h' hh rfl rfl
    · rename_i h hhandler
      obtain ⟨hmessage, henrolled, -⟩ := handle_cases.handler hhandler hh
      exact .kept h hhandler hmessage henrolled
  | cancelHandler | stop => cases hh
  | _ => exact hleft rfl

end Gateway

end Inari.Agent
