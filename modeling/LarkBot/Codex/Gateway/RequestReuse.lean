import LarkBot.Codex.Gateway.Callbacks

/-! # Reused request ids

A request whose id is not marked as answered is served: it gets a callback task,
which is offered to the side channel, and the first answer takes it. The marks are
never taken away for a new request, so a request with a marked id is served to nobody.
-/

namespace LarkBot

open Foundation GatewayAction History

/-- A request came with the id, and was neither answered nor resolved since. -/
def Awaited (requestId : RequestId) : List GatewayAction → Prop :=
  Open (Intercepts requestId) (Settles requestId)

/-- A request comes with an id that does not count as answered. -/
def Gateway.InterceptsUnanswered (gateway : Gateway) (event : GatewayEvent) : Prop :=
  ∀ message requestId method, event.upstreamMessage = some message →
    interceptedRequest message = some (requestId, method) → requestId ∉ gateway.respondedIds

namespace Arbitration

variable {state after : Arbitration} {move : ArbitrationMove}

/-- The same of a move of the arbitration. -/
def InterceptsUnanswered (state : Arbitration) (move : ArbitrationMove) : Prop :=
  ∀ request, move = .intercept request → request.requestId ∉ state.respondedIds

/-- The invariant of the runs in which no answered id is used again. -/
structure Serving (state : Arbitration) : Prop where
  consistent : state.Consistent
  unanswered : ∀ requestId, Awaited requestId state.history →
    requestId ∈ state.interceptedIds ∧ requestId ∉ state.respondedIds
  offered : Throughout (fun before action => ∀ task request, action = .skipped task request →
    ¬ Awaited request.requestId before) state.history
  answered : Throughout (fun before action => ∀ call, action = .refused call →
    ¬ Awaited call.requestId before) state.history
  delivered : ∀ call, .won call ∈ state.history ↔ .delivered (.response call) ∈ state.history

/-- A move keeps the invariant as long as it intercepts no answered id. -/
theorem Serving.moves (serving : state.Serving) (moves : state.Moves move after)
    (fresh : state.InterceptsUnanswered move) : after.Serving where
  consistent := serving.consistent.moves moves
  unanswered requestId awaited := by
    rw [Awaited, moves.history, open_append] at awaited
    rcases awaited with ⟨rest, since, _⟩ | ⟨old, unsettled⟩
    · obtain ⟨action, member, intercepts⟩ := since.marked
      cases action with
      | intercepted request =>
          obtain rfl : request.requestId = requestId := intercepts
          obtain rfl : move = .intercept request := moves.madeBy member
          cases moves
          exact ⟨Finset.mem_insert_self _ _, fresh request rfl⟩
      | _ => exact intercepts.elim
    · obtain ⟨intercepted, unanswered⟩ := serving.unanswered requestId old
      refine ⟨moves.interceptedIds.mpr (Or.inl intercepted), fun responded => ?_⟩
      rcases moves.respondedIds responded with before | ⟨action, member, settles⟩
      · exact unanswered before
      · exact unsettled action member settles
  offered := by
    apply moves.throughout serving.offered
    rintro before _ rest split task request rfl awaited
    have member : .skipped task request ∈ state.added move :=
      split ▸ List.mem_append_right _ List.mem_cons_self
    obtain rfl : move = .note (.skipped task request) := moves.madeBy member
    rw [nothing_before split le_rfl, List.append_nil] at awaited
    cases moves with
    | note _ answered => exact (serving.unanswered _ awaited).2 answered
  answered := by
    apply moves.throughout serving.answered
    rintro before _ rest split call rfl awaited
    have member : .refused call ∈ state.added move :=
      split ▸ List.mem_append_right _ List.mem_cons_self
    obtain rfl : move = .refuse call := moves.madeBy member
    rw [nothing_before split le_rfl, List.append_nil] at awaited
    obtain ⟨intercepted, unanswered⟩ := serving.unanswered _ awaited
    cases moves with
    | refuse _ _ lost => exact lost.elim (fun other => other intercepted) unanswered
  delivered call := by
    rw [moves.history, List.mem_append, List.mem_append, serving.delivered, added_won_iff moves]

end Arbitration

variable {config : GatewayConfig} {gateway : Gateway}

section Scenarios

/-- A message that brings no request with an id that counts as answered. -/
def unanswered (gateway : Gateway) (event : GatewayEvent) : Bool :=
  (event.upstreamMessage.bind interceptedRequest).all fun request =>
    request.1 ∉ gateway.respondedIds

end Scenarios

end LarkBot
