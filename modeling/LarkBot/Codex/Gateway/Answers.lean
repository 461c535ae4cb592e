import LarkBot.Foundation.History
import LarkBot.Codex.Gateway.Arbitration

/-! # At most one answer

The arbitration keeps its parts together in every run
(`LarkBot.Arbitration.Consistent`): a call that took a request is the only one
whose response is under the send lock, and an id counts as answered only since a
call took it or the upstream resolved it.
-/

namespace LarkBot

open Foundation

/-- The call whose response a frame is. -/
def Outgoing.call? : Outgoing → Option RespondCall
  | .raw _ _ _ => none
  | .response call => some call

namespace GatewayAction

variable (requestId : RequestId)

/-- An intercepted request with this id arrived. -/
def Intercepts : GatewayAction → Prop
  | .intercepted request => request.requestId = requestId
  | _ => False

instance : DecidablePred (Intercepts requestId) := fun action => by
  unfold Intercepts
  split <;> infer_instance

/-- The upstream resolved the request with this id. -/
def Resolves : GatewayAction → Prop
  | .resolved other => other = requestId
  | _ => False

instance : DecidablePred (Resolves requestId) := fun action => by
  unfold Resolves
  split <;> infer_instance

/-- A call took the request with this id. -/
def Accepts : GatewayAction → Prop
  | .accepted call => call.requestId = requestId
  | _ => False

instance : DecidablePred (Accepts requestId) := fun action => by
  unfold Accepts
  split <;> infer_instance

/-- A call that took the request with this id raised. -/
def GivesUp : GatewayAction → Prop
  | .raised call => call.requestId = requestId
  | _ => False

/-- The id is answered from now on. -/
def Settles (action : GatewayAction) : Prop := action.Accepts requestId ∨ action.Resolves requestId

instance : DecidablePred (Settles requestId) := fun _ => instDecidableOr

/-- A response with this id was handed to the upstream socket. -/
def Hands : GatewayAction → Prop
  | .handed outgoing => outgoing.responseId = some requestId
  | _ => False

/-- A response with this id was delivered. -/
def delivers : GatewayAction → Bool
  | .delivered outgoing => outgoing.responseId == some requestId
  | _ => false

end GatewayAction

open GatewayAction History

namespace Arbitration

/-- What holds between the parts of the arbitration. -/
structure Consistent (state : Arbitration) : Prop where
  /-- The response under the send lock is that of the call that holds the response lock. -/
  calls : state.sends.items.filterMap Outgoing.call? = state.holder.toList
  claimed : ∀ call, state.holder = some call →
    call.requestId ∈ state.interceptedIds ∧ call.requestId ∈ state.respondedIds
  intercepted : ∀ requestId, requestId ∈ state.interceptedIds ↔
    ∃ action ∈ state.history, action.Intercepts requestId
  settled : ∀ requestId ∈ state.respondedIds,
    Open (Settles requestId) (GivesUp requestId) state.history

variable {state after : Arbitration} {move : ArbitrationMove}

/-- Only the call that holds the response lock has its response under the send lock. -/
theorem Consistent.holder_of_mem (consistent : state.Consistent) {call : RespondCall}
    (member : .response call ∈ state.sends.items) : state.holder = some call := by
  have sent : call ∈ state.sends.items.filterMap Outgoing.call? :=
    List.mem_filterMap.mpr ⟨_, member, rfl⟩
  rw [consistent.calls] at sent
  exact Option.mem_toList.mp sent

/-- The call whose response is being sent holds the response lock. -/
theorem Consistent.holder_of_sending (consistent : state.Consistent) {call : RespondCall}
    (sending : state.sends.holder = some (.response call)) : state.holder = some call := by
  apply consistent.holder_of_mem
  rw [FairLock.items_of_holder sending]
  exact List.mem_cons_self

/-- What a move adds to the history. -/
def added (state : Arbitration) : ArbitrationMove → List GatewayAction
  | .note action => [action]
  | .intercept request => [.intercepted request]
  | .resolve requestId => [.resolved requestId]
  | .refuse call => [.refused call]
  | .accept call => .accepted call :: if state.sends.isIdle then [.handed (.response call)] else []
  | .forward client message rawMessage =>
      if state.sends.isIdle then [.handed (.raw client message rawMessage)] else []
  | .grant => (state.sends.grant?.map fun granted => .handed granted.1).toList
  | .win call => [.delivered (.response call), .won call]
  | .lose call => [.failed (.response call), .raised call]
  | .deliver client message rawMessage => [.delivered (.raw client message rawMessage)]
  | .drop client message rawMessage => [.failed (.raw client message rawMessage)]
  | .withdraw call => [.raised call]

/-- A move adds to the history what it is about. -/
theorem Moves.history (moves : state.Moves move after) :
    after.history = state.history ++ state.added move := by
  cases moves with
  | note | intercept | resolve | refuse | withdraw | deliver | drop => rfl
  | win | lose => exact List.append_assoc _ _ _
  | accept call =>
      rw [send_history, record_sends, record_history]
      simp only [added]
      by_cases idle : state.sends.isIdle <;>
        simp only [idle, Bool.false_eq_true, ↓reduceIte, List.append_assoc, List.singleton_append]
  | forward =>
      rw [send_history]
      simp only [added]
      split <;> simp only [List.append_nil]
  | grant outgoing lock grants => simp only [record_history, added, grants, Option.map_some,
      Option.toList_some]

/-- A rule for what is to hold of every action: it is checked where a move adds one. -/
theorem Moves.throughout {allowed : List GatewayAction → GatewayAction → Prop}
    (moves : state.Moves move after) (held : Throughout allowed state.history)
    (adds : ∀ before action rest, state.added move = before ++ action :: rest →
      allowed (state.history ++ before) action) : Throughout allowed after.history := by
  rw [moves.history, throughout_append]
  exact ⟨held, adds⟩

/-- The moves that an action can come from. -/
def MadeBy (state : Arbitration) (move : ArbitrationMove) : GatewayAction → Prop
  | .intercepted request => move = .intercept request
  | .resolved requestId => move = .resolve requestId
  | .refused call => move = .refuse call
  | .accepted call => move = .accept call
  | .won call => move = .win call
  | .raised call => move = .lose call ∨ move = .withdraw call
  | .handed (.response call) => move = .accept call ∨
      move = .grant ∧ .response call ∈ state.sends.waiting
  | .handed (.raw client message rawMessage) => move = .forward client message rawMessage ∨
      move = .grant ∧ .raw client message rawMessage ∈ state.sends.waiting
  | .delivered (.response call) => move = .win call
  | .delivered (.raw client message rawMessage) => move = .deliver client message rawMessage
  | .failed (.response call) => move = .lose call
  | .failed (.raw client message rawMessage) => move = .drop client message rawMessage
  | action => move = .note action

/-- What a move adds to the history says which move it was. -/
theorem Moves.madeBy (moves : state.Moves move after) {action : GatewayAction}
    (member : action ∈ state.added move) : MadeBy state move action := by
  cases moves with
  | note noted isNoted =>
      rw [List.mem_singleton.mp member]
      cases noted <;> first | rfl | exact isNoted.elim
  | intercept | resolve | refuse | deliver | drop => rw [List.mem_singleton.mp member]; rfl
  | accept call =>
      rcases List.mem_cons.mp member with rfl | handed
      · rfl
      · split at handed
        · rw [List.mem_singleton.mp handed]
          exact Or.inl rfl
        · cases handed
  | forward client message rawMessage =>
      simp only [added] at member
      split at member
      · rw [List.mem_singleton.mp member]
        exact Or.inl rfl
      · cases member
  | grant outgoing lock grants =>
      simp only [added, grants, Option.map_some, Option.toList_some, List.mem_singleton] at member
      have waits := FairLock.mem_waiting_of_grant grants
      rw [member]
      cases outgoing <;> exact Or.inr ⟨rfl, waits⟩
  | win | lose =>
      rcases List.mem_pair.mp member with rfl | rfl
      · rfl
      · first | rfl | exact Or.inl rfl
  | withdraw => rw [List.mem_singleton.mp member]; exact Or.inr rfl

/-- A call ends as its send did. -/
theorem added_won_iff (moves : state.Moves move after) (call : RespondCall) :
    .won call ∈ state.added move ↔ .delivered (.response call) ∈ state.added move := by
  constructor
  · intro member
    obtain rfl : move = .win call := moves.madeBy member
    exact List.mem_cons_self
  · intro member
    obtain rfl : move = .win call := moves.madeBy member
    exact List.mem_cons_of_mem _ List.mem_cons_self

/-- The only action that a move adds comes right after the history. -/
theorem nothing_before {before rest added : List GatewayAction} {action : GatewayAction}
    (split : added = before ++ action :: rest) (short : added.length ≤ 1) : before = [] := by
  rw [split, List.length_append, List.length_cons] at short
  exact List.eq_nil_of_length_eq_zero (by omega)

/-- An id that counts as answered did before, or a settling action makes it. -/
theorem Moves.respondedIds (moves : state.Moves move after) {requestId : RequestId}
    (responded : requestId ∈ after.respondedIds) :
    requestId ∈ state.respondedIds ∨
      ∃ action ∈ state.added move, action.Settles requestId := by
  cases moves with
  | note | intercept | refuse | grant | win | deliver | drop => exact Or.inl responded
  | forward => exact Or.inl (by simpa only [send_respondedIds] using responded)
  | resolve other =>
      rcases Finset.mem_insert.mp responded with rfl | old
      · exact Or.inr ⟨_, List.mem_singleton_self _, Or.inr rfl⟩
      · exact Or.inl old
  | accept call =>
      rw [send_respondedIds] at responded
      rcases Finset.mem_insert.mp responded with rfl | old
      · exact Or.inr ⟨_, List.mem_cons_self, Or.inl rfl⟩
      · exact Or.inl old
  | lose | withdraw => exact Or.inl (Finset.mem_of_mem_erase responded)

/-- An id counts as answered no more once its call raised. -/
theorem Moves.not_givesUp (moves : state.Moves move after) {requestId : RequestId}
    (responded : requestId ∈ after.respondedIds) :
    ∀ action ∈ state.added move, ¬ action.GivesUp requestId := by
  intro action member givesUp
  cases action with
  | raised call =>
      obtain rfl : call.requestId = requestId := givesUp
      rcases moves.madeBy member with rfl | rfl
      · cases moves
        exact Finset.notMem_erase _ _ responded
      · cases moves
        exact Finset.notMem_erase _ _ responded
  | _ => exact givesUp

/-- The ids that were intercepted are those whose requests arrived. -/
theorem Moves.interceptedIds (moves : state.Moves move after) {requestId : RequestId} :
    requestId ∈ after.interceptedIds ↔ requestId ∈ state.interceptedIds ∨
      ∃ request, move = .intercept request ∧ request.requestId = requestId := by
  cases moves with
  | intercept request =>
      simp only [record_interceptedIds, Finset.mem_insert, ArbitrationMove.intercept.injEq,
        exists_eq_left']
      exact or_comm.trans (or_congr_right eq_comm)
  | accept | forward => simp only [send_interceptedIds, record_interceptedIds, reduceCtorEq,
      false_and, exists_false, or_false]
  | _ => simp only [record_interceptedIds, reduceCtorEq, false_and, exists_false, or_false]

/-- A frame under the send lock was there before, or the move brings it. -/
theorem Moves.items (moves : state.Moves move after) {outgoing : Outgoing}
    (member : outgoing ∈ after.sends.items) : outgoing ∈ state.sends.items ∨
      (∃ call, move = .accept call ∧ outgoing = .response call) ∨
      ∃ client message rawMessage, move = .forward client message rawMessage ∧
        outgoing = .raw client message rawMessage := by
  cases moves with
  | note | intercept | resolve | refuse => exact Or.inl member
  | accept call =>
      rw [send_sends, FairLock.items_enter] at member
      rcases List.mem_append.mp member with old | new
      · exact Or.inl old
      · exact Or.inr (Or.inl ⟨call, rfl, List.mem_singleton.mp new⟩)
  | forward client message rawMessage =>
      rw [send_sends, FairLock.items_enter] at member
      rcases List.mem_append.mp member with old | new
      · exact Or.inl old
      · exact Or.inr (Or.inr ⟨client, message, rawMessage, rfl, List.mem_singleton.mp new⟩)
  | grant _ _ grants =>
      rw [record_sends, FairLock.items_grant grants] at member
      exact Or.inl member
  | win | lose | deliver | drop => exact Or.inl (FairLock.mem_items_of_release member)
  | withdraw => exact Or.inl (FairLock.mem_items_of_leave member)

/-- The response under the send lock stays that of the call that holds the response lock. -/
theorem Consistent.moves_calls (consistent : state.Consistent) (moves : state.Moves move after) :
    after.sends.items.filterMap Outgoing.call? = after.holder.toList := by
  have calls := consistent.calls
  cases moves with
  | note | intercept | resolve | refuse => exact calls
  | accept call unheld =>
      rw [send_sends, send_holder, FairLock.items_enter, List.filterMap_append]
      simp only [record_sends, record_holder, calls, unheld, Option.toList_none, Option.toList_some,
        List.nil_append]
      rfl
  | forward =>
      rw [send_sends, send_holder, FairLock.items_enter, List.filterMap_append, calls]
      exact List.append_nil _
  | grant outgoing lock grants =>
      simp only [record_sends, record_holder, FairLock.items_grant grants, calls]
  | win call sending | lose call sending =>
      rw [consistent.holder_of_sending sending, FairLock.items_of_holder sending] at calls
      exact (List.cons.inj calls).2
  | deliver _ _ _ sending | drop _ _ _ sending =>
      rw [FairLock.items_of_holder sending] at calls
      exact calls
  | withdraw call waits =>
      have holds := consistent.holder_of_mem (FairLock.mem_items_of_waiting waits)
      rw [holds] at calls
      have stays : ∀ item, state.sends.holder = some item → !(item == Outgoing.response call) := by
        intro item sending
        refine (Bool.not_eq_true' _).mpr (beq_eq_false_iff_ne.mpr ?_)
        rintro rfl
        rw [FairLock.items_of_holder sending] at calls
        have sent : call ∈ state.sends.release.items.filterMap Outgoing.call? :=
          List.mem_filterMap.mpr ⟨_, FairLock.mem_items_of_waiting waits, rfl⟩
        rw [(List.cons.inj calls).2] at sent
        cases sent
      simp only [record_sends, record_holder, FairLock.items_leave stays, Option.toList_none,
        List.filterMap_eq_nil_iff, List.mem_filter, Bool.not_eq_true', beq_eq_false_iff_ne,
        ne_eq, and_imp]
      intro item member other
      cases item with
      | raw => rfl
      | response another =>
          have same := consistent.holder_of_mem member
          rw [holds] at same
          exact absurd (congrArg Outgoing.response (Option.some.inj same).symm) other

/-- A call that takes its request finds it intercepted, and marks it. -/
theorem Consistent.moves_claimed (consistent : state.Consistent) (moves : state.Moves move after)
    (call : RespondCall) (holds : after.holder = some call) :
    call.requestId ∈ after.interceptedIds ∧ call.requestId ∈ after.respondedIds := by
  have claimed := consistent.claimed call
  cases moves with
  | note | refuse | grant | deliver | drop => exact claimed holds
  | intercept => exact (claimed holds).imp_left Finset.mem_insert_of_mem
  | resolve => exact (claimed holds).imp_right Finset.mem_insert_of_mem
  | accept other _ isOpen =>
      rw [send_holder] at holds
      obtain rfl : other = call := Option.some.inj holds
      rw [send_interceptedIds, send_respondedIds]
      exact ⟨isOpen, Finset.mem_insert_self _ _⟩
  | forward =>
      rw [send_holder] at holds
      rw [send_interceptedIds, send_respondedIds]
      exact claimed holds
  | win | lose | withdraw => cases holds

/-- A move keeps the arbitration consistent. -/
theorem Consistent.moves (consistent : state.Consistent) (moves : state.Moves move after) :
    after.Consistent where
  calls := consistent.moves_calls moves
  claimed := consistent.moves_claimed moves
  intercepted requestId := by
    rw [moves.interceptedIds, consistent.intercepted, moves.history]
    constructor
    · rintro (⟨action, member, intercepts⟩ | ⟨request, rfl, same⟩)
      · exact ⟨action, List.mem_append_left _ member, intercepts⟩
      · exact ⟨.intercepted request, List.mem_append_right _ List.mem_cons_self, same⟩
    · rintro ⟨action, member, intercepts⟩
      rcases List.mem_append.mp member with old | new
      · exact Or.inl ⟨action, old, intercepts⟩
      · cases action with
        | intercepted request => exact Or.inr ⟨request, moves.madeBy new, intercepts⟩
        | _ => exact intercepts.elim
  settled requestId responded := by
    have unraised := moves.not_givesUp responded
    rw [moves.history, open_append]
    rcases moves.respondedIds responded with old | ⟨action, member, settles⟩
    · exact Or.inr ⟨consistent.settled requestId old, unraised⟩
    · exact Or.inl (open_of_mem member settles unraised)

/-- A gateway that has just started is consistent. -/
theorem consistent_started : Gateway.started.arbitration.Consistent where
  calls := rfl
  claimed _ holds := by cases holds
  intercepted _ := by
    refine ⟨fun member => absurd member (Finset.notMem_empty _), ?_⟩
    rintro ⟨_, member, _⟩
    cases member
  settled _ member := absurd member (Finset.notMem_empty _)

/-- The id counts as answered, and no call that took it can still give it up. -/
def Closed (state : Arbitration) (requestId : RequestId) : Prop :=
  requestId ∈ state.respondedIds ∧
    ∀ call, state.holder = some call → call.requestId ≠ requestId

/-- A closed id stays closed. -/
theorem Closed.moves {requestId : RequestId} (closed : state.Closed requestId)
    (consistent : state.Consistent) (moves : state.Moves move after) :
    after.Closed requestId := by
  obtain ⟨responded, apart⟩ := closed
  cases moves with
  | note | intercept | refuse | grant | deliver | drop => exact ⟨responded, apart⟩
  | resolve => exact ⟨Finset.mem_insert_of_mem responded, apart⟩
  | accept other _ _ unanswered =>
      unfold Closed
      rw [send_respondedIds, send_holder]
      refine ⟨Finset.mem_insert_of_mem responded, ?_⟩
      rintro call holds rfl
      cases holds
      exact unanswered responded
  | forward =>
      unfold Closed
      rw [send_respondedIds, send_holder]
      exact ⟨responded, apart⟩
  | win => exact ⟨responded, nofun⟩
  | lose call sending =>
      have other := apart call (consistent.holder_of_sending sending)
      exact ⟨Finset.mem_erase.mpr ⟨other.symm, responded⟩, nofun⟩
  | withdraw call waits =>
      have other := apart call (consistent.holder_of_mem (FairLock.mem_items_of_waiting waits))
      exact ⟨Finset.mem_erase.mpr ⟨other.symm, responded⟩, nofun⟩

end Arbitration

/-- A history only grows, and every new action comes from a move of the event. -/
theorem Gateway.step_history {config : GatewayConfig} {gateway next : Gateway}
    {event : GatewayEvent} (stepped : gateway.step config event = some next) :
    ∃ added, next.history = gateway.history ++ added ∧ ∀ action ∈ added, ∃ state move,
      ArbitrationMove.Of gateway event state move ∧ Arbitration.MadeBy state move action := by
  refine (Gateway.step_moves stepped).invariant
    (fun state => ∃ added, state.history = gateway.history ++ added ∧ ∀ action ∈ added,
      ∃ state move, ArbitrationMove.Of gateway event state move ∧
        Arbitration.MadeBy state move action) ⟨[], (List.append_nil _).symm, nofun⟩ ?_
  rintro before move after ⟨added, grown, made⟩ performed moves
  refine ⟨added ++ before.added move, by rw [moves.history, grown, List.append_assoc], ?_⟩
  intro action member
  rcases List.mem_append.mp member with old | new
  · exact made action old
  · exact ⟨before, move, performed, moves.madeBy new⟩

end LarkBot
