import LarkBot.Codex.Gateway.Answers

/-! # Resolved requests

`serverRequest/resolved` marks an id as answered beside the response lock. The
mark keeps later answers back, but not one that is already on its way: it is sent
behind the notification, and if it raises it takes the mark with it.
-/

namespace LarkBot

open Foundation GatewayAction History

/-- The upstream resolved the request, and no new request came with its id. -/
def Announced (requestId : RequestId) : List GatewayAction → Prop :=
  Open (Resolves requestId) (Intercepts requestId)

/-- No response is handed to the upstream for a resolved request. -/
def SilentOnceResolved (history : List GatewayAction) : Prop :=
  Throughout (fun before action => ∀ requestId, action.Hands requestId →
    ¬ Announced requestId before) history

/-- When the upstream resolves a request, its id is intercepted, no call that took
the request still sends its response, and no response of the terminal with the id
waits to be sent. -/
def Gateway.ResolvesIdle (gateway : Gateway) (event : GatewayEvent) : Prop :=
  ∀ message requestId, event.upstreamMessage = some message →
    resolvedRequest message = some requestId →
    requestId ∈ gateway.interceptedIds ∧
      (∀ call, gateway.responseLock.holder = some call → call.requestId ≠ requestId) ∧
      ∀ outgoing ∈ gateway.upstreamSendLock.waiting, outgoing.call? = none →
        outgoing.responseId ≠ some requestId

namespace Arbitration

variable {state after : Arbitration} {move : ArbitrationMove}

/-- Nothing with the id is waiting to be sent, and nothing will. -/
structure Silent (state : Arbitration) (requestId : RequestId) : Prop where
  closed : state.Closed requestId
  intercepted : requestId ∈ state.interceptedIds
  unsent : ∀ outgoing ∈ state.sends.waiting, outgoing.call? = none →
    outgoing.responseId ≠ some requestId

/-- The invariant of the runs in which requests are resolved while they are idle. -/
structure Resolved (state : Arbitration) : Prop where
  consistent : state.Consistent
  silent : ∀ requestId, Announced requestId state.history → state.Silent requestId
  quiet : SilentOnceResolved state.history

/-- The same of a move of the arbitration. -/
def ResolvesIdle (state : Arbitration) (move : ArbitrationMove) : Prop :=
  ∀ requestId, move = .resolve requestId → requestId ∈ state.interceptedIds ∧
    (∀ call, state.holder = some call → call.requestId ≠ requestId) ∧
    ∀ outgoing ∈ state.sends.waiting, outgoing.call? = none →
      outgoing.responseId ≠ some requestId

/-- A frame that waits for the send lock waited before, or the move brings it. -/
theorem Moves.waiting (moves : state.Moves move after) {outgoing : Outgoing}
    (waits : outgoing ∈ after.sends.waiting) : outgoing ∈ state.sends.waiting ∨
      (∃ call, move = .accept call ∧ outgoing = .response call) ∨
      ∃ client message rawMessage, move = .forward client message rawMessage ∧
        outgoing = .raw client message rawMessage := by
  cases moves with
  | note | intercept | resolve | refuse | win | lose | deliver | drop => exact Or.inl waits
  | accept call =>
      rw [send_sends] at waits
      rcases FairLock.mem_waiting_enter waits with new | old
      · exact Or.inr (Or.inl ⟨call, rfl, new⟩)
      · exact Or.inl old
  | forward client message rawMessage =>
      rw [send_sends] at waits
      rcases FairLock.mem_waiting_enter waits with new | old
      · exact Or.inr (Or.inr ⟨client, message, rawMessage, rfl, new⟩)
      · exact Or.inl old
  | grant _ _ grants => exact Or.inl (FairLock.mem_waiting_grant grants waits)
  | withdraw => exact Or.inl (List.mem_filter.mp waits).1

/-- A move gives a resolved request no answer. -/
theorem Silent.moves {requestId : RequestId} (silent : state.Silent requestId)
    (consistent : state.Consistent) (moves : state.Moves move after) : after.Silent requestId where
  closed := silent.closed.moves consistent moves
  intercepted := moves.interceptedIds.mpr (Or.inl silent.intercepted)
  unsent outgoing waits isRaw responds := by
    rcases moves.waiting waits with old | ⟨call, _, rfl⟩ | ⟨client, message, rawMessage, rfl, rfl⟩
    · exact silent.unsent outgoing old isRaw responds
    · cases isRaw
    · cases moves with
      | forward _ _ _ isOpen => exact isOpen requestId responds silent.intercepted

/-- No move hands a response over for a silent id. -/
theorem Silent.not_hands {requestId : RequestId} (silent : state.Silent requestId)
    (consistent : state.Consistent) (moves : state.Moves move after) :
    ∀ action ∈ state.added move, ¬ action.Hands requestId := by
  intro action member hands
  cases action with
  | handed outgoing =>
      cases outgoing with
      | response call =>
          obtain rfl : call.requestId = requestId := Option.some.inj hands
          rcases moves.madeBy member with rfl | ⟨_, waits⟩
          · cases moves with
            | accept _ _ _ unanswered => exact unanswered silent.closed.1
          · have holds := consistent.holder_of_mem (FairLock.mem_items_of_waiting waits)
            exact silent.closed.2 call holds rfl
      | raw client message rawMessage =>
          rcases moves.madeBy member with rfl | ⟨_, waits⟩
          · cases moves with
            | forward _ _ _ isOpen => exact isOpen requestId hands silent.intercepted
          · exact silent.unsent _ waits rfl hands
  | _ => exact hands

/-- A move that adds a resolution is that of the notification. -/
theorem Moves.announced {requestId : RequestId} (moves : state.Moves move after)
    {added : List GatewayAction} (announced : Announced requestId added)
    (among : ∀ action ∈ added, action ∈ state.added move) : move = .resolve requestId := by
  obtain ⟨rest, since, _⟩ := announced
  obtain ⟨action, member, resolves⟩ := since.marked
  cases action with
  | resolved other =>
      obtain rfl : other = requestId := resolves
      exact moves.madeBy (among _ member)
  | _ => exact resolves.elim

/-- A move keeps the invariant as long as it resolves no request whose answer is on its
way. -/
theorem Resolved.moves (resolved : state.Resolved) (moves : state.Moves move after)
    (idle : state.ResolvesIdle move) : after.Resolved where
  consistent := resolved.consistent.moves moves
  silent requestId announced := by
    rw [Announced, moves.history, open_append] at announced
    rcases announced with new | ⟨old, _⟩
    · obtain rfl := moves.announced new fun _ member => member
      obtain ⟨intercepted, apart, unsent⟩ := idle requestId rfl
      cases moves
      exact ⟨⟨Finset.mem_insert_self _ _, apart⟩, intercepted, unsent⟩
    · exact (resolved.silent requestId old).moves resolved.consistent moves
  quiet := by
    apply moves.throughout resolved.quiet
    intro before action rest split requestId hands announced
    have member : action ∈ state.added move :=
      split ▸ List.mem_append_right _ List.mem_cons_self
    rw [Announced, open_append] at announced
    rcases announced with new | ⟨old, _⟩
    · obtain rfl := moves.announced new fun other inside => split ▸ List.mem_append_left _ inside
      rw [added, List.mem_singleton] at member
      exact (member ▸ hands : (GatewayAction.resolved requestId).Hands requestId)
    · exact (resolved.silent requestId old).not_hands resolved.consistent moves action member hands

/-- A gateway that has just started has resolved nothing. -/
theorem resolved_started : Gateway.started.arbitration.Resolved where
  consistent := consistent_started
  silent _ announced := absurd announced not_open_nil
  quiet := throughout_nil

end Arbitration

variable {config : GatewayConfig} {gateway : Gateway}

/-- In every run in which the upstream resolves only intercepted requests, none of
which is being answered, no response is handed over for a resolved request. -/
theorem silent_once_resolved
    (reachable : (gatewaySystem config).ReachableVia Gateway.ResolvesIdle gateway) :
    SilentOnceResolved gateway.history := by
  have resolved : gateway.arbitration.Resolved := by
    refine reachable_arbitration reachable Arbitration.Resolved Arbitration.ResolvesIdle
      Arbitration.resolved_started ?_ fun state move after held idle moves => held.moves moves idle
    rintro before event idle state move performed requestId rfl
    obtain ⟨rfl, message, carries, resolves⟩ := performed
    exact idle message requestId carries resolves
  exact resolved.quiet

section Scenarios

/-- An upstream message that arrives while no answer is on its way upstream, and
resolves only a request that is intercepted. -/
def resolvesIdly (gateway : Gateway) (event : GatewayEvent) : Bool :=
  gateway.responseLock.holder.isNone && gateway.upstreamSendLock.waiting.isEmpty &&
    (event.upstreamMessage.bind resolvedRequest).all (· ∈ gateway.interceptedIds) ||
      event.upstreamMessage.isNone

/-- The check of a scenario implies the condition on its events. -/
theorem resolvesIdle_of_resolvesIdly (gateway : Gateway) (event : GatewayEvent)
    (idle : resolvesIdly gateway event) : gateway.ResolvesIdle event := by
  intro message requestId carries resolves
  simp only [resolvesIdly, carries, Option.bind_some, resolves, Option.all_some, Option.isNone_some,
    Bool.or_false, Bool.and_eq_true, Option.isNone_iff_eq_none, List.isEmpty_iff,
    decide_eq_true_eq] at idle
  obtain ⟨⟨unheld, empty⟩, intercepted⟩ := idle
  refine ⟨intercepted, fun call holds => ?_, fun outgoing waits => ?_⟩
  · rw [unheld] at holds
    cases holds
  · rw [empty] at waits
    cases waits

/-- After a resolution, the answer of the terminal is refused. -/
theorem resolved_request_silent :
    ∃ gateway, (gatewaySystem observedConfig).ReachableVia Gateway.ResolvesIdle gateway ∧
      .refused ⟨0, .str "a", [("result", .null)]⟩ ∈ gateway.history ∧
      SilentOnceResolved gateway.history := by
  have reached : ∃ gateway,
      (gatewaySystem observedConfig).ReachableVia Gateway.ResolvesIdle gateway ∧
        .refused ⟨0, .str "a", [("result", .null)]⟩ ∈ gateway.history :=
    gateway_of_scenario resolvesIdly
      [.upstream (requestFrame (.str "a") "item/commandExecution/requestApproval" []) none,
        .upstream (notificationFrame "serverRequest/resolved" [("requestId", .str "a")]) none,
        .upstreamObserved, .respond (.str "a") .null none]
      resolvesIdle_of_resolvesIdly (by decide)
  obtain ⟨gateway, reachable, refused⟩ := reached
  exact ⟨gateway, reachable, refused, silent_once_resolved reachable⟩

/-- The callback of a request is sending a refusal when the upstream resolves the
request; its cancellation takes the mark away, and the error that the terminal
answers is handed over. -/
theorem cancelled_refusal_reopens :
    ∃ gateway, (gatewaySystem observedConfig).Reachable gateway ∧
      ¬ SilentOnceResolved gateway.history := by
  have reached : ∃ gateway, (gatewaySystem observedConfig).Reachable gateway ∧
      (gateway.history.take 12)[6]? = some (.resolved (.str "a")) ∧
      (∀ action ∈ (gateway.history.take 12).drop 7, ¬ action.Intercepts (.str "a")) ∧
      gateway.history[12]? = some (.handed (.response ⟨1, .str "a", [("error", .obj [])]⟩)) :=
    gateway_of_scenario (fun _ _ => true)
      [.upstream (requestFrame (.str "a") "item/commandExecution/requestApproval" []) none,
        .connect, .taken, .terminalSent, .startCallback 0,
        .respond (.str "a") .null (some [("code", .int (-32602))]),
        .upstream (notificationFrame "serverRequest/resolved" [("requestId", .str "a")]) none,
        .sendEnded false, .finishCallback 0,
        .terminal (frameOf [("id", .str "a"), ("error", .obj [])]),
        .respond (.str "a") .null (some [])]
      (fun _ _ _ => trivial) (by decide)
  obtain ⟨gateway, reachable, resolved, unrenewed, handed⟩ := reached
  refine ⟨gateway, reachable, fun silent => ?_⟩
  exact silent.at handed (.str "a") rfl ⟨_, since_of_getElem? resolved rfl, unrenewed⟩

end Scenarios

end LarkBot
