import LarkBot.Codex.Gateway.Answers

/-! # One answer for one request

Once an id was intercepted, at most one response with it is delivered, and it is
that of the call that returned `True`. The gateway looks whether an id was
intercepted before a frame of the terminal waits for the send lock: a response
that waits there while its id is intercepted for the first time is still sent.
-/

namespace LarkBot

open Foundation GatewayAction History

/-- What is to hold of the answers that a gateway sends. -/
structure AnsweredOnce (history : List GatewayAction) : Prop where
  once : ∀ requestId rest, Since (Intercepts requestId) history rest →
    rest.countP (delivers requestId) ≤ 1
  /-- A call returns `True` if and only if its response was delivered. -/
  won_iff : ∀ call, .won call ∈ history ↔ .delivered (.response call) ∈ history
  /-- A call whose send fails raises. -/
  raises : ∀ call, .failed (.response call) ∈ history → .raised call ∈ history
  /-- A call is refused for an id that was never intercepted, or since another
  call took the request, and did not raise, or the upstream resolved it. -/
  unblocked : Throughout (fun before action => ∀ call, action = .refused call →
    (∀ earlier ∈ before, ¬ earlier.Intercepts call.requestId) ∨
      Open (Settles call.requestId) (GivesUp call.requestId) before) history
  /-- No response of the terminal to an intercepted id is forwarded. -/
  arbitrated : Throughout (fun before action => ∀ client message rawMessage requestId,
    action = .handed (.raw client message rawMessage) →
      responseIdOf message = some requestId →
      ∀ earlier ∈ before, ¬ earlier.Intercepts requestId) history

/-- No response of the terminal with the id is on its way to the upstream when
the id is intercepted for the first time. -/
def Gateway.InterceptsQuietly (gateway : Gateway) (event : GatewayEvent) : Prop :=
  ∀ message requestId method, event.upstreamMessage = some message →
    interceptedRequest message = some (requestId, method) → requestId ∉ gateway.interceptedIds →
    ∀ outgoing ∈ gateway.upstreamSendLock.items, outgoing.call? = none →
      outgoing.responseId ≠ some requestId

namespace Arbitration

variable {state after : Arbitration} {move : ArbitrationMove}

/-- A response whose send failed raised in its call. -/
theorem added_raises (moves : state.Moves move after) (call : RespondCall)
    (member : .failed (.response call) ∈ state.added move) : .raised call ∈ state.added move := by
  obtain rfl : move = .lose call := moves.madeBy member
  exact List.mem_cons_of_mem _ List.mem_cons_self

/-- A response that a move delivers is that of the call that held the lock, or is
one of the terminal to an id that was not intercepted. -/
theorem added_delivers {requestId : RequestId} (moves : state.Moves move after)
    (delivered : ∃ action ∈ state.added move, delivers requestId action) :
    (∃ call, move = .win call ∧ call.requestId = requestId) ∨
      ∃ outgoing ∈ state.sends.items, outgoing.call? = none ∧
        outgoing.responseId = some requestId := by
  obtain ⟨action, member, delivers⟩ := delivered
  cases action with
  | delivered outgoing =>
      have responds : outgoing.responseId = some requestId := eq_of_beq delivers
      cases outgoing with
      | response call =>
          exact Or.inl ⟨call, moves.madeBy member, Option.some.inj responds⟩
      | raw client message rawMessage =>
          obtain rfl : move = .deliver client message rawMessage := moves.madeBy member
          cases moves with
          | deliver _ _ _ sending =>
              refine Or.inr ⟨.raw client message rawMessage, ?_, rfl, responds⟩
              rw [FairLock.items_of_holder sending]
              exact List.mem_cons_self
  | _ => cases delivers

/-- The invariant of the runs in which every id is first intercepted quietly. -/
structure Once (state : Arbitration) : Prop where
  consistent : state.Consistent
  answered : AnsweredOnce state.history
  /-- No response of the terminal to an intercepted id is under the send lock. -/
  rawOpen : ∀ outgoing ∈ state.sends.items, outgoing.call? = none →
    ∀ requestId, outgoing.responseId = some requestId → requestId ∉ state.interceptedIds
  /-- An id that was answered is closed. -/
  spent : ∀ requestId rest, Since (Intercepts requestId) state.history rest →
    (∃ action ∈ rest, delivers requestId action) → state.Closed requestId

/-- The same of a move of the arbitration. -/
def InterceptsQuietly (state : Arbitration) (move : ArbitrationMove) : Prop :=
  ∀ request, move = .intercept request → request.requestId ∉ state.interceptedIds →
    ∀ outgoing ∈ state.sends.items, outgoing.call? = none →
      outgoing.responseId ≠ some request.requestId

/-- An id that a request was intercepted with is an intercepted id. -/
theorem Consistent.intercepted_of_since (consistent : state.Consistent) {requestId : RequestId}
    {rest : List GatewayAction} (since : Since (Intercepts requestId) state.history rest) :
    requestId ∈ state.interceptedIds := by
  obtain ⟨action, member, intercepts⟩ := since.marked
  exact (consistent.intercepted requestId).mpr ⟨action, member, intercepts⟩

/-- A move leaves no response of the terminal on its way to a request that is
intercepted. -/
theorem Once.moves_rawOpen (once : state.Once) (moves : state.Moves move after)
    (quiet : state.InterceptsQuietly move) : ∀ outgoing ∈ after.sends.items,
      outgoing.call? = none → ∀ requestId, outgoing.responseId = some requestId →
        requestId ∉ after.interceptedIds := by
  intro outgoing member isRaw requestId responds intercepted
  rcases moves.items member with old | ⟨call, _, rfl⟩ | ⟨client, message, rawMessage, rfl, rfl⟩
  · rcases moves.interceptedIds.mp intercepted with before | ⟨request, rfl, rfl⟩
    · exact once.rawOpen outgoing old isRaw requestId responds before
    · by_cases known : request.requestId ∈ state.interceptedIds
      · exact once.rawOpen outgoing old isRaw _ responds known
      · exact quiet request rfl known outgoing old isRaw responds
  · cases isRaw
  · cases moves with
    | forward _ _ _ isOpen =>
        rw [send_interceptedIds] at intercepted
        exact isOpen requestId responds intercepted

/-- What a move adds since an id was intercepted. -/
theorem Moves.since (moves : state.Moves move after) {requestId : RequestId}
    {rest : List GatewayAction} (since : Since (Intercepts requestId) after.history rest) :
    rest = [] ∨ ∃ shorter, rest = shorter ++ state.added move ∧
      Since (Intercepts requestId) state.history shorter := by
  rw [moves.history] at since
  rcases since_append since with earlier | new
  · exact Or.inr earlier
  · obtain ⟨action, member, intercepts⟩ := new.marked
    cases action with
    | intercepted request =>
        obtain rfl : move = .intercept request := moves.madeBy member
        rw [added, ← List.nil_append [_], since_concat] at new
        rcases new with ⟨empty, _⟩ | ⟨_, _, none⟩
        · exact Or.inl empty
        · exact absurd none not_since_nil
    | _ => exact intercepts.elim

/-- Only the call that holds the lock delivers a response to an intercepted id. -/
theorem Once.delivers (once : state.Once) (moves : state.Moves move after)
    {requestId : RequestId} (intercepted : requestId ∈ state.interceptedIds)
    (delivered : ∃ action ∈ state.added move, delivers requestId action) :
    ∃ call, move = .win call ∧ call.requestId = requestId ∧ state.holder = some call := by
  rcases added_delivers moves delivered with ⟨call, rfl, same⟩ | ⟨outgoing, member, isRaw, responds⟩
  · cases moves with
    | win _ sending => exact ⟨call, rfl, same, once.consistent.holder_of_sending sending⟩
  · exact absurd intercepted (once.rawOpen outgoing member isRaw requestId responds)

/-- A move delivers no second answer to a request since it was intercepted. -/
theorem Once.moves_once (once : state.Once) (moves : state.Moves move after)
    (requestId : RequestId) (rest : List GatewayAction)
    (since : Since (Intercepts requestId) after.history rest) :
    rest.countP (GatewayAction.delivers requestId) ≤ 1 := by
  rcases moves.since since with rfl | ⟨shorter, rfl, earlier⟩
  · exact Nat.zero_le 1
  · rw [List.countP_append]
    by_cases delivered : ∃ action ∈ state.added move, GatewayAction.delivers requestId action
    · obtain ⟨call, rfl, rfl, holds⟩ := once.delivers moves
        (once.consistent.intercepted_of_since earlier) delivered
      have unspent : shorter.countP (GatewayAction.delivers call.requestId) = 0 := by
        apply List.countP_eq_zero.mpr
        intro action member delivers
        exact (once.spent _ shorter earlier ⟨action, member, delivers⟩).2 call holds rfl
      have last : GatewayAction.delivers call.requestId (.won call) = false := rfl
      rw [unspent, added, List.countP_cons, List.countP_cons, List.countP_nil]
      simp only [last, Bool.false_eq_true, ↓reduceIte]
      split <;> omega
    · have nothing : (state.added move).countP (GatewayAction.delivers requestId) = 0 := by
        apply List.countP_eq_zero.mpr
        intro action member delivers
        exact delivered ⟨action, member, delivers⟩
      rw [nothing]
      exact once.answered.once requestId shorter earlier

/-- A request that has been answered since it was intercepted is closed after a move as
well. -/
theorem Once.moves_spent (once : state.Once) (moves : state.Moves move after)
    (requestId : RequestId) (rest : List GatewayAction)
    (since : Since (Intercepts requestId) after.history rest)
    (answered : ∃ action ∈ rest, GatewayAction.delivers requestId action) :
    after.Closed requestId := by
  obtain ⟨action, member, delivers⟩ := answered
  rcases moves.since since with rfl | ⟨shorter, rfl, earlier⟩
  · cases member
  · rcases List.mem_append.mp member with old | new
    · exact (once.spent requestId shorter earlier ⟨action, old, delivers⟩).moves once.consistent
        moves
    · obtain ⟨call, rfl, rfl, holds⟩ := once.delivers moves
        (once.consistent.intercepted_of_since earlier) ⟨action, new, delivers⟩
      cases moves
      exact ⟨(once.consistent.claimed call holds).2, nofun⟩

/-- A refused call lost to a settled answer, or its id was never intercepted. -/
theorem Consistent.refused (consistent : state.Consistent) {call : RespondCall}
    (moves : state.Moves (.refuse call) after) :
    (∀ earlier ∈ state.history, ¬ earlier.Intercepts call.requestId) ∨
      Open (Settles call.requestId) (GivesUp call.requestId) state.history := by
  cases moves with
  | refuse _ _ lost =>
      refine lost.imp (fun fresh => ?_) (consistent.settled call.requestId)
      intro earlier member intercepts
      exact fresh ((consistent.intercepted _).mpr ⟨earlier, member, intercepts⟩)

/-- A response of the terminal is handed on only while its id is not intercepted. -/
theorem Once.handed (once : state.Once) (moves : state.Moves move after) {client : Nat}
    {message : JsonObject} {rawMessage : String} {requestId : RequestId}
    (member : .handed (.raw client message rawMessage) ∈ state.added move)
    (responds : responseIdOf message = some requestId) :
    requestId ∉ state.interceptedIds ∧ (state.added move).length ≤ 1 := by
  rcases moves.madeBy member with rfl | ⟨rfl, waits⟩
  · cases moves with
    | forward _ _ _ isOpen =>
        refine ⟨isOpen requestId responds, ?_⟩
        simp only [added]
        by_cases idle : state.sends.isIdle <;> simp [idle]
  · refine ⟨once.rawOpen _ (FairLock.mem_items_of_waiting waits) rfl requestId responds, ?_⟩
    simp only [added]
    cases state.sends.grant? <;> simp

/-- A move keeps every request answered once at most, and its answer accepted. -/
theorem Once.moves_answered (once : state.Once) (moves : state.Moves move after) :
    AnsweredOnce after.history where
  once := once.moves_once moves
  won_iff call := by
    rw [moves.history, List.mem_append, List.mem_append, once.answered.won_iff,
      added_won_iff moves]
  raises call failed := by
    rw [moves.history] at failed ⊢
    rcases List.mem_append.mp failed with old | new
    · exact List.mem_append_left _ (once.answered.raises call old)
    · exact List.mem_append_right _ (added_raises moves call new)
  unblocked := by
    apply moves.throughout once.answered.unblocked
    rintro before _ rest split call rfl
    have member : .refused call ∈ state.added move :=
      split ▸ List.mem_append_right _ List.mem_cons_self
    obtain rfl : move = .refuse call := moves.madeBy member
    rw [nothing_before split le_rfl, List.append_nil]
    exact once.consistent.refused moves
  arbitrated := by
    apply moves.throughout once.answered.arbitrated
    rintro before _ rest split client message rawMessage requestId rfl responds earlier inside
      intercepts
    have member : .handed (.raw client message rawMessage) ∈ state.added move :=
      split ▸ List.mem_append_right _ List.mem_cons_self
    obtain ⟨isOpen, short⟩ := once.handed moves member responds
    rw [nothing_before split short, List.append_nil] at inside
    exact isOpen ((once.consistent.intercepted requestId).mpr ⟨earlier, inside, intercepts⟩)

/-- A move keeps the invariant as long as it intercepts no request whose answer is on
its way. -/
theorem Once.moves (once : state.Once) (moves : state.Moves move after)
    (quiet : state.InterceptsQuietly move) : after.Once where
  consistent := once.consistent.moves moves
  answered := once.moves_answered moves
  rawOpen := once.moves_rawOpen moves quiet
  spent := once.moves_spent moves

end Arbitration

variable {config : GatewayConfig} {gateway : Gateway}

section Scenarios

end Scenarios

end LarkBot
