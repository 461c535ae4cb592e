import LarkBot.Codex.Gateway.Arbitration

/-! # Traffic beside the answers

Answers run beside the traffic that the gateway forwards: whoever takes a lock,
sends or raises leaves the queue of the terminal, the reader, the recorded
requests, the active turns and the callback tasks alone, and nothing happens to
a callback meanwhile.
-/

namespace LarkBot

open Foundation

/-- Something happened to a callback task. -/
def GatewayAction.isCallback : GatewayAction → Bool
  | .created _ _ | .offered _ _ | .skipped _ _ | .dropped _ _ => true
  | _ => false

/-- What happened to the callback tasks, in order. -/
def Gateway.callbackHistory (gateway : Gateway) : List GatewayAction :=
  gateway.history.filter GatewayAction.isCallback

/-- What is about no callback leaves the history of the callbacks. -/
theorem Gateway.callbackHistory_record {gateway : Gateway} {action : GatewayAction}
    (other : action.isCallback = false) :
    (gateway.record action).callbackHistory = gateway.callbackHistory := by
  unfold Gateway.callbackHistory Gateway.record
  rw [List.filter_append, List.filter_cons_of_neg (by rw [other]; exact Bool.false_ne_true),
    List.filter_nil, List.append_nil]

/-- The part of a gateway that answers do not touch. -/
structure SameTraffic (before after : Gateway) : Prop where
  terminalRequests : after.terminalRequests = before.terminalRequests
  activeTurns : after.activeTurns = before.activeTurns
  callbackTasks : after.callbackTasks = before.callbackTasks
  callbackTasksByRequest : after.callbackTasksByRequest = before.callbackTasksByRequest
  toTerminal : after.toTerminal = before.toTerminal
  reader : after.reader = before.reader
  clients : after.clients = before.clients
  nextTask : after.nextTask = before.nextTask
  callbacks : after.callbackHistory = before.callbackHistory

/-- The events of the terminal connection and of the answers that forward nothing. -/
def GatewayEvent.LeavesTraffic : GatewayEvent → Prop
  | .terminalObserved | .terminalHandled | .terminalEnded | .terminalLeft | .terminalSent
  | .senderStopped | .respond _ _ _ | .grantResponse | .grantSend | .sendEnded _
  | .interrupt _ => True
  | _ => False

namespace SameTraffic

variable {config : GatewayConfig} {gateway next before middle after : Gateway}

/-- A gateway has the same traffic as itself. -/
theorem refl : SameTraffic gateway gateway := ⟨rfl, rfl, rfl, rfl, rfl, rfl, rfl, rfl, rfl⟩

/-- The same, and something happened that is about no callback. -/
theorem record {action : GatewayAction} (same : SameTraffic before after)
    (other : action.isCallback = false) : SameTraffic before (after.record action) where
  terminalRequests := same.terminalRequests
  activeTurns := same.activeTurns
  callbackTasks := same.callbackTasks
  callbackTasksByRequest := same.callbackTasksByRequest
  toTerminal := same.toTerminal
  reader := same.reader
  clients := same.clients
  nextTask := same.nextTask
  callbacks := (Gateway.callbackHistory_record other).trans same.callbacks

/-- The same traffic over two steps is the same over both. -/
theorem trans (first : SameTraffic before middle) (second : SameTraffic middle after) :
    SameTraffic before after where
  terminalRequests := second.terminalRequests.trans first.terminalRequests
  activeTurns := second.activeTurns.trans first.activeTurns
  callbackTasks := second.callbackTasks.trans first.callbackTasks
  callbackTasksByRequest := second.callbackTasksByRequest.trans first.callbackTasksByRequest
  toTerminal := second.toTerminal.trans first.toTerminal
  reader := second.reader.trans first.reader
  clients := second.clients.trans first.clients
  nextTask := second.nextTask.trans first.nextTask
  callbacks := second.callbacks.trans first.callbacks

/-- Handing a message to the upstream touches none of the traffic of the terminal. -/
theorem hand (outgoing : Outgoing) : SameTraffic gateway (gateway.hand outgoing) :=
  record ⟨rfl, rfl, rfl, rfl, rfl, rfl, rfl, rfl, rfl⟩ rfl

/-- A send takes the send lock or waits for it, and touches none of the traffic of the
terminal. -/
theorem sendUpstream (outgoing : Outgoing) :
    SameTraffic gateway (gateway.sendUpstream outgoing) := by
  have unchanged : SameTraffic gateway { gateway with
      upstreamSendLock := gateway.upstreamSendLock.enter outgoing } :=
    ⟨rfl, rfl, rfl, rfl, rfl, rfl, rfl, rfl, rfl⟩
  unfold Gateway.sendUpstream
  dsimp only
  split
  next => exact trans unchanged (hand outgoing)
  next => exact unchanged

/-- An answer under the response lock touches none of the traffic of the terminal. -/
theorem respondWithPayload (call : RespondCall) :
    SameTraffic gateway (gateway.respondWithPayload call) := by
  unfold Gateway.respondWithPayload
  split
  next => exact record ⟨rfl, rfl, rfl, rfl, rfl, rfl, rfl, rfl, rfl⟩ rfl
  next =>
    refine trans (record ?_ rfl) (sendUpstream (.response call))
    exact ⟨rfl, rfl, rfl, rfl, rfl, rfl, rfl, rfl, rfl⟩

/-- An answer of the Lark side touches none of the traffic of the terminal, whether it
goes on or waits. -/
theorem respondUpstream (requestId : RequestId) (result : Json) (error : Option JsonObject) :
    SameTraffic gateway (gateway.respondUpstream requestId result error) := by
  unfold Gateway.respondUpstream
  dsimp only
  split
  next =>
    refine trans ?_ (respondWithPayload _)
    exact ⟨rfl, rfl, rfl, rfl, rfl, rfl, rfl, rfl, rfl⟩
  next => exact ⟨rfl, rfl, rfl, rfl, rfl, rfl, rfl, rfl, rfl⟩

/-- A send that returned touches none of the traffic of the terminal. -/
theorem sendReturned (outgoing : Outgoing) :
    SameTraffic gateway (gateway.sendReturned outgoing) := by
  have sent : SameTraffic gateway ({ gateway with
      upstreamSendLock := gateway.upstreamSendLock.release }.record (.delivered outgoing)) :=
    record ⟨rfl, rfl, rfl, rfl, rfl, rfl, rfl, rfl, rfl⟩ rfl
  cases outgoing with
  | raw => exact trans sent ⟨rfl, rfl, rfl, rfl, rfl, rfl, rfl, rfl, rfl⟩
  | response call => exact trans sent (record ⟨rfl, rfl, rfl, rfl, rfl, rfl, rfl, rfl, rfl⟩ rfl)

/-- The call whose send raised gives up its request and its lock. -/
theorem respondRaised (call : RespondCall) : SameTraffic gateway (gateway.respondRaised call) :=
  record ⟨rfl, rfl, rfl, rfl, rfl, rfl, rfl, rfl, rfl⟩ rfl

/-- A send that raised touches none of the traffic of the terminal. -/
theorem sendRaised (outgoing : Outgoing) : SameTraffic gateway (gateway.sendRaised outgoing) := by
  have failed : SameTraffic gateway ({ gateway with
      upstreamSendLock := gateway.upstreamSendLock.release }.record (.failed outgoing)) :=
    record ⟨rfl, rfl, rfl, rfl, rfl, rfl, rfl, rfl, rfl⟩ rfl
  cases outgoing with
  | raw => exact trans failed ⟨rfl, rfl, rfl, rfl, rfl, rfl, rfl, rfl, rfl⟩
  | response call => exact trans failed (respondRaised call)

/-- A call that is cancelled touches none of the traffic of the terminal. -/
theorem interruptCall {call : RespondCall}
    (interrupted : gateway.interruptCall call = some next) : SameTraffic gateway next := by
  unfold Gateway.interruptCall at interrupted
  split at interrupted
  next =>
    cases interrupted
    exact record ⟨rfl, rfl, rfl, rfl, rfl, rfl, rfl, rfl, rfl⟩ rfl
  next =>
    split at interrupted <;> cases interrupted
    refine trans ?_ (respondRaised call)
    exact ⟨rfl, rfl, rfl, rfl, rfl, rfl, rfl, rfl, rfl⟩

/-- Forwarding a message of the terminal touches none of the traffic towards it. -/
theorem forwardTerminal (terminal : Terminal) (message : JsonObject) (rawMessage : String) :
    SameTraffic gateway (gateway.forwardTerminal terminal message rawMessage) := by
  unfold Gateway.forwardTerminal
  split
  next =>
    refine trans ?_ (sendUpstream _)
    exact ⟨rfl, rfl, rfl, rfl, rfl, rfl, rfl, rfl, rfl⟩
  next => exact record ⟨rfl, rfl, rfl, rfl, rfl, rfl, rfl, rfl, rfl⟩ rfl

/-- A message of the terminal is recorded, and forwarded beside the traffic. -/
theorem handleTerminalMessage (terminal : Terminal) (message : JsonObject) (rawMessage : String) :
    ∃ requests, SameTraffic { gateway with terminalRequests := requests }
      (gateway.handleTerminalMessage config terminal message rawMessage) := by
  unfold Gateway.handleTerminalMessage
  split
  next outgoingId method _ _ =>
    refine ⟨gateway.terminalRequests.set outgoingId
      ⟨terminal.client, method, (messageParams message).getD []⟩, ?_⟩
    dsimp only
    split
    next => exact record ⟨rfl, rfl, rfl, rfl, rfl, rfl, rfl, rfl, rfl⟩ rfl
    next => exact forwardTerminal terminal message rawMessage
  next => exact ⟨gateway.terminalRequests, forwardTerminal terminal message rawMessage⟩

/-- A terminal that ends touches nothing of what the upstream has sent. -/
theorem terminalEnds : SameTraffic gateway gateway.terminalEnds :=
  ⟨rfl, rfl, rfl, rfl, rfl, rfl, rfl, rfl, rfl⟩

/-- An event that forwards nothing leaves the traffic alone. -/
theorem step {event : GatewayEvent} (stepped : gateway.step config event = some next)
    (leaves : event.LeavesTraffic) : SameTraffic gateway next := by
  cases event with
  | terminalObserved =>
      obtain ⟨terminal, _, stepped⟩ := Option.bind_eq_some_iff.mp stepped
      split at stepped <;> cases stepped
      exact forwardTerminal _ _ _
  | terminalHandled | terminalLeft | terminalSent | senderStopped =>
      obtain ⟨terminal, _, stepped⟩ := Option.bind_eq_some_iff.mp stepped
      split at stepped <;> cases stepped
      exact ⟨rfl, rfl, rfl, rfl, rfl, rfl, rfl, rfl, rfl⟩
  | terminalEnded =>
      obtain ⟨terminal, _, stepped⟩ := Option.bind_eq_some_iff.mp stepped
      split at stepped <;> cases stepped <;> exact terminalEnds
  | respond requestId result error =>
      cases stepped
      exact respondUpstream requestId result error
  | grantResponse =>
      simp only [Gateway.step] at stepped
      split at stepped <;> cases stepped
      refine trans ?_ (respondWithPayload _)
      exact ⟨rfl, rfl, rfl, rfl, rfl, rfl, rfl, rfl, rfl⟩
  | grantSend =>
      simp only [Gateway.step] at stepped
      split at stepped <;> cases stepped
      refine trans ?_ (hand _)
      exact ⟨rfl, rfl, rfl, rfl, rfl, rfl, rfl, rfl, rfl⟩
  | sendEnded delivers =>
      simp only [Gateway.step] at stepped
      split at stepped <;> cases stepped
      cases delivers
      · exact sendRaised _
      · exact sendReturned _
  | interrupt call => exact interruptCall stepped
  | _ => exact leaves.elim

end SameTraffic

end LarkBot
