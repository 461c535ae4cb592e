import LarkBot.Codex.Gateway.Intake
import LarkBot.Codex.Interactive.Manager

/-! # The orchestrator and the gateways, side by side

Every event of the interactive manager is a short run of its parts: of the orchestrator
and of the gateways, one step of one part after the other. `ManagerEvent.Causes` lists
the steps that an event brings about, and `LarkBot.InteractiveManager.step_moves` shows
that there are no others, so that invariants are proved part by part.
-/

namespace LarkBot

open Foundation

structure Parts where
  runtime : Runtime
  gateways : Dict String Gateway

def InteractiveManager.parts (manager : InteractiveManager) : Parts :=
  ⟨manager.runtime, manager.gateways⟩

/-- A step of one part, or the creation of a session with its gateway. -/
inductive PartStep where
  | create (name cwd : String) (model : Option String) (sandbox : String)
  | runtime (event : Event)
  | gateway (sessionId : String) (event : GatewayEvent)

inductive Parts.Moves (environment : Environment) (parts : Parts) : PartStep → Parts → Prop
  | create (name cwd : String) (model : Option String) (sandbox : String) (next : Runtime) :
      parts.runtime.step environment (.call (.createInteractiveSession name cwd model sandbox)) =
        some next →
      Moves environment parts (.create name cwd model sandbox)
        ⟨next, InteractiveManager.openGateway next parts.gateways⟩
  | runtime (event : Event) (next : Runtime) :
      parts.runtime.step environment event = some next →
      Moves environment parts (.runtime event) ⟨next, parts.gateways⟩
  | gateway (sessionId : String) (event : GatewayEvent) (gateway next : Gateway) :
      parts.gateways.get? sessionId = some gateway →
      gateway.step managerConfig event = some next →
      Moves environment parts (.gateway sessionId event)
        ⟨parts.runtime, parts.gateways.set sessionId next⟩

/-- The parts as a transition system. -/
def partsSystem (environment : Environment) : System Parts PartStep where
  initial parts := ∃ store, parts =
    (InteractiveManager.fresh (Runtime.idle (start environment (.fresh store)).1)).parts
  step before move after := before.Moves environment move after

/-- The events by which the manager goes on with a gateway: a callback returned, or an
answer is given. -/
def GatewayEvent.GoesOn : GatewayEvent → Prop
  | .upstreamObserved | .terminalObserved | .terminalHandled | .terminalEnded
  | .finishCallback _ | .respond _ _ _ => True
  | _ => False

/-- A message of the upstream arrives. -/
def ManagerEvent.isArrival : ManagerEvent → Bool
  | .gateway _ (.upstream _ _) _ => true
  | _ => false

/-- The steps that an event brings about, each with the parts that it finds. -/
inductive ManagerEvent.Causes (manager : InteractiveManager) :
    ManagerEvent → Parts → PartStep → Prop
  | create (name cwd : String) (model : Option String) (sandbox : String) :
      Causes manager (.createSession name cwd model sandbox) manager.parts
        (.create name cwd model sandbox)
  | call (call : ApiCall) : call.isManagers = false →
      Causes manager (.call call) manager.parts (.runtime (.call call))
  | reply (task : Nat) (reply : Reply) :
      Causes manager (.reply task reply) manager.parts (.runtime (.reply task reply))
  | proceed : Causes manager .proceed manager.parts (.runtime .proceed)
  | gateway (sessionId : String) (event : GatewayEvent) (error : PyError) :
      Causes manager (.gateway sessionId event error) manager.parts (.gateway sessionId event)
  | notify {sessionId : String} {rawMessage : RawMessage} {answers : Option Nat} {error : PyError}
      (message : JsonObject) (notification : ServerNotification) (parts : Parts) :
      parts.runtime = manager.runtime → parseMessage rawMessage = some message →
      observedNotification message = some notification →
      Causes manager (.gateway sessionId (.upstream rawMessage answers) error) parts
        (.runtime (.call (.processNotification notification)))
  | bind {sessionId : String} {rawMessage : RawMessage} {answers : Option Nat} {error : PyError}
      (message : JsonObject) (responseId : RequestId) (threadId : String) (gateway : Gateway)
      (request : TerminalRequest) (parts : Parts) :
      parts.runtime = manager.runtime → parseMessage rawMessage = some message →
      responseIdOf message = some responseId → manager.gateways.get? sessionId = some gateway →
      gateway.terminalRequests.get? responseId = some request →
      reportedThread request (responsePayload message) = some threadId →
      Causes manager (.gateway sessionId (.upstream rawMessage answers) error) parts
        (.runtime (.call (.bindInteractiveThread sessionId threadId none)))
  | offer {sessionId : String} {callback : Nat} {error : PyError} (gateway : Gateway)
      (request : ServerRequest) (parts : Parts) :
      parts.runtime = manager.runtime → manager.gateways.get? sessionId = some gateway →
      gateway.callbackTasks.get? callback = some ⟨request, false, false⟩ →
      Causes manager (.gateway sessionId (.startCallback callback) error) parts
        (.runtime (.call (.processServerRequest request sessionId)))
  | resolve {sessionId : String} {rawMessage : RawMessage} {error : PyError}
      (requestId : RequestId) (result : Json) (parts : Parts) :
      Causes manager (.gateway sessionId (.terminal rawMessage) error) parts
        (.runtime (.call (.resolveTerminalRequest requestId result)))
  /-- A handler that awaited `respond_upstream` goes on. -/
  | resume {event : ManagerEvent} (parts : Parts) (task : Nat) (reply : Reply) :
      event.isArrival = false → Causes manager event parts (.runtime (.reply task reply))
  | goOn {event : ManagerEvent} (parts : Parts) (sessionId : String) (next : GatewayEvent) :
      next.GoesOn → Causes manager event parts (.gateway sessionId next)

namespace InteractiveManager

section Steps

variable {environment : Environment} {guard : Parts → PartStep → Prop} {start : Parts}
  {manager next : InteractiveManager}

/-- The parts of the manager were reached by steps that all meet the guard. -/
def ReachedBy (environment : Environment) (guard : Parts → PartStep → Prop) (start : Parts)
    (manager : InteractiveManager) : Prop :=
  (partsSystem environment).ReachesVia guard start manager.parts

/-- A step of a gateway is a step of the parts, and leaves the orchestrator. -/
theorem stepGateway_moves {sessionId : String} {event : GatewayEvent}
    (reached : manager.ReachedBy environment guard start)
    (allowed : guard manager.parts (.gateway sessionId event))
    (stepped : manager.stepGateway sessionId event = some next) :
    next.ReachedBy environment guard start ∧ next.runtime = manager.runtime := by
  unfold stepGateway at stepped
  split at stepped
  next gateway found =>
    obtain ⟨after, advanced, rfl⟩ := Option.map_eq_some_iff.mp stepped
    exact ⟨.step _ reached allowed (.gateway sessionId event gateway after found advanced), rfl⟩
  next => cases stepped

/-- A step of the orchestrator is a step of the parts. -/
theorem stepRuntime_moves {event : Event} (reached : manager.ReachedBy environment guard start)
    (allowed : guard manager.parts (.runtime event))
    (stepped : manager.stepRuntime environment event = some next) :
    next.ReachedBy environment guard start := by
  obtain ⟨after, advanced, rfl⟩ := Option.map_eq_some_iff.mp stepped
  exact .step _ reached allowed (.runtime event after advanced)

/-- The guard lets the gateways go on. -/
def LetsGoOn (guard : Parts → PartStep → Prop) : Prop :=
  ∀ parts sessionId event, event.GoesOn → guard parts (.gateway sessionId event)

/-- The guard lets handlers go on. -/
def LetsResume (guard : Parts → PartStep → Prop) : Prop :=
  ∀ parts task reply, guard parts (.runtime (.reply task reply))

/-- The terminal of a gateway goes on by a step that lets gateways go on. -/
theorem terminalGoesOn_moves {sessionId : String} {raised : Option PyError}
    (goesOn : LetsGoOn guard) (reached : manager.ReachedBy environment guard start)
    (stepped : manager.terminalGoesOn sessionId raised = some next) :
    next.ReachedBy environment guard start := by
  unfold terminalGoesOn at stepped
  refine (stepGateway_moves reached ?_ stepped).1
  split
  · exact goesOn _ _ _ trivial
  · exact goesOn _ _ _ trivial

/-- Whoever called the orchestrator goes on once the call has ended. -/
theorem callerGoesOn_moves {task : Nat} (goesOn : LetsGoOn guard)
    (reached : manager.ReachedBy environment guard start)
    (stepped : manager.callerGoesOn task = some next) :
    next.ReachedBy environment guard start := by
  unfold callerGoesOn at stepped
  split at stepped
  next outcome caller _ _ =>
    have left : ({ manager with callers := manager.callers.pop task } :
        InteractiveManager).ReachedBy environment guard start := reached
    dsimp only at stepped
    split at stepped
    next sessionId callback _ =>
        exact (stepGateway_moves left (goesOn _ _ (.finishCallback callback) trivial) stepped).1
    next => exact terminalGoesOn_moves goesOn left stepped
  next =>
    cases stepped
    exact reached

/-- When an answer of a gateway has ended, the handler that awaited it goes on, and then
its caller. -/
theorem callEnded_moves {sessionId : String} {number : Nat} {reply : Reply}
    (goesOn : LetsGoOn guard) (resumes : LetsResume guard)
    (reached : manager.ReachedBy environment guard start)
    (stepped : manager.callEnded environment sessionId number reply = some next) :
    next.ReachedBy environment guard start := by
  unfold callEnded at stepped
  split at stepped
  next =>
    cases stepped
    exact reached
  next answerer _ =>
    have left : ({ manager with answerers := manager.answerers.pop (sessionId, number) } :
        InteractiveManager).ReachedBy environment guard start := reached
    dsimp only at stepped
    split at stepped
    next task =>
      obtain ⟨resumed, advanced, gone⟩ := Option.bind_eq_some_iff.mp stepped
      exact callerGoesOn_moves goesOn (stepRuntime_moves left (resumes _ _ _) advanced) gone
    next => exact terminalGoesOn_moves goesOn left stepped

/-- A handler that answers through a gateway hands the answer over, or goes on at once
when the answer was refused. -/
theorem respond_moves {sessionId : String} {requestId : RequestId} {result : Json}
    {error : Option JsonObject} {answerer : Answerer} (goesOn : LetsGoOn guard)
    (resumes : LetsResume guard) (reached : manager.ReachedBy environment guard start)
    (stepped : manager.respond environment sessionId requestId result error answerer =
      some next) : next.ReachedBy environment guard start := by
  unfold respond at stepped
  split at stepped
  next => cases stepped
  next gateway found =>
    have called : ({ manager with
        gateways := manager.gateways.set sessionId (gateway.respondUpstream requestId result error)
        answerers := manager.answerers.set (sessionId, gateway.nextCall) answerer } :
        InteractiveManager).ReachedBy environment guard start :=
      .step (.gateway sessionId (.respond requestId result error)) reached (goesOn _ _ _ trivial)
        (.gateway sessionId (.respond requestId result error) gateway _ found rfl)
    dsimp only at stepped
    split at stepped
    next => exact callEnded_moves goesOn resumes called stepped
    next =>
      cases stepped
      exact called

/-- What a handler awaits is carried out as far as the gateways have it to do. -/
theorem follow_moves {task : Nat} (goesOn : LetsGoOn guard) (resumes : LetsResume guard)
    (reached : manager.ReachedBy environment guard start)
    (stepped : manager.follow environment task = some next) :
    next.ReachedBy environment guard start := by
  unfold follow at stepped
  split at stepped
  next => exact respond_moves goesOn resumes reached stepped
  next => exact callerGoesOn_moves goesOn reached stepped

/-- A call of the orchestrator is one step of it, and what it awaits is carried out. -/
theorem callHandler_moves {call : ApiCall} (goesOn : LetsGoOn guard) (resumes : LetsResume guard)
    (reached : manager.ReachedBy environment guard start)
    (allowed : guard manager.parts (.runtime (.call call)))
    (stepped : manager.callHandler environment call = some next) :
    next.ReachedBy environment guard start := by
  obtain ⟨called, advanced, followed⟩ := Option.bind_eq_some_iff.mp stepped
  exact follow_moves goesOn resumes (stepRuntime_moves reached allowed advanced) followed

end Steps

end InteractiveManager

namespace Gateway

variable {config : GatewayConfig} {gateway next : Gateway} {message observed : JsonObject}
  {forward held : TerminalMessage}

/-- A message on its way to the terminal is observed no more. -/
theorem putToTerminal_reader :
    (gateway.putToTerminal config message forward).reader ≠ .observing observed held := by
  unfold putToTerminal
  split
  next =>
    unfold enqueue
    rw [noteTurnCompleted_reader, createCallback_reader]
    exact Reader.noConfusion
  next => exact Reader.noConfusion

/-- The message that a gateway observes is the one that just arrived. -/
theorem observing_of_upstream {rawMessage : RawMessage} {answers : Option Nat}
    (stepped : gateway.step config (.upstream rawMessage answers) = some next)
    (observing : next.reader = .observing message forward) :
    parseMessage rawMessage = some message := by
  simp only [step] at stepped
  split at stepped
  next =>
    split at stepped
    next =>
      cases stepped
      cases observing
    next arrived parsed =>
      split at stepped <;> cases stepped
      unfold handleUpstreamMessage observeUpstream at observing
      dsimp only at observing
      split at observing
      next =>
        split at observing
        next =>
          split at observing
          next =>
            cases observing
            exact parsed
          next => exact absurd observing putToTerminal_reader
        next => exact absurd observing putToTerminal_reader
      next =>
        split at observing
        next =>
          split at observing
          next =>
            cases observing
            exact parsed
          next => exact absurd observing putToTerminal_reader
        next => exact absurd observing putToTerminal_reader
  next => cases stepped

/-- A callback that runs was waiting to be started. -/
theorem waiting_of_started {callback : Nat} {request : ServerRequest} {cancelled : Bool}
    (stepped : gateway.step config (.startCallback callback) = some next)
    (runs : next.callbackTasks.get? callback = some ⟨request, true, cancelled⟩) :
    gateway.callbackTasks.get? callback = some ⟨request, false, false⟩ := by
  have gone : (gateway.callbackTasks.pop callback).get? callback ≠
      some ⟨request, true, cancelled⟩ := by
    intro kept
    exact (Dict.mem_pop.mp (Dict.get?_eq_some.mp kept)).2 rfl
  simp only [step] at stepped
  split at stepped
  next waits found =>
    split at stepped
    next =>
      cases stepped
      exact absurd runs gone
    next uncancelled =>
      split at stepped
      next =>
        cases stepped
        exact absurd runs gone
      next =>
        cases stepped
        rcases Dict.mem_set.mp (Dict.get?_eq_some.mp runs) with same | ⟨_, other⟩
        · cases same
          rw [found, Bool.not_eq_true _ |>.mp uncancelled]
        · exact absurd rfl other
  next => cases stepped

end Gateway

namespace InteractiveManager

section Events

variable {environment : Environment} {source : Parts} {start manager next : InteractiveManager}
  {event : ManagerEvent}

/-- The manager was reached by steps that the event causes. -/
def ReachedIn (environment : Environment) (source : Parts) (manager start : InteractiveManager)
    (event : ManagerEvent) : Prop :=
  manager.ReachedBy environment (event.Causes start) source

/-- Every event of the manager lets the gateways go on. -/
theorem letsGoOn : LetsGoOn (event.Causes start) := fun parts sessionId next goesOn =>
  .goOn parts sessionId next goesOn

/-- A message of the upstream is taken to the handlers that it concerns, after the
gateway has taken it. -/
theorem onUpstream_moves {sessionId : String} {rawMessage : RawMessage} {answers : Option Nat}
    {error : PyError} {gateway : Gateway} {message : JsonObject}
    (parsed : parseMessage rawMessage = some message) (same : manager.runtime = start.runtime)
    (found : start.gateways.get? sessionId = some gateway)
    (reached : manager.ReachedIn environment source start
      (.gateway sessionId (.upstream rawMessage answers) error))
    (stepped : manager.onUpstream environment sessionId gateway.terminalRequests message =
      some next) :
    next.ReachedIn environment source start (.gateway sessionId (.upstream rawMessage answers)
      error) := by
  unfold onUpstream at stepped
  split at stepped
  next responseId responds =>
    split at stepped
    next threadId reports =>
      obtain ⟨request, recorded, reports⟩ := Option.bind_eq_some_iff.mp reports
      exact stepRuntime_moves reached (.bind message responseId threadId gateway request _ same
        parsed responds found recorded reports) stepped
    next =>
      cases stepped
      exact reached
  next =>
    split at stepped
    next notification notifies =>
      exact stepRuntime_moves reached (.notify message notification _ same parsed notifies) stepped
    next =>
      cases stepped
      exact reached

/-- What the callbacks of a gateway do is caused by its event. -/
theorem callBack_moves {sessionId : String} {event : GatewayEvent} {error : PyError}
    {gateway after : Gateway} (found : start.gateways.get? sessionId = some gateway)
    (advanced : gateway.step managerConfig event = some after)
    (same : manager.runtime = start.runtime)
    (reached : manager.ReachedIn environment source start (.gateway sessionId event error))
    (stepped : manager.callBack environment sessionId gateway after error event = some next) :
    next.ReachedIn environment source start (.gateway sessionId event error) := by
  have resumes (elsewhere : (ManagerEvent.gateway sessionId event error).isArrival = false) :
      LetsResume ((ManagerEvent.gateway sessionId event error).Causes start) :=
    fun parts task reply => .resume parts task reply elsewhere
  cases event with
  | upstream rawMessage answers =>
      simp only [callBack] at stepped
      split at stepped
      next message forward observing =>
        obtain ⟨called, handled, gone⟩ := Option.bind_eq_some_iff.mp stepped
        have parsed := Gateway.observing_of_upstream advanced observing
        have moved := onUpstream_moves parsed same found reached handled
        exact (stepGateway_moves moved (letsGoOn _ _ .upstreamObserved trivial) gone).1
      next =>
        cases stepped
        exact reached
  | terminal rawMessage =>
      simp only [callBack] at stepped
      split at stepped
      next => exact (stepGateway_moves reached (letsGoOn _ _ .terminalObserved trivial) stepped).1
      next message _ parsed =>
        split at stepped
        next requestId responds =>
          unfold onTerminalResponse at stepped
          split at stepped
          next result _ =>
            have called : ({ manager with
                callers := manager.callers.set manager.runtime.nextTask (.terminal sessionId) } :
                InteractiveManager).ReachedIn environment source start
                  (.gateway sessionId (.terminal rawMessage) error) := reached
            exact callHandler_moves letsGoOn (resumes rfl) called (.resolve requestId result _)
              stepped
          next => exact respond_moves letsGoOn (resumes rfl) reached stepped
        next =>
          cases stepped
          exact reached
      next =>
        cases stepped
        exact reached
  | startCallback callback =>
      simp only [callBack] at stepped
      split at stepped
      next request cancelled runs =>
        have waits := Gateway.waiting_of_started advanced runs
        have called : ({ manager with
            callers := manager.callers.set manager.runtime.nextTask
              (.callback sessionId callback) } : InteractiveManager).ReachedIn environment source
                start
              (.gateway sessionId (.startCallback callback) error) := reached
        exact callHandler_moves letsGoOn (resumes rfl) called
          (.offer gateway request _ same found waits) stepped
      next =>
        cases stepped
        exact reached
  | grantResponse =>
      simp only [callBack] at stepped
      split at stepped
      next => exact callEnded_moves letsGoOn (resumes rfl) reached stepped
      next =>
        cases stepped
        exact reached
  | sendEnded delivers =>
      simp only [callBack] at stepped
      split at stepped
      next => exact callEnded_moves letsGoOn (resumes rfl) reached stepped
      next =>
        cases stepped
        exact reached
  | interrupt call =>
      exact callEnded_moves letsGoOn (resumes rfl) reached stepped
  | _ =>
      cases stepped
      exact reached

/-- An event of a gateway is a step of it, and a run by the steps that it causes. -/
theorem step_gateway {sessionId : String} {event : GatewayEvent} {error : PyError}
    (stepped : manager.step environment (.gateway sessionId event error) = some next) :
    ∃ gateway after, manager.gateways.get? sessionId = some gateway ∧
      gateway.step managerConfig event = some after ∧
      (partsSystem environment).ReachesVia
        ((ManagerEvent.gateway sessionId event error).Causes manager)
        ⟨manager.runtime, manager.gateways.set sessionId after⟩ next.parts := by
  simp only [step] at stepped
  split at stepped
  next gateway _ found =>
    split at stepped
    next =>
      obtain ⟨after, advanced, calledBack⟩ := Option.bind_eq_some_iff.mp stepped
      have moved : ({ manager with gateways := manager.gateways.set sessionId after } :
          InteractiveManager).ReachedIn environment
          ⟨manager.runtime, manager.gateways.set sessionId after⟩ manager
          (.gateway sessionId event error) := .refl
      refine ⟨gateway, after, found, advanced, callBack_moves found advanced ?_ moved calledBack⟩
      rfl
    next => cases stepped
  next => cases stepped

/-- Every event is a run of the parts by the steps that it causes. -/
theorem step_moves (stepped : manager.step environment event = some next) :
    (partsSystem environment).ReachesVia (event.Causes manager) manager.parts next.parts := by
  have resumes (elsewhere : event.isArrival = false) : LetsResume (event.Causes manager) :=
    fun parts task reply => .resume parts task reply elsewhere
  cases event with
  | createSession name cwd model sandbox =>
      obtain ⟨created, advanced, rfl⟩ := Option.map_eq_some_iff.mp stepped
      obtain ⟨after, called, rfl⟩ := Option.map_eq_some_iff.mp advanced
      exact .step _ .refl (.create name cwd model sandbox)
        (.create name cwd model sandbox after called)
  | call call =>
      simp only [step] at stepped
      split at stepped
      next => cases stepped
      next outside =>
        exact callHandler_moves letsGoOn (resumes rfl) .refl
          (.call call (Bool.not_eq_true _ |>.mp outside)) stepped
  | reply task reply =>
      simp only [step] at stepped
      split at stepped
      next suspended found =>
        split at stepped
        next => cases stepped
        next =>
          obtain ⟨resumed, advanced, followed⟩ := Option.bind_eq_some_iff.mp stepped
          exact follow_moves letsGoOn (resumes rfl)
            (stepRuntime_moves .refl (.reply task reply) advanced) followed
      next => cases stepped
  | proceed =>
      simp only [step] at stepped
      split at stepped
      next task pass inControl =>
        obtain ⟨resumed, advanced, followed⟩ := Option.bind_eq_some_iff.mp stepped
        exact follow_moves letsGoOn (resumes rfl)
          (stepRuntime_moves .refl .proceed advanced) followed
      next => cases stepped
  | gateway sessionId event error =>
      obtain ⟨gateway, after, found, advanced, moved⟩ := step_gateway stepped
      exact .trans (.step _ .refl (.gateway sessionId event error)
        (.gateway sessionId event gateway after found advanced)) moved

end Events

end InteractiveManager

end LarkBot
