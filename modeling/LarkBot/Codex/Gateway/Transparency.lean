import LarkBot.Codex.Gateway.Clients
import LarkBot.Codex.Gateway.Intake

/-! # The gateway as a proxy

Whatever the gateway notes, observes or answers beside it, every frame of the upstream is
put on the queue of the terminal and every frame of the terminal that answers no
intercepted request is sent to the upstream: unmodified, once, and in order
(`LarkBot.gateway_transparent`). At any time each side holds back at most the frame that it
is handling.
-/

namespace LarkBot

open Foundation

/-- What a proxy passes on: the frames for either side so far, and the requests that are
kept for the side channel. -/
structure Relay where
  toTerminal : List String
  toUpstream : List String
  intercepted : Finset RequestId

namespace Relay

def empty : Relay := ⟨[], [], ∅⟩

/-- A frame of the upstream goes to the terminal. -/
def received (relay : Relay) (message : JsonObject) (text : String) : Relay where
  toTerminal := relay.toTerminal ++ [text]
  toUpstream := relay.toUpstream
  intercepted := match interceptedRequest message with
    | some (requestId, _) => insert requestId relay.intercepted
    | none => relay.intercepted

/-- A frame of the terminal goes to the upstream, unless it answers an intercepted request. -/
def sent (relay : Relay) (message : JsonObject) (text : String) : Relay :=
  match (responseIdOf message).filter (· ∈ relay.intercepted) with
  | none => { relay with toUpstream := relay.toUpstream ++ [text] }
  | some _ => relay

/-- The frames after an event of the gateway. -/
def note (relay : Relay) : GatewayEvent → Relay
  | .upstream rawMessage _ => match parseMessage rawMessage with
      | some message => relay.received message rawMessage.text
      | none => relay
  | .terminal rawMessage => match parseMessage rawMessage with
      | some message => relay.sent message rawMessage.text
      | none => relay
  | _ => relay

end Relay

/-- The runs of a gateway, beside what a proxy would pass on. -/
def relayingSystem (config : GatewayConfig) : System (Gateway × Relay) GatewayEvent where
  initial state := state = (.started, .empty)
  step before event after := before.1.step config event = some after.1 ∧
    after.2 = before.2.note event

/-- Frames parse, sends do not fail, and observers return or raise an `Exception`. -/
def WellBehaved (state : Gateway × Relay) : GatewayEvent → Prop
  | .upstream rawMessage _ | .terminal rawMessage => (parseMessage rawMessage).isSome
  | .sendEnded delivers => delivers = true
  | .upstreamEnded => state.1.reader = .reading
  | .terminalEnded => ∀ terminal message rawMessage, state.1.terminal = some terminal →
      terminal.phase ≠ .observing message rawMessage
  | _ => True

/-- The text that a sender took from the queue. -/
def GatewayAction.takenText : GatewayAction → Option String
  | .sent _ message => some message.rawMessage
  | _ => none

/-- The text of a frame of the terminal that the upstream took. -/
def GatewayAction.forwardedText : GatewayAction → Option String
  | .delivered (.raw _ _ rawMessage) => some rawMessage
  | _ => none

def Outgoing.rawText : Outgoing → Option String
  | .raw _ _ rawMessage => some rawMessage
  | .response _ => none

namespace Gateway

/-- The frames that were put on the queue of the terminal. -/
def putFrames (gateway : Gateway) : List String :=
  gateway.history.filterMap GatewayAction.takenText ++
    gateway.toTerminal.map TerminalMessage.rawMessage

/-- The frames of the terminal that were sent to the upstream. -/
def forwardedFrames (gateway : Gateway) : List String :=
  gateway.history.filterMap GatewayAction.forwardedText

/-- The frame that the handler of the terminal is observing. -/
def observedFrame (gateway : Gateway) : List String :=
  match gateway.terminal.map Terminal.phase with
  | some (.observing _ rawMessage) => [rawMessage]
  | _ => []

/-- The frame of the terminal that is being forwarded. -/
def isForwarding (gateway : Gateway) : Bool :=
  gateway.terminal.any fun terminal => terminal.phase = .forwarding

/-- The frames of the terminal that hold, or wait for, the send lock. -/
def sendingFrames (gateway : Gateway) : List String :=
  gateway.upstreamSendLock.items.filterMap Outgoing.rawText

/-- These frames of the terminal were forwarded, or are held back by its handler, which
forwards one frame at a time and observes no response. -/
structure Forwards (gateway : Gateway) (frames : List String) : Prop where
  frames : frames = gateway.forwardedFrames ++ (gateway.sendingFrames ++ gateway.observedFrame)
  inHand : gateway.sendingFrames.length = if gateway.isForwarding then 1 else 0
  observes : ∀ terminal message rawMessage, gateway.terminal = some terminal →
    terminal.phase = .observing message rawMessage → responseIdOf message = none

end Gateway

/-- The gateway passes on what a proxy would. -/
structure Transparent (gateway : Gateway) (relay : Relay) : Prop where
  toTerminal : relay.toTerminal =
    gateway.putFrames ++ (gateway.reader.pending.map TerminalMessage.rawMessage).toList
  toUpstream : gateway.Forwards relay.toUpstream
  intercepted : relay.intercepted = gateway.interceptedIds

namespace Gateway

variable {config : GatewayConfig} {gateway next : Gateway} {event : GatewayEvent}

section ToTerminal

/-- The frames that were put on the queue, and the one that the reader holds. -/
def carried (gateway : Gateway) : List String :=
  gateway.history.filterMap GatewayAction.takenText ++
    gateway.onWay.map TerminalMessage.rawMessage

/-- What a gateway carries is what it has put for the terminal, and the frame that the
reader has. -/
theorem carried_eq : gateway.carried =
    gateway.putFrames ++ (gateway.reader.pending.map TerminalMessage.rawMessage).toList := by
  unfold carried putFrames onWay
  rw [List.map_append, List.append_assoc]
  cases gateway.reader.pending <;> rfl

/-- Only a sender takes a frame from the queue. -/
theorem taken_of_step (stepped : gateway.step config event = some next) (other : event ≠ .taken) :
    next.history.filterMap GatewayAction.takenText =
      gateway.history.filterMap GatewayAction.takenText := by
  refine (step_moves stepped).invariant (fun state =>
    state.history.filterMap GatewayAction.takenText =
      gateway.history.filterMap GatewayAction.takenText) rfl ?_
  intro state move after held performed moves
  cases moves with
  | note action =>
      cases action with
      | sent client message => exact absurd performed.1 other
      | _ => simpa only [Arbitration.record_history, List.filterMap_append, List.filterMap_cons,
          GatewayAction.takenText, List.filterMap_nil, List.append_nil] using held
  | accept call =>
      rw [Arbitration.send_history]
      split <;> simpa only [Arbitration.record_history, List.filterMap_append,
        List.filterMap_cons, GatewayAction.takenText, List.filterMap_nil, List.append_nil]
          using held
  | forward client message rawMessage =>
      rw [Arbitration.send_history]
      split <;> simpa only [List.filterMap_append, List.filterMap_cons, GatewayAction.takenText,
        List.filterMap_nil, List.append_nil] using held
  | _ => simpa only [Arbitration.record_history, List.filterMap_append, List.filterMap_cons,
      GatewayAction.takenText, List.filterMap_nil, List.append_nil] using held

/-- The frame that an event brings from the upstream. -/
def receivedText : GatewayEvent → List String
  | .upstream rawMessage _ => [rawMessage.text]
  | _ => []

/-- An event puts on its way what it brings, and loses nothing. -/
theorem carried_of_step {relay : Relay} (stepped : gateway.step config event = some next)
    (behaved : WellBehaved (gateway, relay) event) :
    next.carried = gateway.carried ++ receivedText event := by
  have same (untaken : event ≠ .taken) (silent : receivedText event = [])
      (onWay : next.onWay = gateway.onWay) : next.carried = gateway.carried ++ receivedText
      event := by
    unfold carried
    rw [silent, List.append_nil, taken_of_step stepped untaken, onWay]
  have traffic (same : SameTraffic gateway next) : next.onWay = gateway.onWay := by
    unfold onWay
    rw [same.toTerminal, same.reader]
  have held {forward : TerminalMessage} (puts : Puts gateway next forward)
      (pending : gateway.reader.pending = some forward) : next.onWay = gateway.onWay := by
    rw [puts.onWay]
    unfold onWay
    rw [pending, Option.toList_some]
  cases event with
  | upstream rawMessage answers =>
      have taken := taken_of_step stepped (fun impossible => by cases impossible)
      obtain ⟨message, parsed⟩ := Option.isSome_iff_exists.mp behaved
      simp only [step, parsed] at stepped
      split at stepped
      next reads =>
        split at stepped <;> cases stepped
        obtain ⟨_, _, puts⟩ := @handleUpstream_puts config gateway message answers
          ⟨rawMessage.text, answers⟩
        unfold carried
        rw [taken, puts.onWay]
        unfold onWay
        rw [reads, Reader.pending, Option.toList_none, List.append_nil, List.map_append,
          List.append_assoc]
        rfl
      next => cases stepped
  | upstreamObserved =>
      refine same (fun impossible => by cases impossible) rfl ?_
      simp only [step] at stepped
      split at stepped
      next reads =>
        cases stepped
        exact held (putToTerminal_puts _ _) (by rw [reads]; rfl)
      next => cases stepped
  | enqueued =>
      refine same (fun impossible => by cases impossible) rfl ?_
      simp only [step] at stepped
      split at stepped
      next reads =>
        split at stepped <;> cases stepped
        exact held (enqueue_puts _ _) (by rw [reads]; rfl)
      next => cases stepped
  | upstreamEnded =>
      have reads : gateway.reader = .reading := behaved
      refine same (fun impossible => by cases impossible) rfl ?_
      simp only [step, reads, Option.some.injEq] at stepped
      subst stepped
      unfold onWay
      rw [reads]
      rfl
  | connect =>
      refine same (fun impossible => by cases impossible) rfl ?_
      simp only [step] at stepped
      split at stepped <;> cases stepped <;> rfl
  | terminal rawMessage =>
      refine same (fun impossible => by cases impossible) rfl ?_
      obtain ⟨terminal, _, stepped⟩ := Option.bind_eq_some_iff.mp stepped
      split at stepped
      next =>
        split at stepped <;> cases stepped
        · rfl
        · obtain ⟨_, same⟩ := SameTraffic.handleTerminalMessage _ _ _
          unfold onWay
          rw [same.toTerminal, same.reader]
      next => cases stepped
  | taken =>
      obtain ⟨terminal, _, stepped⟩ := Option.bind_eq_some_iff.mp stepped
      split at stepped <;> cases stepped
      next first rest _ queue =>
        unfold carried onWay
        simp only [record, queue, List.filterMap_append, List.filterMap_cons,
          GatewayAction.takenText, List.filterMap_nil, List.map_append, List.map_cons, receivedText,
          List.append_nil, List.append_assoc, List.cons_append, List.nil_append]
  | startCallback task =>
      refine same (fun impossible => by cases impossible) rfl ?_
      simp only [step] at stepped
      split at stepped
      next =>
        split at stepped
        next =>
          cases stepped
          rfl
        next => split at stepped <;> cases stepped <;> rfl
      next => cases stepped
  | finishCallback task =>
      refine same (fun impossible => by cases impossible) rfl ?_
      simp only [step] at stepped
      split at stepped <;> cases stepped
      rfl
  | _ =>
      refine same (fun impossible => by cases impossible) rfl ?_
      exact traffic (SameTraffic.step stepped trivial)

end ToTerminal

section ToUpstream

/-- Noting what is no delivery forwards nothing. -/
theorem forwardedFrames_record {action : GatewayAction}
    (undelivered : action.forwardedText = none) :
    (gateway.record action).forwardedFrames = gateway.forwardedFrames := by
  simp only [forwardedFrames, record, List.filterMap_append, List.filterMap_cons, undelivered,
    List.filterMap_nil, List.append_nil]

/-- A send to the upstream puts the terminal's own frame last under the send lock. -/
theorem sendUpstream_frames (outgoing : Outgoing) :
    (gateway.sendUpstream outgoing).forwardedFrames = gateway.forwardedFrames ∧
      (gateway.sendUpstream outgoing).sendingFrames =
        gateway.sendingFrames ++ outgoing.rawText.toList := by
  have entered : (gateway.upstreamSendLock.enter outgoing).items.filterMap Outgoing.rawText =
      gateway.sendingFrames ++ outgoing.rawText.toList := by
    rw [FairLock.items_enter, List.filterMap_append]
    cases outgoing <;> rfl
  unfold sendUpstream
  dsimp only
  split
  next => exact ⟨forwardedFrames_record rfl, entered⟩
  next => exact ⟨rfl, entered⟩

/-- A send to the upstream leaves the handler of the terminal. -/
theorem sendUpstream_terminal (outgoing : Outgoing) :
    (gateway.sendUpstream outgoing).terminal = gateway.terminal := by
  unfold sendUpstream
  dsimp only
  split <;> rfl

/-- An answer under the response lock leaves the handler of the terminal. -/
theorem respondWithPayload_terminal (call : RespondCall) :
    (gateway.respondWithPayload call).terminal = gateway.terminal := by
  unfold respondWithPayload
  split
  next => rfl
  next => exact sendUpstream_terminal (.response call)

/-- An answer of the Lark side leaves the handler of the terminal. -/
theorem respondUpstream_terminal (requestId : RequestId) (result : Json)
    (error : Option JsonObject) :
    (gateway.respondUpstream requestId result error).terminal = gateway.terminal := by
  unfold respondUpstream
  dsimp only
  split
  next => exact respondWithPayload_terminal _
  next => rfl

/-- An answer under the response lock puts no frame of the terminal anywhere. -/
theorem respondWithPayload_frames (call : RespondCall) :
    (gateway.respondWithPayload call).forwardedFrames = gateway.forwardedFrames ∧
      (gateway.respondWithPayload call).sendingFrames = gateway.sendingFrames := by
  unfold respondWithPayload
  split
  next => exact ⟨forwardedFrames_record rfl, rfl⟩
  next =>
    obtain ⟨forwarded, sending⟩ := @sendUpstream_frames ({ gateway with
      respondedIds := insert call.requestId gateway.respondedIds }.record (.accepted call))
      (.response call)
    exact ⟨forwarded.trans (forwardedFrames_record rfl), sending.trans (List.append_nil _)⟩

/-- An answer of the Lark side puts no frame of the terminal anywhere. -/
theorem respondUpstream_frames (requestId : RequestId) (result : Json)
    (error : Option JsonObject) :
    (gateway.respondUpstream requestId result error).forwardedFrames = gateway.forwardedFrames ∧
      (gateway.respondUpstream requestId result error).sendingFrames = gateway.sendingFrames := by
  unfold respondUpstream
  dsimp only
  split
  next => exact respondWithPayload_frames _
  next => exact ⟨rfl, rfl⟩

/-- A frame that was sent is forwarded, and holds the lock no more. -/
theorem sendReturned_frames {outgoing : Outgoing}
    (sending : gateway.upstreamSendLock.holder = some outgoing) :
    (gateway.sendReturned outgoing).forwardedFrames =
        gateway.forwardedFrames ++ outgoing.rawText.toList ∧
      gateway.sendingFrames =
        outgoing.rawText.toList ++ (gateway.sendReturned outgoing).sendingFrames := by
  have released : gateway.sendingFrames = outgoing.rawText.toList ++
      gateway.upstreamSendLock.release.items.filterMap Outgoing.rawText := by
    unfold sendingFrames
    rw [FairLock.items_of_holder sending]
    cases outgoing <;> rfl
  cases outgoing with
  | raw client message rawMessage =>
      refine ⟨?_, released⟩
      simp only [forwardedFrames, sendReturned, record, List.filterMap_append, List.filterMap_cons,
        GatewayAction.forwardedText, List.filterMap_nil, Outgoing.rawText, Option.toList_some]
  | response call =>
      refine ⟨?_, released⟩
      simp only [forwardedFrames, sendReturned, record, List.filterMap_append, List.filterMap_cons,
        GatewayAction.forwardedText, List.filterMap_nil, Outgoing.rawText, Option.toList_none,
        List.append_nil]

/-- A call that leaves a lock takes no frame of the terminal with it. -/
theorem interruptCall_frames {call : RespondCall}
    (interrupted : gateway.interruptCall call = some next) :
    next.forwardedFrames = gateway.forwardedFrames ∧ next.sendingFrames =
      gateway.sendingFrames := by
  unfold interruptCall at interrupted
  split at interrupted
  next =>
    cases interrupted
    exact ⟨forwardedFrames_record rfl, rfl⟩
  next =>
    split at interrupted <;> cases interrupted
    refine ⟨forwardedFrames_record rfl, ?_⟩
    have kept : ((gateway.upstreamSendLock.leave (· == Outgoing.response call)).waiting).filterMap
        Outgoing.rawText = gateway.upstreamSendLock.waiting.filterMap Outgoing.rawText := by
      unfold FairLock.leave
      induction gateway.upstreamSendLock.waiting with
      | nil => rfl
      | cons outgoing rest ih =>
          cases outgoing with
          | raw client message rawMessage =>
              have stays : (Outgoing.raw client message rawMessage == .response call) = false := rfl
              simp only [List.filter_cons, stays, Bool.not_false, ↓reduceIte, List.filterMap_cons,
                Outgoing.rawText, ih]
          | response other =>
              simp only [List.filter_cons, List.filterMap_cons, Outgoing.rawText]
              split
              next => simpa only [List.filterMap_cons, Outgoing.rawText] using ih
              next => exact ih
    have items (lock : FairLock Outgoing) : lock.items.filterMap Outgoing.rawText =
        lock.holder.toList.filterMap Outgoing.rawText ++
          lock.waiting.filterMap Outgoing.rawText := by
      unfold FairLock.items
      rw [List.filterMap_append]
    change (gateway.upstreamSendLock.leave (· == Outgoing.response call)).items.filterMap
      Outgoing.rawText = gateway.upstreamSendLock.items.filterMap Outgoing.rawText
    rw [items, items, kept]
    rfl

/-- A local move that leaves the send lock alone forwards nothing, and intercepts nothing. -/
theorem forwarded_of_localStep {before after : Arbitration} (moved : LocalStep before after)
    (sends : after.sends = before.sends) :
    after.history.filterMap GatewayAction.forwardedText =
      before.history.filterMap GatewayAction.forwardedText := by
  rcases moved with same | ⟨move, _, moves⟩
  · rw [same]
  · cases moves with
    | note action noted =>
        rw [Arbitration.record_history, List.filterMap_append]
        cases action <;> first | exact noted.elim | exact List.append_nil _
    | deliver client message rawMessage sending =>
        have free : before.sends.holder = none := by
          rw [← sends]
          rfl
        rw [free] at sending
        cases sending
    | accept | forward =>
        rw [Arbitration.send_history]
        split <;> simp only [Arbitration.record_history, List.filterMap_append,
          List.filterMap_cons, GatewayAction.forwardedText, List.filterMap_nil, List.append_nil]
    | _ => simp only [Arbitration.record_history, List.filterMap_append, List.filterMap_cons,
        GatewayAction.forwardedText, List.filterMap_nil, List.append_nil]

/-- A local step leaves the intercepted requests. -/
theorem interceptedIds_of_localStep {before after : Arbitration} (moved : LocalStep before after) :
    after.interceptedIds = before.interceptedIds := by
  rcases moved with same | ⟨move, isLocal, moves⟩
  · rw [same]
  · cases moves with
    | intercept => exact isLocal.elim
    | _ => simp only [Arbitration.record_interceptedIds, Arbitration.send_interceptedIds]

/-- What is noted of a message of the upstream forwards nothing. -/
theorem noteUpstream_frames (message : JsonObject) (answers : Option Nat) :
    ((gateway.takeAnswer message answers).noteIntercepted message |>.noteResolved message
      |>.noteTurnStarted message).forwardedFrames = gateway.forwardedFrames := by
  have resolved (before : Gateway) :
      (before.noteResolved message).forwardedFrames = before.forwardedFrames := by
    unfold noteResolved
    split
    next requestId _ =>
      dsimp only
      split
      next task _ =>
        have marked : ∀ marked : Gateway,
            (marked.cancelCallback task).forwardedFrames = marked.forwardedFrames := by
          intro marked
          exact congrArg (fun state : Arbitration =>
            state.history.filterMap GatewayAction.forwardedText) (cancelCallback_arbitration task)
        rw [marked]
        exact forwardedFrames_record rfl
      next => exact forwardedFrames_record rfl
    next => rfl
  have intercepted (before : Gateway) :
      (before.noteIntercepted message).forwardedFrames = before.forwardedFrames := by
    unfold noteIntercepted
    split
    next => exact forwardedFrames_record rfl
    next => rfl
  have unmoved {before after : Gateway} (same : after.arbitration = before.arbitration) :
      after.forwardedFrames = before.forwardedFrames :=
    congrArg (fun state : Arbitration =>
      state.history.filterMap GatewayAction.forwardedText) same
  rw [unmoved (noteTurnStarted_arbitration message), resolved, intercepted,
    unmoved (takeAnswer_arbitration message answers)]

/-- A message of the upstream is intercepted when it is an intercepted request. -/
theorem noteUpstream_interceptedIds (message : JsonObject) (answers : Option Nat) :
    ((gateway.takeAnswer message answers).noteIntercepted message |>.noteResolved message
      |>.noteTurnStarted message).interceptedIds = match interceptedRequest message with
        | some (requestId, _) => insert requestId gateway.interceptedIds
        | none => gateway.interceptedIds := by
  have unmoved {before after : Gateway} (same : after.arbitration = before.arbitration) :
      after.interceptedIds = before.interceptedIds := congrArg Arbitration.interceptedIds same
  have resolved (before : Gateway) :
      (before.noteResolved message).interceptedIds = before.interceptedIds := by
    unfold noteResolved
    split
    next =>
      dsimp only
      split
      next task _ =>
        have marked : ∀ marked : Gateway,
            (marked.cancelCallback task).interceptedIds = marked.interceptedIds :=
          fun marked => unmoved (cancelCallback_arbitration task)
        rw [marked]
        rfl
      next => rfl
    next => rfl
  have taken : (gateway.takeAnswer message answers).interceptedIds = gateway.interceptedIds :=
    unmoved (takeAnswer_arbitration message answers)
  rw [unmoved (noteTurnStarted_arbitration message), resolved]
  unfold noteIntercepted
  cases intercepted : interceptedRequest message with
  | none => exact taken
  | some request => exact congrArg (insert request.1) taken

/-- A message that is observed and put forwards nothing. -/
theorem observeUpstream_frames (message : JsonObject) (forward : TerminalMessage) :
    (gateway.observeUpstream config message forward).forwardedFrames = gateway.forwardedFrames ∧
      (gateway.observeUpstream config message forward).interceptedIds = gateway.interceptedIds := by
  rcases @observeUpstream_moves config gateway message forward with
    moved | ⟨_, request, _, _, recorded⟩
  · have sends := (@observeUpstream_puts config gateway message forward).sends
    exact ⟨forwarded_of_localStep moved sends, interceptedIds_of_localStep moved⟩
  · have history := congrArg Arbitration.history recorded
    refine ⟨?_, congrArg Arbitration.interceptedIds recorded⟩
    unfold forwardedFrames
    change List.filterMap _ (Gateway.arbitration _).history = _
    rw [history, Arbitration.record_history, List.filterMap_append]
    exact List.append_nil _

/-- A message of the upstream changes what is intercepted, and nothing on the way to the
upstream. -/
theorem handleUpstream_frames (message : JsonObject) (answers : Option Nat)
    (forward : TerminalMessage) :
    let next := (gateway.takeAnswer message answers).handleUpstreamMessage config message forward
    next.forwardedFrames = gateway.forwardedFrames ∧
      next.interceptedIds = match interceptedRequest message with
        | some (requestId, _) => insert requestId gateway.interceptedIds
        | none => gateway.interceptedIds := by
  obtain ⟨forwarded, intercepted⟩ := @observeUpstream_frames config
    ((gateway.takeAnswer message answers).noteIntercepted message |>.noteResolved message
      |>.noteTurnStarted message) message forward
  exact ⟨forwarded.trans (noteUpstream_frames message answers),
    intercepted.trans (noteUpstream_interceptedIds message answers)⟩

end ToUpstream

section Forwarding

variable {frames : List String}

/-- The frame that a terminal is observing. -/
theorem observedFrame_of_terminal {terminal : Terminal} (here : gateway.terminal = some terminal) :
    gateway.observedFrame = match terminal.phase with
      | .observing _ rawMessage => [rawMessage]
      | _ => [] := by
  unfold observedFrame
  rw [here, Option.map_some]
  cases phase : terminal.phase <;> rfl

/-- A gateway is forwarding exactly while the handler of its terminal is. -/
theorem isForwarding_of_terminal {terminal : Terminal} (here : gateway.terminal = some terminal) :
    gateway.isForwarding = decide (terminal.phase = .forwarding) := by
  unfold isForwarding
  rw [here]
  rfl

/-- Nothing on the way to the upstream changed. -/
theorem Forwards.same (forwards : Forwards gateway frames)
    (forwarded : next.forwardedFrames = gateway.forwardedFrames)
    (sending : next.sendingFrames = gateway.sendingFrames)
    (phase : next.terminal.map Terminal.phase = gateway.terminal.map Terminal.phase) :
    Forwards next frames := by
  have observed : next.observedFrame = gateway.observedFrame := by
    unfold observedFrame
    rw [phase]
  have forwarding : next.isForwarding = gateway.isForwarding := by
    unfold isForwarding
    have ofPhase (terminal : Option Terminal) :
        (terminal.any fun terminal => decide (terminal.phase = .forwarding)) =
          (terminal.map Terminal.phase).any fun phase => decide (phase = .forwarding) := by
      cases terminal <;> rfl
    rw [ofPhase, ofPhase, phase]
  refine ⟨by rw [forwards.frames, forwarded, sending, observed],
    by rw [sending, forwarding, forwards.inHand], ?_⟩
  intro terminal message rawMessage here observing
  rw [here, Option.map_some, observing] at phase
  obtain ⟨earlier, before, samePhase⟩ := Option.map_eq_some_iff.mp phase.symm
  exact forwards.observes earlier message rawMessage before samePhase

/-- A handler that neither observes nor forwards holds no frame back. -/
theorem Forwards.idle (forwards : Forwards gateway frames)
    (forwarded : next.forwardedFrames = gateway.forwardedFrames)
    (sending : next.sendingFrames = gateway.sendingFrames)
    (before : gateway.observedFrame = [] ∧ gateway.isForwarding = false)
    (after : next.observedFrame = [] ∧ next.isForwarding = false) : Forwards next frames := by
  refine ⟨by rw [forwards.frames, forwarded, sending, before.1, after.1],
    by rw [sending, forwards.inHand, before.2, after.2], ?_⟩
  intro terminal message rawMessage here observing
  have observed := after.1
  rw [observedFrame_of_terminal here, observing] at observed
  cases observed

/-- A frame that the handler forwards waits for the send lock, unless it answers an
intercepted request. -/
theorem forwards_forwardTerminal {terminal : Terminal} {message : JsonObject} {rawMessage : String}
    {relay : Relay} (sent : relay.toUpstream = gateway.forwardedFrames)
    (quiet : gateway.sendingFrames = [])
    (intercepted : relay.intercepted = gateway.interceptedIds) :
    Forwards (gateway.forwardTerminal terminal message rawMessage)
      (relay.sent message rawMessage).toUpstream := by
  unfold forwardTerminal Relay.sent
  rw [intercepted]
  cases answers : (responseIdOf message).filter (· ∈ gateway.interceptedIds) with
  | none =>
      dsimp only
      have forwarding : ({ gateway with
          terminal := some { terminal with phase := .forwarding } }.sendUpstream
            (.raw terminal.client message rawMessage)).terminal =
          some { terminal with phase := .forwarding } := sendUpstream_terminal _
      obtain ⟨forwarded, sending⟩ := @sendUpstream_frames { gateway with
        terminal := some { terminal with phase := .forwarding } }
          (.raw terminal.client message rawMessage)
      have one := sending.trans (congrArg (· ++ [rawMessage]) quiet)
      refine ⟨?_, ?_, ?_⟩
      · rw [forwarded, one, observedFrame_of_terminal forwarding, sent]
        rfl
      · rw [one, isForwarding_of_terminal forwarding]
        rfl
      · intro other _ _ here observing
        rw [forwarding] at here
        cases here
        cases observing
  | some requestId =>
      have responding : (({ gateway with
          terminal := some { terminal with phase := .responding } }.record
            (.answered requestId (responsePayload message))).terminal) =
          some { terminal with phase := .responding } := rfl
      have forwarded : ({ gateway with
          terminal := some { terminal with phase := .responding } }.record
            (.answered requestId (responsePayload message))).forwardedFrames =
          gateway.forwardedFrames := forwardedFrames_record rfl
      have none : ({ gateway with
          terminal := some { terminal with phase := .responding } }.record
            (.answered requestId (responsePayload message))).sendingFrames = [] := quiet
      refine ⟨?_, ?_, ?_⟩
      · rw [forwarded, none, observedFrame_of_terminal responding, sent]
        exact (List.append_nil _).symm
      · rw [none, isForwarding_of_terminal responding]
        rfl
      · intro other _ _ here observing
        rw [responding] at here
        cases here
        cases observing

/-- A frame of the terminal is observed, or forwarded at once. -/
theorem forwards_handleTerminalMessage {terminal : Terminal} {message : JsonObject}
    {rawMessage : String} {relay : Relay} (sent : relay.toUpstream = gateway.forwardedFrames)
    (quiet : gateway.sendingFrames = [])
    (intercepted : relay.intercepted = gateway.interceptedIds) :
    Forwards (gateway.handleTerminalMessage config terminal message rawMessage)
      (relay.sent message rawMessage).toUpstream := by
  unfold handleTerminalMessage
  split
  next outgoingId method identified named =>
    dsimp only
    split
    next =>
      have request : responseIdOf message = none := by
        have key : hasKey message "method" := by
          unfold messageMethod at named
          unfold hasKey
          split at named
          next found => rw [found, Option.isSome_some]
          next => cases named
        unfold responseIdOf
        rw [key, Bool.true_or, if_pos rfl]
      have passes : (relay.sent message rawMessage).toUpstream =
          gateway.forwardedFrames ++ [rawMessage] := by
        unfold Relay.sent
        rw [request, ← sent]
        rfl
      refine ⟨?_, ?_, ?_⟩
      · rw [passes, forwardedFrames_record rfl]
        change _ = gateway.forwardedFrames ++ (gateway.sendingFrames ++ [rawMessage])
        rw [quiet, List.nil_append]
      · change gateway.sendingFrames.length = 0
        rw [quiet, List.length_nil]
      · intro other _ _ here observing
        cases here
        cases observing
        exact request
    next => exact forwards_forwardTerminal sent quiet intercepted
  next => exact forwards_forwardTerminal sent quiet intercepted

/-- A frame that was sent is forwarded, and the handler goes on. -/
theorem Forwards.sendReturned (forwards : Forwards gateway frames) {outgoing : Outgoing}
    (sending : gateway.upstreamSendLock.holder = some outgoing) :
    Forwards (gateway.sendReturned outgoing) frames := by
  obtain ⟨forwarded, released⟩ := sendReturned_frames sending
  cases outgoing with
  | response call => exact forwards.same (forwarded.trans (List.append_nil _)) released.symm rfl
  | raw client message rawMessage =>
      have inHand := forwards.inHand
      rw [released] at inHand
      have forwarding : gateway.isForwarding := by
        by_contra idle
        rw [if_neg idle] at inHand
        cases inHand
      rw [if_pos forwarding] at inHand
      have empty : (gateway.sendReturned (.raw client message rawMessage)).sendingFrames = [] :=
        List.eq_nil_of_length_eq_zero (Nat.succ.inj inHand)
      obtain ⟨terminal, here, phase⟩ := (Option.any_eq_true _ _).mp forwarding
      have phase : terminal.phase = .forwarding := of_decide_eq_true phase
      have reading : (gateway.sendReturned (.raw client message rawMessage)).terminal =
          some { terminal with phase := .reading } := by
        change gateway.terminal.map _ = _
        rw [here, Option.map_some]
      refine ⟨?_, ?_, ?_⟩
      · rw [forwards.frames, released, empty, forwarded, observedFrame_of_terminal here,
          observedFrame_of_terminal reading, phase]
        simp only [List.append_nil, Outgoing.rawText]
      · rw [empty, isForwarding_of_terminal reading]
        rfl
      · intro other _ _ now observing
        rw [reading] at now
        cases now
        cases observing

/-- What is sent to the upstream changes nothing of what goes to the terminal. -/
theorem sent_toTerminal (relay : Relay) (message : JsonObject) (text : String) :
    (relay.sent message text).toTerminal = relay.toTerminal ∧
      (relay.sent message text).intercepted = relay.intercepted := by
  unfold Relay.sent
  split <;> exact ⟨rfl, rfl⟩

/-- The handler of the terminal holds no frame back while it reads. -/
theorem Forwards.quiet (forwards : gateway.Forwards frames) {terminal : Terminal}
    (here : gateway.terminal = some terminal) (reading : terminal.phase = .reading) :
    gateway.sendingFrames = [] ∧ frames = gateway.forwardedFrames := by
  have inHand := forwards.inHand
  rw [isForwarding_of_terminal here, reading] at inHand
  have quiet : gateway.sendingFrames = [] := List.eq_nil_of_length_eq_zero inHand
  refine ⟨quiet, ?_⟩
  rw [forwards.frames, quiet, observedFrame_of_terminal here, reading]
  exact List.append_nil _

/-- What the handler of the terminal held back is on its way once it was observed. -/
theorem Forwards.terminalObserved (forwards : gateway.Forwards frames) {terminal : Terminal}
    {message : JsonObject} {rawMessage : String} (here : gateway.terminal = some terminal)
    (observing : terminal.phase = .observing message rawMessage) :
    (gateway.forwardTerminal terminal message rawMessage).Forwards frames := by
  have request := forwards.observes terminal message rawMessage here observing
  have inHand := forwards.inHand
  rw [isForwarding_of_terminal here, observing] at inHand
  have quiet : gateway.sendingFrames = [] := List.eq_nil_of_length_eq_zero inHand
  have held : frames = gateway.forwardedFrames ++ [rawMessage] := by
    rw [forwards.frames, quiet, observedFrame_of_terminal here, observing, List.nil_append]
  have sent := @forwards_forwardTerminal gateway terminal message rawMessage
    ⟨[], gateway.forwardedFrames, gateway.interceptedIds⟩ rfl quiet rfl
  unfold Relay.sent at sent
  rw [request] at sent
  rw [held]
  exact sent

end Forwarding

section Proxying

variable {relay : Relay}

variable {frames : List String}

/-- What is queued for the terminal takes no part in what is forwarded. -/
theorem Forwards.queued (forwards : gateway.Forwards frames)
    (forwarded : next.forwardedFrames = gateway.forwardedFrames)
    (sends : next.upstreamSendLock = gateway.upstreamSendLock)
    (phase : next.terminal.map Terminal.phase = gateway.terminal.map Terminal.phase) :
    next.Forwards frames :=
  forwards.same forwarded
    (congrArg (fun lock : FairLock Outgoing => lock.items.filterMap Outgoing.rawText) sends) phase

/-- What the upstream sends is queued, now or once it was observed. -/
theorem Forwards.upstream (forwards : gateway.Forwards frames) {rawMessage : RawMessage}
    {answers : Option Nat} {message : JsonObject} (parsed : parseMessage rawMessage = some message)
    (stepped : gateway.step config (.upstream rawMessage answers) = some next) :
    next.Forwards frames := by
  simp only [step, parsed] at stepped
  split at stepped
  next =>
    split at stepped <;> cases stepped
    obtain ⟨_, _, puts⟩ := @handleUpstream_puts config gateway message answers
      ⟨rawMessage.text, answers⟩
    exact forwards.queued (handleUpstream_frames message answers _).1 puts.sends
      (congrArg (Option.map Terminal.phase) puts.terminal)
  next => cases stepped

/-- A message of the upstream that was observed leaves the frames of the terminal. -/
theorem Forwards.upstreamObserved (forwards : gateway.Forwards frames)
    (stepped : gateway.step config .upstreamObserved = some next) : next.Forwards frames := by
  simp only [step] at stepped
  split at stepped
  next message forward _ =>
    cases stepped
    have puts := @putToTerminal_puts config gateway message forward
    have moved := @putToTerminal_moves config gateway message forward
    exact forwards.queued (forwarded_of_localStep moved puts.sends) puts.sends
      (congrArg (Option.map Terminal.phase) puts.terminal)
  next => cases stepped

/-- A message of the upstream that was queued leaves the frames of the terminal. -/
theorem Forwards.enqueued (forwards : gateway.Forwards frames)
    (stepped : gateway.step config .enqueued = some next) : next.Forwards frames := by
  simp only [step] at stepped
  split at stepped
  next message forward _ =>
    split at stepped <;> cases stepped
    have puts := @enqueue_puts gateway message forward
    have moved := @enqueue_moves gateway message forward
    exact forwards.queued (forwarded_of_localStep moved puts.sends) puts.sends
      (congrArg (Option.map Terminal.phase) puts.terminal)
  next => cases stepped

/-- A terminal that ends while its handler holds no frame takes none with it. -/
theorem Forwards.terminalEnded (forwards : gateway.Forwards frames)
    (unobserved : ∀ terminal message rawMessage, gateway.terminal = some terminal →
      terminal.phase ≠ .observing message rawMessage)
    (stepped : gateway.step config .terminalEnded = some next) : next.Forwards frames := by
  obtain ⟨terminal, here, stepped⟩ := Option.bind_eq_some_iff.mp stepped
  have closing : gateway.terminalEnds.terminal =
      some { terminal with phase := .closing, sender := .stopped } := by
    change gateway.terminal.map _ = _
    rw [here, Option.map_some]
  have after : gateway.terminalEnds.observedFrame = [] ∧
      gateway.terminalEnds.isForwarding = false := by
    rw [observedFrame_of_terminal closing, isForwarding_of_terminal closing]
    exact ⟨rfl, rfl⟩
  split at stepped
  next reading =>
    cases stepped
    refine forwards.idle rfl rfl ?_ after
    rw [observedFrame_of_terminal here, isForwarding_of_terminal here, reading]
    exact ⟨rfl, rfl⟩
  next message rawMessage observing =>
    exact absurd observing (unobserved terminal message rawMessage here)
  next responding =>
    cases stepped
    refine forwards.idle rfl rfl ?_ after
    rw [observedFrame_of_terminal here, isForwarding_of_terminal here, responding]
    exact ⟨rfl, rfl⟩
  next => cases stepped

/-- A terminal whose handler is done with a response, or that is gone, holds nothing back. -/
theorem Forwards.terminalDone (forwards : gateway.Forwards frames)
    (stepped : gateway.step config .terminalHandled = some next ∨
      gateway.step config .terminalLeft = some next) : next.Forwards frames := by
  rcases stepped with stepped | stepped
  · obtain ⟨terminal, here, stepped⟩ := Option.bind_eq_some_iff.mp stepped
    split at stepped
    next responding =>
      cases stepped
      refine forwards.idle rfl rfl ?_ ⟨rfl, rfl⟩
      rw [observedFrame_of_terminal here, isForwarding_of_terminal here, responding]
      exact ⟨rfl, rfl⟩
    next => cases stepped
  · obtain ⟨terminal, here, stepped⟩ := Option.bind_eq_some_iff.mp stepped
    split at stepped
    next closing =>
      cases stepped
      refine forwards.idle rfl rfl ?_ ⟨rfl, rfl⟩
      rw [observedFrame_of_terminal here, isForwarding_of_terminal here, closing]
      exact ⟨rfl, rfl⟩
    next => cases stepped

/-- A terminal that connects has sent no frame yet. -/
theorem Forwards.connect (forwards : gateway.Forwards frames)
    (stepped : gateway.step config .connect = some next) : next.Forwards frames := by
  simp only [step] at stepped
  split at stepped
  next =>
    cases stepped
    exact forwards
  next absent =>
    cases stepped
    refine forwards.idle rfl rfl ?_ ⟨rfl, rfl⟩
    unfold observedFrame isForwarding
    rw [absent]
    exact ⟨rfl, rfl⟩

/-- A response of Lark passes the locks without touching a frame of the terminal. -/
theorem Forwards.respond (forwards : gateway.Forwards frames) {requestId : RequestId}
    {result : Json} {error : Option JsonObject}
    (stepped : gateway.step config (.respond requestId result error) = some next) :
    next.Forwards frames := by
  cases stepped
  obtain ⟨forwarded, sending⟩ := @respondUpstream_frames gateway requestId result error
  exact forwards.same forwarded sending
    (congrArg (Option.map Terminal.phase) (respondUpstream_terminal requestId result error))

/-- The next answer under the response lock leaves the frames of the terminal. -/
theorem Forwards.grantResponse (forwards : gateway.Forwards frames)
    (stepped : gateway.step config .grantResponse = some next) : next.Forwards frames := by
  simp only [step] at stepped
  split at stepped
  next call lock _ =>
    cases stepped
    obtain ⟨forwarded, sending⟩ :=
      @respondWithPayload_frames { gateway with responseLock := lock } call
    exact forwards.same forwarded sending
      (congrArg (Option.map Terminal.phase) (respondWithPayload_terminal call))
  next => cases stepped

/-- The next send under its lock leaves the frames in their order. -/
theorem Forwards.grantSend (forwards : gateway.Forwards frames)
    (stepped : gateway.step config .grantSend = some next) : next.Forwards frames := by
  simp only [step] at stepped
  split at stepped
  next outgoing lock grants =>
    cases stepped
    refine forwards.same (forwardedFrames_record rfl) ?_ rfl
    exact congrArg (List.filterMap Outgoing.rawText) (FairLock.items_grant grants)
  next => cases stepped

/-- A call that is cancelled leaves the frames of the terminal. -/
theorem Forwards.interrupt (forwards : gateway.Forwards frames) {call : RespondCall}
    (stepped : gateway.step config (.interrupt call) = some next) : next.Forwards frames := by
  obtain ⟨forwarded, sending⟩ := interruptCall_frames stepped
  apply forwards.same forwarded sending
  simp only [step, interruptCall] at stepped
  split at stepped
  next =>
    cases stepped
    rfl
  next =>
    split at stepped <;> cases stepped
    rfl

/-- A callback task starts or ends. -/
theorem Forwards.callback (forwards : gateway.Forwards frames) {task : Nat}
    (stepped : gateway.step config (.startCallback task) = some next ∨
      gateway.step config (.finishCallback task) = some next) : next.Forwards frames := by
  rcases stepped with stepped | stepped
  · simp only [step] at stepped
    split at stepped
    next =>
      split at stepped
      next =>
        cases stepped
        exact forwards.same (forwardedFrames_record rfl) rfl rfl
      next =>
        split at stepped <;> cases stepped <;>
          exact forwards.same (forwardedFrames_record rfl) rfl rfl
    next => cases stepped
  · simp only [step] at stepped
    split at stepped <;> cases stepped
    exact forwards.same rfl rfl rfl

/-- What is on the way to the upstream grows by what an event brings from the terminal. -/
theorem forwards_of_step (transparent : Transparent gateway relay)
    (stepped : gateway.step config event = some next)
    (behaved : WellBehaved (gateway, relay) event) :
    next.Forwards (relay.note event).toUpstream := by
  have forwards := transparent.toUpstream
  cases event with
  | upstream rawMessage answers =>
      obtain ⟨message, parsed⟩ := Option.isSome_iff_exists.mp behaved
      have noted : (relay.note (.upstream rawMessage answers)).toUpstream = relay.toUpstream := by
        simp only [Relay.note, parsed]
        rfl
      rw [noted]
      exact forwards.upstream parsed stepped
  | terminal rawMessage =>
      obtain ⟨message, parsed⟩ := Option.isSome_iff_exists.mp behaved
      obtain ⟨terminal, here, stepped⟩ := Option.bind_eq_some_iff.mp stepped
      simp only [Relay.note, parsed] at stepped ⊢
      split at stepped
      next reading =>
        cases stepped
        obtain ⟨quiet, sent⟩ := forwards.quiet here reading
        exact forwards_handleTerminalMessage sent quiet transparent.intercepted
      next => cases stepped
  | terminalObserved =>
      obtain ⟨terminal, here, stepped⟩ := Option.bind_eq_some_iff.mp stepped
      split at stepped
      next message rawMessage observing =>
        cases stepped
        exact forwards.terminalObserved here observing
      next => cases stepped
  | terminalEnded => exact forwards.terminalEnded behaved stepped
  | terminalHandled => exact forwards.terminalDone (.inl stepped)
  | terminalLeft => exact forwards.terminalDone (.inr stepped)
  | connect => exact forwards.connect stepped
  | taken =>
      obtain ⟨terminal, here, stepped⟩ := Option.bind_eq_some_iff.mp stepped
      split at stepped
      next =>
        cases stepped
        exact forwards.same (forwardedFrames_record rfl) rfl (by rw [here]; rfl)
      next => cases stepped
  | terminalSent | senderStopped =>
      obtain ⟨terminal, here, stepped⟩ := Option.bind_eq_some_iff.mp stepped
      split at stepped
      next =>
        cases stepped
        exact forwards.same rfl rfl (by rw [here]; rfl)
      next => cases stepped
  | upstreamObserved => exact forwards.upstreamObserved stepped
  | enqueued => exact forwards.enqueued stepped
  | upstreamEnded =>
      simp only [step] at stepped
      split at stepped <;> cases stepped <;> exact forwards.same rfl rfl rfl
  | startCallback task => exact forwards.callback (.inl stepped)
  | finishCallback task => exact forwards.callback (.inr stepped)
  | respond requestId result error => exact forwards.respond stepped
  | grantResponse => exact forwards.grantResponse stepped
  | grantSend => exact forwards.grantSend stepped
  | sendEnded delivers =>
      simp only [step] at stepped
      split at stepped
      next outgoing sending =>
        cases stepped
        have delivered : delivers = true := behaved
        rw [if_pos delivered]
        exact forwards.sendReturned sending
      next => cases stepped
  | interrupt call => exact forwards.interrupt stepped

/-- An event intercepts what the upstream asks for. -/
theorem intercepted_of_step (transparent : Transparent gateway relay)
    (stepped : gateway.step config event = some next)
    (behaved : WellBehaved (gateway, relay) event) :
    (relay.note event).intercepted = next.interceptedIds := by
  have same (elsewhere : event.upstreamMessage = none) (untaken : event ≠ .taken)
      (noted : (relay.note event).intercepted = relay.intercepted) :
      (relay.note event).intercepted = next.interceptedIds := by
    rw [noted, transparent.intercepted]
    exact (interceptedIds_of_localStep (step_localStep stepped elsewhere untaken)).symm
  cases event with
  | upstream rawMessage answers =>
      obtain ⟨message, parsed⟩ := Option.isSome_iff_exists.mp behaved
      simp only [step, parsed] at stepped
      split at stepped
      next =>
        split at stepped <;> cases stepped
        obtain ⟨_, intercepted⟩ := @handleUpstream_frames config gateway message answers
          ⟨rawMessage.text, answers⟩
        rw [intercepted, ← transparent.intercepted]
        simp only [Relay.note, parsed]
        rfl
      next => cases stepped
  | terminal rawMessage =>
      obtain ⟨message, parsed⟩ := Option.isSome_iff_exists.mp behaved
      refine same rfl (fun impossible => by cases impossible) ?_
      simp only [Relay.note, parsed]
      exact (sent_toTerminal relay message rawMessage.text).2
  | taken =>
      obtain ⟨terminal, here, stepped⟩ := Option.bind_eq_some_iff.mp stepped
      split at stepped
      next =>
        cases stepped
        exact transparent.intercepted
      next => cases stepped
  | _ => exact same rfl (fun impossible => by cases impossible) rfl

/-- The terminal is owed what an event brings from the upstream. -/
theorem note_toTerminal (behaved : WellBehaved (gateway, relay) event) :
    (relay.note event).toTerminal = relay.toTerminal ++ receivedText event := by
  cases event with
  | upstream rawMessage answers =>
      obtain ⟨message, parsed⟩ := Option.isSome_iff_exists.mp behaved
      simp only [Relay.note, parsed]
      rfl
  | terminal rawMessage =>
      obtain ⟨message, parsed⟩ := Option.isSome_iff_exists.mp behaved
      simp only [Relay.note, parsed]
      rw [(sent_toTerminal relay message rawMessage.text).1]
      exact (List.append_nil _).symm
  | _ => exact (List.append_nil _).symm

/-- Every event of well-behaved sides keeps the gateway a relay in both directions. -/
theorem transparent_of_step (transparent : Transparent gateway relay)
    (stepped : gateway.step config event = some next)
    (behaved : WellBehaved (gateway, relay) event) :
    Transparent next (relay.note event) where
  toTerminal := by
    rw [note_toTerminal behaved, transparent.toTerminal, ← carried_eq, ← carried_eq,
      carried_of_step stepped behaved]
  toUpstream := forwards_of_step transparent stepped behaved
  intercepted := intercepted_of_step transparent stepped behaved

/-- A handler whose frame was sent observes nothing. -/
theorem sendReturned_idle {outgoing : Outgoing} (idle : gateway.observedFrame = []) :
    (gateway.sendReturned outgoing).observedFrame = [] := by
  cases outgoing with
  | response call => exact idle
  | raw client message rawMessage =>
      unfold observedFrame
      change (match (gateway.terminal.map _).map Terminal.phase with
        | some (.observing _ rawMessage) => [rawMessage]
        | _ => []) = []
      cases gateway.terminal <;> rfl

/-- A frame that goes on is no longer observed. -/
theorem forwardTerminal_idle (terminal : Terminal) (message : JsonObject) (rawMessage : String) :
    (gateway.forwardTerminal terminal message rawMessage).observedFrame = [] := by
  unfold forwardTerminal
  split
  next =>
    unfold observedFrame
    rw [sendUpstream_terminal]
    rfl
  next => rfl

/-- An event that brings no frame is a run. -/
theorem reaches_of_step (stepped : gateway.step config event = some next)
    (behaved : WellBehaved (gateway, relay) event) (silent : relay.note event = relay) :
    (relayingSystem config).ReachesVia WellBehaved (gateway, relay) (next, relay) :=
  .step event .refl behaved ⟨stepped, silent.symm⟩

/-- Frames that hold, or wait for, the send lock are sent one after the other. -/
theorem sends_all (relay : Relay) (length : Nat) :
    ∀ gateway : Gateway, gateway.upstreamSendLock.items.length = length →
      gateway.observedFrame = [] → ∃ later,
        (relayingSystem config).ReachesVia WellBehaved (gateway, relay) (later, relay) ∧
          later.sendingFrames = [] ∧ later.observedFrame = [] := by
  induction length with
  | zero =>
      intro gateway sent idle
      refine ⟨gateway, .refl, ?_, idle⟩
      unfold sendingFrames
      rw [List.eq_nil_of_length_eq_zero sent, List.filterMap_nil]
  | succ length ih =>
      have sends (gateway : Gateway) (outgoing : Outgoing)
          (sending : gateway.upstreamSendLock.holder = some outgoing)
          (waits : gateway.upstreamSendLock.items.length = length + 1)
          (idle : gateway.observedFrame = []) : ∃ later,
            (relayingSystem config).ReachesVia WellBehaved (gateway, relay) (later, relay) ∧
              later.sendingFrames = [] ∧ later.observedFrame = [] := by
        have released : (gateway.sendReturned outgoing).upstreamSendLock =
            gateway.upstreamSendLock.release := by
          cases outgoing <;> rfl
        rw [FairLock.items_of_holder sending, List.length_cons] at waits
        obtain ⟨later, reached, sent, observed⟩ := ih (gateway.sendReturned outgoing)
          (by rw [released]; exact Nat.succ.inj waits) (sendReturned_idle idle)
        have stepped : gateway.step config (.sendEnded true) =
            some (gateway.sendReturned outgoing) := by
          simp only [step, sending, ↓reduceIte]
        exact ⟨later, (reaches_of_step stepped rfl rfl).trans reached, sent, observed⟩
      intro gateway waits idle
      cases holder : gateway.upstreamSendLock.holder with
      | some outgoing => exact sends gateway outgoing holder waits idle
      | none =>
          cases queue : gateway.upstreamSendLock.waiting with
          | nil =>
              unfold FairLock.items at waits
              rw [holder, queue] at waits
              cases waits
          | cons outgoing rest =>
              have grants : gateway.upstreamSendLock.grant? =
                  some (outgoing, ⟨some outgoing, rest⟩) := by
                unfold FairLock.grant?
                rw [holder, queue]
              have stepped : gateway.step config .grantSend = some ({ gateway with
                  upstreamSendLock := ⟨some outgoing, rest⟩ }.hand outgoing) := by
                simp only [step, grants]
              have granted : ({ gateway with
                  upstreamSendLock := ⟨some outgoing, rest⟩ }.hand outgoing).upstreamSendLock =
                    ⟨some outgoing, rest⟩ := rfl
              obtain ⟨later, reached, sent, observed⟩ := sends _ outgoing
                (congrArg FairLock.holder granted)
                (by rw [granted, FairLock.items_grant grants, waits]) idle
              exact ⟨later, (reaches_of_step stepped trivial rfl).trans reached, sent, observed⟩

/-- A frame that the handler holds back is forwarded. -/
theorem forwards_all (transparent : Transparent gateway relay) : ∃ later,
    (relayingSystem config).ReachesVia WellBehaved (gateway, relay) (later, relay) ∧
      later.forwardedFrames = relay.toUpstream := by
  have finish (gateway : Gateway) (transparent : Transparent gateway relay)
      (idle : gateway.observedFrame = []) : ∃ later,
        (relayingSystem config).ReachesVia WellBehaved (gateway, relay) (later, relay) ∧
          later.forwardedFrames = relay.toUpstream := by
    obtain ⟨later, reached, sent, observed⟩ := @sends_all config relay _ gateway rfl idle
    have kept : Transparent later relay :=
      reached.invariant (fun state => Transparent state.1 state.2) transparent
        fun _ _ _ held behaved stepped => stepped.2 ▸ transparent_of_step held stepped.1 behaved
    refine ⟨later, reached, ?_⟩
    rw [kept.toUpstream.frames, sent, observed]
    exact (List.append_nil _).symm
  cases here : gateway.terminal with
  | none =>
      apply finish gateway transparent
      unfold observedFrame
      rw [here]
      rfl
  | some terminal =>
      cases phase : terminal.phase with
      | observing message rawMessage =>
          have stepped : gateway.step config .terminalObserved =
              some (gateway.forwardTerminal terminal message rawMessage) := by
            simp only [step, withTerminal, here, Option.bind_some, phase]
          have next := transparent_of_step transparent stepped trivial
          obtain ⟨later, reached, forwarded⟩ := finish _ next
            (forwardTerminal_idle terminal message rawMessage)
          exact ⟨later, (reaches_of_step stepped trivial rfl).trans reached, forwarded⟩
      | _ =>
          apply finish gateway transparent
          rw [observedFrame_of_terminal here, phase]

/-- A frame that the reader holds back is put when the queue has room. -/
theorem puts_next (transparent : Transparent gateway relay) (held : gateway.reader.pending.isSome)
    (room : gateway.toTerminal.length < config.queueCapacity) :
    ∃ event next, gateway.step config event = some next ∧ WellBehaved (gateway, relay) event ∧
      relay.note event = relay ∧ next.putFrames = relay.toTerminal := by
  have put (event : GatewayEvent) (message : JsonObject) (forward : TerminalMessage)
      (stepped : gateway.step config event = some (gateway.enqueue message forward))
      (behaved : WellBehaved (gateway, relay) event) (silent : relay.note event = relay) :
      ∃ event next, gateway.step config event = some next ∧ WellBehaved (gateway, relay) event ∧
        relay.note event = relay ∧ next.putFrames = relay.toTerminal := by
    have next := transparent_of_step transparent stepped behaved
    rw [silent] at next
    have reads : (gateway.enqueue message forward).reader = .reading := by
      unfold enqueue
      rw [noteTurnCompleted_reader, createCallback_reader]
    refine ⟨event, _, stepped, behaved, silent, ?_⟩
    rw [next.toTerminal, reads]
    exact (List.append_nil _).symm
  cases reads : gateway.reader with
  | observing message forward =>
      refine put .upstreamObserved message forward ?_ trivial rfl
      simp only [step, reads, putToTerminal, if_pos room]
  | putting message forward =>
      refine put .enqueued message forward ?_ trivial rfl
      simp only [step, reads, if_pos room]
  | reading =>
      rw [reads] at held
      cases held
  | ended =>
      rw [reads] at held
      cases held

end Proxying

end Gateway

/-- What a gateway passes on, beside what a proxy would. -/
structure PassesOn (config : GatewayConfig) (gateway : Gateway) (relay : Relay) : Prop where
  /-- The queue got the frames of the upstream, but for the one that the reader handles. -/
  toTerminal : relay.toTerminal =
    gateway.putFrames ++ (gateway.reader.pending.map TerminalMessage.rawMessage).toList
  /-- The reader puts that frame once the queue has room. -/
  puts : gateway.reader.pending.isSome → gateway.toTerminal.length < config.queueCapacity →
    ∃ event next, gateway.step config event = some next ∧ WellBehaved (gateway, relay) event ∧
      relay.note event = relay ∧ next.putFrames = relay.toTerminal
  /-- The upstream got the frames of the terminal, but for the one that its handler handles. -/
  toUpstream : ∃ held, relay.toUpstream = gateway.forwardedFrames ++ held ∧ held.length ≤ 1 ∧
    ∀ terminal, gateway.terminal = some terminal → terminal.phase = .reading → held = []
  /-- The handler forwards that frame. -/
  forwards : ∃ later, (relayingSystem config).ReachesVia WellBehaved (gateway, relay)
    (later, relay) ∧
    later.forwardedFrames = relay.toUpstream

section Transparency

variable {config : GatewayConfig}

/-- A gateway that has just started has relayed nothing. -/
theorem transparent_started : Transparent .started .empty where
  toTerminal := rfl
  toUpstream := ⟨rfl, rfl, fun _ _ _ absent => by cases absent⟩
  intercepted := rfl

/-- The gateway is a transparent proxy, whatever it notes, observes and answers beside it. -/
theorem gateway_transparent {state : Gateway × Relay}
    (reachable : (relayingSystem config).ReachableVia WellBehaved state) :
    PassesOn config state.1 state.2 := by
  have transparent : Transparent state.1 state.2 := by
    refine reachable.invariant (fun state => Transparent state.1 state.2) ?_ ?_
    · rintro _ rfl
      exact transparent_started
    · intro before event after held behaved stepped
      exact stepped.2 ▸ Gateway.transparent_of_step held stepped.1 behaved
  have forwards := transparent.toUpstream
  refine ⟨transparent.toTerminal, Gateway.puts_next transparent,
    ⟨_, forwards.frames, ?_, ?_⟩, Gateway.forwards_all transparent⟩
  · rw [List.length_append, forwards.inHand]
    unfold Gateway.isForwarding Gateway.observedFrame
    cases state.1.terminal with
    | none => exact Nat.zero_le 1
    | some terminal =>
        rw [Option.any_some, Option.map_some]
        cases phase : terminal.phase <;> simp
  · intro terminal here reading
    obtain ⟨quiet, _⟩ := forwards.quiet here reading
    rw [quiet, Gateway.observedFrame_of_terminal here, reading]
    rfl

/-- The events of these runs that are well behaved for certain. -/
def wellBehaved (state : Gateway × Relay) : GatewayEvent → Bool
  | .upstream rawMessage _ | .terminal rawMessage => (parseMessage rawMessage).isSome
  | .sendEnded delivers => delivers
  | .upstreamEnded => state.1.reader = .reading
  | .terminalEnded => false
  | _ => true

/-- The check of a scenario implies the condition on its events. -/
theorem wellBehaved_sound (state : Gateway × Relay) (event : GatewayEvent)
    (behaved : wellBehaved state event) : WellBehaved state event := by
  cases event with
  | upstreamEnded =>
      have reads : state.1.reader = .reading := of_decide_eq_true behaved
      exact reads
  | terminalEnded => cases behaved
  | upstream | terminal | sendEnded => exact behaved
  | _ => trivial

/-- A turn in which the terminal answers an approval that the side channel keeps, and then
a request that it does not keep. -/
def answeredTurn : List GatewayEvent :=
  [.connect, .terminal ⟨"start", (requestFrame (.int 1) "turn/start" []).loaded⟩, .terminalObserved,
    .sendEnded true,
    .upstream ⟨"approve?",
      (requestFrame (.int 7) "item/fileChange/requestApproval" []).loaded⟩ none,
    .upstream ⟨"login?", (requestFrame (.int 8) "account/login" []).loaded⟩ none,
    .terminal ⟨"approved", (responseFrame (.int 7) .null).loaded⟩, .terminalHandled,
    .terminal ⟨"logged in", (responseFrame (.int 8) .null).loaded⟩, .sendEnded true,
    .upstream ⟨"started", (responseFrame (.int 1) .null).loaded⟩ (some 0)]

/-- The upstream did not get the answer that was kept, and the last frame waits for its observer. -/
theorem answered_turn_passed_on : ∃ state,
    (relayingSystem observedConfig).ReachableVia WellBehaved state ∧
      PassesOn observedConfig state.1 state.2 ∧
        state.2.toUpstream = ["start", "logged in"] ∧
          state.2.toTerminal = ["approve?", "login?", "started"] ∧
            state.1.putFrames = ["approve?", "login?"] := by
  have checked : (System.follow (fun (state : Gateway × Relay) event =>
      (state.1.step observedConfig event).map fun next => (next, state.2.note event))
        wellBehaved (.started, .empty) answeredTurn).any fun state =>
          state.2.toUpstream = ["start", "logged in"] ∧
            state.2.toTerminal = ["approve?", "login?", "started"] ∧
              state.1.putFrames = ["approve?", "login?"] := by
    decide
  obtain ⟨state, followed, holds⟩ := (Option.any_eq_true _ _).mp checked
  have reached : (relayingSystem observedConfig).ReachableVia WellBehaved state := by
    refine ⟨_, rfl, System.reachesVia_of_follow ?_ wellBehaved_sound followed⟩
    intro before event after stepped
    obtain ⟨next, moved, same⟩ := Option.map_eq_some_iff.mp stepped
    subst same
    exact ⟨moved, rfl⟩
  exact ⟨state, reached, gateway_transparent reached, of_decide_eq_true holds⟩

end Transparency

end LarkBot
