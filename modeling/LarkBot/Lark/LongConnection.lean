import LarkBot.Lark.ControlEvents
import LarkBot.Server.Daemon.LarkRouting

/-! # The long connection to Lark

A child process receives the callbacks of Lark and puts what it makes of them into a queue between
the processes; a pump task of the daemon takes them out and queues them for the routing loop
(`LarkBot.LarkRouting`). The child may die, both queues may be full, and the connection may be
closed in between. What reaches the loop is what the child put, in that order, and only the end of
the stream may be missing (`LarkBot.lark_events_in_order`).
-/

namespace LarkBot

open Foundation

/-- Where the pump is: its thread polls the queue, or returned to a pump that has not gone on. -/
inductive PumpPhase where
  | polling
  | taken (payload : Json)
  | timedOut
  | ended
  deriving DecidableEq, Repr

/-- The payload that the pump's thread has returned. -/
def PumpPhase.taken? : PumpPhase → List Json
  | .taken payload => [payload]
  | _ => []

/-- The pump moves from one place to another, and ends in neither. -/
theorem PumpPhase.ended_iff {before middle pump : PumpPhase} (same : before = middle)
    (goes : pump ≠ .ended) (went : middle ≠ .ended) : pump = .ended ↔ before = .ended := by
  rw [same]
  exact iff_of_false goes went

/-- The connection with the routing loop that listens to it. Its queue of events and its terminal
error are the ones that the loop reads. -/
structure LarkLongConnection where
  capacity : Nat
  alive : Bool
  /-- What the child put and its feeder thread has not written to the pipe. -/
  buffer : List Json
  pipe : List Json
  pump : PumpPhase
  closed : Bool
  routing : LarkRouting
  /-- The callbacks of the child, the events that it put, and how often its queue was full. -/
  callbacks : List LarkCallback
  accepted : List LarkControlEvent
  refused : Nat

inductive LarkConnectionEvent where
  | callback (callback : LarkCallback)
  /-- The feeder thread of the child writes the oldest payload. -/
  | feed
  | die
  /-- `get` of the pump's thread returns the oldest payload. -/
  | take
  /-- `get` raises `queue.Empty`. -/
  | timeout
  /-- The pump goes on. -/
  | proceed
  | close
  /-- `close` cancels the pump. -/
  | cancelPump
  | routing (event : LarkRoutingEvent)
  deriving DecidableEq

namespace LarkLongConnection

/-- The pump catches an error and ends. -/
def failPump (environment : Environment) (connection : LarkLongConnection) (error : PyError) :
    Option LarkLongConnection :=
  (connection.routing.step environment (.disconnect error)).map fun routing =>
    { connection with pump := .ended, routing }

/-- `decode_child_event` and `put_nowait`. An instance whose fields have other types than those of
its class is no step of the model; the child puts none. -/
def put (environment : Environment) (connection : LarkLongConnection) (payload : Json) :
    Option LarkLongConnection :=
  match decodeChildEvent payload with
  | .error error => connection.failPump environment error
  | .ok decoded =>
      match decoded.event? with
      | none => none
      | some event =>
          if connection.capacity ≤ connection.routing.events.length then
            connection.failPump environment ⟨.other "QueueFull", ""⟩
          else (connection.routing.step environment (.arrive event)).map fun routing =>
            { connection with pump := .polling, routing }

/-- A callback in the child: an event that is not normalized is dropped, and one that finds the
queue full, whose places `get` frees, too. -/
def call (loads : String → Option Json) (connection : LarkLongConnection)
    (callback : LarkCallback) : LarkLongConnection :=
  let called := { connection with callbacks := connection.callbacks ++ [callback] }
  match callback.normalize loads with
  | .error _ => called
  | .ok event =>
      if connection.capacity ≤ connection.pipe.length + connection.buffer.length then
        { called with refused := connection.refused + 1 }
      else { called with
        buffer := connection.buffer ++ [.obj event.payload]
        accepted := connection.accepted ++ [event] }

/-- The state after an event, if the event can happen. -/
def step (environment : Environment) (loads : String → Option Json)
    (connection : LarkLongConnection) : LarkConnectionEvent → Option LarkLongConnection
  | .callback callback => if connection.alive then some (connection.call loads callback) else none
  | .feed =>
      match connection.alive, connection.buffer with
      | true, payload :: rest =>
          some { connection with buffer := rest, pipe := connection.pipe ++ [payload] }
      | _, _ => none
  | .die => some { connection with alive := false, buffer := [] }
  | .take =>
      match connection.pump, connection.pipe with
      | .polling, payload :: rest => some { connection with pump := .taken payload, pipe := rest }
      | _, _ => none
  | .timeout =>
      match connection.pump, connection.pipe with
      | .polling, [] => some { connection with pump := .timedOut }
      | _, _ => none
  | .proceed =>
      match connection.pump with
      | .taken payload => connection.put environment payload
      | .timedOut =>
          if connection.alive then some { connection with pump := .polling }
          else connection.failPump environment
            (runtimeError "Lark long-connection child stopped")
      | _ => none
  | .close => if connection.closed then none else some { connection with closed := true }
  | .cancelPump => if connection.closed then some { connection with pump := .ended } else none
  | .routing event =>
      match event with
      | .arrive _ | .disconnect _ => none
      | event => (connection.routing.step environment event).map fun routing =>
          { connection with routing }

/-- `start` has started the child and the pump, and the daemon its routing loop. -/
def started (capacity : Nat) (routing : LarkRouting) : LarkLongConnection where
  capacity := capacity
  alive := true
  buffer := []
  pipe := []
  pump := .polling
  closed := false
  routing := routing
  callbacks := []
  accepted := []
  refused := 0

/-- The payloads between the child and the queue of events, the oldest first. -/
def inFlight (connection : LarkLongConnection) : List Json :=
  connection.pump.taken? ++ connection.pipe ++ connection.buffer

/-- What the callbacks are normalized to. -/
def offered (loads : String → Option Json) (connection : LarkLongConnection) :
    List LarkControlEvent :=
  connection.callbacks.filterMap fun callback => (callback.normalize loads).toOption

/-- The events reach the loop in the order in which the child put them. -/
structure InOrder (environment : Environment) (loads : String → Option Json)
    (connection : LarkLongConnection) : Prop where
  /-- The child puts what it makes of the callbacks, except for what finds the queue full. -/
  accepted : connection.accepted.Sublist (connection.offered loads)
  refused : connection.accepted.length + connection.refused = (connection.offered loads).length
  /-- The loop takes the events as they were put, from the first one on. -/
  routed : connection.routing.routed ++ connection.routing.events <+: connection.accepted
  /-- Nothing is lost as long as the pump and the child go on. -/
  kept : connection.pump ≠ .ended → connection.alive → ∃ flight : List LarkControlEvent,
    connection.inFlight = flight.map (fun event => .obj event.payload) ∧
      connection.routing.routed ++ connection.routing.events ++ flight = connection.accepted
  /-- The pump fails only on a full queue of events or when the child is gone. -/
  failed : ∀ error, connection.routing.terminalError = some error →
    error = ⟨.other "QueueFull", ""⟩ ∨
      error = runtimeError "Lark long-connection child stopped" ∧ connection.alive = false
  /-- A pump that has ended left its error to the loop, unless the connection is closed. -/
  ended : connection.pump = .ended →
    connection.closed = true ∨ connection.routing.terminalError.isSome = true
  /-- No step ends the pump unless the connection is closed, the loop's queue is full or the child
  is gone. -/
  stops : ∀ event after, connection.step environment loads event = some after →
    after.pump = .ended → connection.pump = .ended ∨ connection.closed = true ∨
      connection.routing.events.length = connection.capacity ∨ connection.alive = false
  bounded : connection.routing.events.length ≤ connection.capacity ∧
    connection.pipe.length + connection.buffer.length ≤ connection.capacity
  /-- Every event that reaches the loop names itself and its actor. -/
  named : ∀ event ∈ connection.routing.routed ++ connection.routing.events,
    event.eventId ≠ "" ∧ event.actorId ≠ ""

end LarkLongConnection

/-- The runs of a long connection beside the routing loop and the orchestrator. -/
def larkConnectionSystem (environment : Environment) (loads : String → Option Json) :
    System LarkLongConnection LarkConnectionEvent where
  initial connection := ∃ capacity routing, 0 < capacity ∧
    (larkRoutingSystem environment).initial routing ∧ connection = .started capacity routing
  step before event after := before.step environment loads event = some after

/-! ## The queue of the loop -/

namespace LarkRouting

variable {environment : Environment} {routing next : LarkRouting}

/-- The loop gets no event from elsewhere, and loses none. -/
structure KeepsQueue (routing next : LarkRouting) : Prop where
  arrived : next.arrived = routing.arrived
  order : next.routed ++ next.events = routing.routed ++ routing.events
  length : next.events.length ≤ routing.events.length
  terminalError : next.terminalError = routing.terminalError

/-- A step that leaves the events and the error of the connection keeps its queue. -/
theorem keepsQueue_of_eq (arrived : next.arrived = routing.arrived)
    (routed : next.routed = routing.routed) (events : next.events = routing.events)
    (terminalError : next.terminalError = routing.terminalError) : KeepsQueue routing next where
  arrived := arrived
  order := by rw [routed, events]
  length := by rw [events]
  terminalError := terminalError

/-- Two steps that keep the queue keep it together. -/
theorem KeepsQueue.trans {middle : LarkRouting} (first : KeepsQueue routing middle)
    (second : KeepsQueue middle next) : KeepsQueue routing next where
  arrived := second.arrived.trans first.arrived
  order := second.order.trans first.order
  length := Nat.le_trans second.length first.length
  terminalError := second.terminalError.trans first.terminalError

/-- A resolution that ends leaves the queue. -/
theorem KeepsQueue.resolved (kept : KeepsQueue routing next) (interactionId : String) (task : Nat)
    (outcome : Except PyError Progress) :
    KeepsQueue routing (next.resolved interactionId task outcome) := by
  apply kept.trans
  unfold LarkRouting.resolved
  split
  all_goals exact keepsQueue_of_eq rfl rfl rfl rfl

/-- Routing an event leaves those that are still queued. -/
theorem keepsQueue_route (event : LarkControlEvent) :
    KeepsQueue routing (routing.route environment event) := by
  unfold route
  split
  next => exact keepsQueue_of_eq rfl rfl rfl rfl
  next =>
    dsimp only
    split
    · exact keepsQueue_of_eq rfl rfl rfl rfl
    · exact keepsQueue_of_eq rfl rfl rfl rfl
    · split
      · exact keepsQueue_of_eq rfl rfl rfl rfl
      · refine KeepsQueue.resolved ?_ _ _ _
        exact keepsQueue_of_eq rfl rfl rfl rfl

/-- A task of the orchestrator that goes on leaves the queue. -/
theorem keepsQueue_goOn (runtime : Runtime) (event : Event) :
    KeepsQueue routing (routing.goOn environment runtime event) := by
  unfold goOn
  split
  · split
    · split
      · refine KeepsQueue.resolved ?_ _ _ _
        exact keepsQueue_of_eq rfl rfl rfl rfl
      · exact keepsQueue_of_eq rfl rfl rfl rfl
    · exact keepsQueue_of_eq rfl rfl rfl rfl
  · exact keepsQueue_of_eq rfl rfl rfl rfl

/-- A step of the loop, or of the orchestrator, takes events only from the head of the queue. -/
theorem keepsQueue_step {event : LarkRoutingEvent}
    (inside : ∀ arriving, event ≠ .arrive arriving) (connected : ∀ error, event ≠ .disconnect error)
    (stepped : routing.step environment event = some next) : KeepsQueue routing next := by
  cases event with
  | arrive event => exact absurd rfl (inside event)
  | disconnect error => exact absurd rfl (connected error)
  | take =>
      simp only [step] at stepped
      split at stepped
      next event rest waiting queue idle =>
        cases stepped
        refine KeepsQueue.trans ?_ (keepsQueue_route event)
        refine ⟨rfl, ?_, ?_, rfl⟩
        · dsimp only
          rw [queue, List.append_assoc, List.singleton_append]
        · dsimp only
          rw [queue]
          exact Nat.le_succ _
      next => cases stepped
  | timeout =>
      simp only [step] at stepped
      split at stepped
      next =>
        cases stepped
        exact keepsQueue_of_eq rfl rfl rfl rfl
      next =>
        cases stepped
        exact keepsQueue_of_eq rfl rfl rfl rfl
      next => cases stepped
  | orchestrator event =>
      obtain ⟨runtime, _, rfl⟩ := Option.map_eq_some_iff.mp stepped
      exact keepsQueue_goOn runtime event

/-- An event that arrives is queued last. -/
theorem step_arrive {event : LarkControlEvent}
    (stepped : routing.step environment (.arrive event) = some next) :
    next = { routing with
      events := routing.events ++ [event], arrived := routing.arrived ++ [event] } := by
  simp only [step] at stepped
  split at stepped
  next => exact (Option.some.inj stepped).symm
  next => cases stepped

/-- An error of the pump is recorded, and ends what the loop can still get. -/
theorem step_disconnect {error : PyError}
    (stepped : routing.step environment (.disconnect error) = some next) :
    next = { routing with terminalError := some error } := by
  simp only [step] at stepped
  split at stepped
  next => exact (Option.some.inj stepped).symm
  next => cases stepped

end LarkRouting

/-! ## The order of the events -/

namespace LarkLongConnection

variable {environment : Environment} {loads : String → Option Json}
  {connection after : LarkLongConnection}

/-- What every step keeps. -/
structure Flows (loads : String → Option Json) (connection : LarkLongConnection) : Prop where
  queued : connection.routing.arrived = connection.routing.routed ++ connection.routing.events
  arrived : connection.routing.arrived <+: connection.accepted
  running : connection.pump ≠ .ended → connection.routing.terminalError = none ∧
    ∃ flight : List LarkControlEvent,
      connection.inFlight = flight.map (fun event => .obj event.payload) ∧
      connection.routing.arrived ++ flight <+: connection.accepted ∧
      (connection.alive → connection.routing.arrived ++ flight = connection.accepted)
  accepted : connection.accepted.Sublist (connection.offered loads)
  refused : connection.accepted.length + connection.refused = (connection.offered loads).length
  failed : ∀ error, connection.routing.terminalError = some error →
    error = ⟨.other "QueueFull", ""⟩ ∨
      error = runtimeError "Lark long-connection child stopped" ∧ connection.alive = false
  ended : connection.pump = .ended →
    connection.closed = true ∨ connection.routing.terminalError.isSome = true
  bounded : connection.routing.events.length ≤ connection.capacity ∧
    connection.pipe.length + connection.buffer.length ≤ connection.capacity

/-- A step of the loop moves no event but to `route`. -/
theorem Flows.routing (flows : connection.Flows loads) {next : LarkRouting}
    (keeps : connection.routing.KeepsQueue next) :
    ({ connection with routing := next }).Flows loads where
  queued := by
    dsimp only
    rw [keeps.arrived, keeps.order]
    exact flows.queued
  arrived := by
    dsimp only
    rw [keeps.arrived]
    exact flows.arrived
  running := by
    intro going
    obtain ⟨quiet, flight, between, begins, whole⟩ := flows.running going
    refine ⟨keeps.terminalError.trans quiet, flight, between, ?_, ?_⟩
    all_goals
      dsimp only
      rw [keeps.arrived]
      assumption
  accepted := flows.accepted
  refused := flows.refused
  failed := by
    dsimp only
    rw [keeps.terminalError]
    exact flows.failed
  ended := by
    dsimp only
    rw [keeps.terminalError]
    exact flows.ended
  bounded := ⟨Nat.le_trans keeps.length flows.bounded.1, flows.bounded.2⟩

/-- A callback in the child leaves the pump where it is. -/
theorem pump_call (callback : LarkCallback) :
    (connection.call loads callback).pump = connection.pump := by
  unfold call
  dsimp only
  split
  · rfl
  · split
    all_goals rfl

/-- A callback adds to what was offered the event that it is normalized to, if there is
one. -/
theorem offered_call (callback : LarkCallback) :
    (connection.call loads callback).offered loads =
      connection.offered loads ++ (callback.normalize loads).toOption.toList := by
  have called : (connection.call loads callback).callbacks =
      connection.callbacks ++ [callback] := by
    unfold call
    dsimp only
    split
    · rfl
    · split
      all_goals rfl
  unfold offered
  rw [called, List.filterMap_append, List.filterMap_cons, List.filterMap_nil]
  cases (callback.normalize loads).toOption <;> rfl

/-- A callback in a child that runs keeps the events flowing. -/
theorem Flows.call (flows : connection.Flows loads) (alive : connection.alive)
    (callback : LarkCallback) : (connection.call loads callback).Flows loads := by
  have offers := @offered_call loads connection callback
  unfold LarkLongConnection.call at offers ⊢
  cases normalized : callback.normalize loads with
  | error error =>
      simp only [normalized, Except.toOption, Option.toList_none, List.append_nil] at offers ⊢
      exact { flows with
        accepted := offers ▸ flows.accepted
        refused := offers ▸ flows.refused }
  | ok event =>
      simp only [normalized, Except.toOption, Option.toList_some] at offers ⊢
      by_cases full : connection.capacity ≤ connection.pipe.length + connection.buffer.length
      · rw [if_pos full] at offers ⊢
        exact { flows with
          accepted := by
            rw [offers]
            exact flows.accepted.trans (List.sublist_append_left _ _)
          refused := by
            rw [offers, List.length_append, List.length_singleton, ← flows.refused]
            exact (Nat.add_assoc _ _ _).symm }
      · rw [if_neg full] at offers ⊢
        constructor
        case queued => exact flows.queued
        case arrived => exact flows.arrived.trans (List.prefix_append _ _)
        case running =>
          intro going
          obtain ⟨quiet, flight, between, _, whole⟩ := flows.running going
          refine ⟨quiet, flight ++ [event], ?_, ?_, ?_⟩
          · unfold inFlight at between ⊢
            rw [← List.append_assoc, between, List.map_append, List.map_singleton]
          · dsimp only
            rw [← List.append_assoc, whole alive]
          · intro _
            dsimp only
            rw [← List.append_assoc, whole alive]
        case accepted =>
          rw [offers]
          exact flows.accepted.append (List.Sublist.refl _)
        case refused =>
          rw [offers, List.length_append, List.length_append, ← flows.refused]
          exact Nat.add_right_comm _ _ _
        case failed => exact flows.failed
        case ended => exact flows.ended
        case bounded =>
          refine ⟨flows.bounded.1, ?_⟩
          dsimp only
          rw [List.length_append, List.length_singleton]
          omega

/-- The child is gone, with what its feeder thread had not written. -/
theorem Flows.die (flows : connection.Flows loads) :
    ({ connection with alive := false, buffer := [] }).Flows loads where
  queued := flows.queued
  arrived := flows.arrived
  running := by
    intro going
    obtain ⟨quiet, flight, between, begins, _⟩ := flows.running going
    unfold inFlight at between
    obtain ⟨written, lost, rfl, written', lost'⟩ := List.map_eq_append_iff.mp between.symm
    refine ⟨quiet, written, ?_, ?_, ?_⟩
    · unfold inFlight
      rw [List.append_nil]
      exact written'.symm
    · refine List.IsPrefix.trans ?_ begins
      dsimp only
      rw [← List.append_assoc]
      exact List.prefix_append _ _
    · intro impossible
      cases impossible
  accepted := flows.accepted
  refused := flows.refused
  failed := fun error failing => by
    rcases flows.failed error failing with full | ⟨stopped, _⟩
    · exact Or.inl full
    · exact Or.inr ⟨stopped, rfl⟩
  ended := flows.ended
  bounded := ⟨flows.bounded.1, Nat.le_trans (Nat.le_add_right _ _) flows.bounded.2⟩

/-- Payloads move on between the child and the queue of events. -/
theorem Flows.moves (flows : connection.Flows loads) {pump : PumpPhase} {pipe buffer : List Json}
    (stays : pump = .ended ↔ connection.pump = .ended)
    (same : pump.taken? ++ pipe ++ buffer = connection.inFlight)
    (fewer : pipe.length + buffer.length ≤ connection.pipe.length + connection.buffer.length) :
    ({ connection with pump, pipe, buffer }).Flows loads where
  queued := flows.queued
  arrived := flows.arrived
  running := by
    intro going
    obtain ⟨quiet, flight, between, begins, whole⟩ := flows.running (mt stays.mpr going)
    exact ⟨quiet, flight, same.trans between, begins, whole⟩
  accepted := flows.accepted
  refused := flows.refused
  failed := flows.failed
  ended := fun gone => flows.ended (stays.mp gone)
  bounded := ⟨flows.bounded.1, Nat.le_trans fewer flows.bounded.2⟩

/-- `close` has ended the pump. -/
theorem Flows.ends (flows : connection.Flows loads) (closed : connection.closed = true) :
    ({ connection with pump := .ended }).Flows loads where
  queued := flows.queued
  arrived := flows.arrived
  running := fun going => absurd rfl going
  accepted := flows.accepted
  refused := flows.refused
  failed := flows.failed
  ended := fun _ => Or.inl closed
  bounded := flows.bounded

/-- A pump that fails ends with its reason, and what it left is still in order. -/
theorem Flows.failPump (flows : connection.Flows loads) {error : PyError}
    (reason : error = ⟨.other "QueueFull", ""⟩ ∨
      error = runtimeError "Lark long-connection child stopped" ∧ connection.alive = false)
    (failed : connection.failPump environment error = some after) : after.Flows loads := by
  obtain ⟨routing, disconnected, rfl⟩ := Option.map_eq_some_iff.mp failed
  rw [LarkRouting.step_disconnect disconnected]
  constructor
  case queued => exact flows.queued
  case arrived => exact flows.arrived
  case running => exact fun going => absurd rfl going
  case accepted => exact flows.accepted
  case refused => exact flows.refused
  case failed =>
    intro other same
    cases same
    exact reason
  case ended => exact fun _ => Or.inr rfl
  case bounded => exact flows.bounded

/-- The pump queues the payload that it has, which is one that the child put. -/
theorem Flows.put (flows : connection.Flows loads) {payload : Json}
    (taken : connection.pump = .taken payload)
    (puts : connection.put environment payload = some after) : after.Flows loads := by
  have going : connection.pump ≠ .ended := by
    rw [taken]
    exact PumpPhase.noConfusion
  obtain ⟨quiet, flight, between, begins, whole⟩ := flows.running going
  unfold inFlight at between
  rw [taken] at between
  cases flight with
  | nil => cases between
  | cons event flight =>
      simp only [PumpPhase.taken?, List.cons_append, List.map_cons,
        List.cons.injEq] at between
      obtain ⟨rfl, between⟩ := between
      obtain ⟨decoded, decodes, stands⟩ := decodeChildEvent_payload event
      unfold LarkLongConnection.put at puts
      simp only [decodes, stands] at puts
      split at puts
      next full => exact flows.failPump (Or.inl rfl) puts
      next room =>
        obtain ⟨routing, arrives, rfl⟩ := Option.map_eq_some_iff.mp puts
        rw [LarkRouting.step_arrive arrives]
        rw [List.append_cons] at begins whole
        constructor
        case queued =>
          dsimp only
          rw [flows.queued, List.append_assoc]
        case arrived => exact (List.prefix_append _ _).trans begins
        case running => exact fun _ => ⟨quiet, flight, between, begins, whole⟩
        case accepted => exact flows.accepted
        case refused => exact flows.refused
        case failed => exact flows.failed
        case ended =>
          intro impossible
          cases impossible
        case bounded =>
          refine ⟨?_, flows.bounded.2⟩
          dsimp only
          rw [List.length_append, List.length_singleton]
          omega

/-- Every event of the connection keeps the events flowing. -/
theorem Flows.step (flows : connection.Flows loads) {event : LarkConnectionEvent}
    (stepped : connection.step environment loads event = some after) : after.Flows loads := by
  cases event with
  | callback callback =>
      simp only [LarkLongConnection.step] at stepped
      split at stepped
      next alive =>
        cases stepped
        exact flows.call alive callback
      next => cases stepped
  | feed =>
      simp only [LarkLongConnection.step] at stepped
      split at stepped
      next payload rest alive put =>
        cases stepped
        refine flows.moves Iff.rfl ?_ ?_
        · unfold inFlight
          rw [put]
          simp only [List.append_assoc, List.singleton_append]
        · rw [put, List.length_append, List.length_cons, List.length_cons, List.length_nil]
          omega
      next => cases stepped
  | die =>
      cases stepped
      exact flows.die
  | take =>
      simp only [LarkLongConnection.step] at stepped
      split at stepped
      next payload rest polling waiting =>
        cases stepped
        refine flows.moves (PumpPhase.ended_iff polling PumpPhase.noConfusion PumpPhase.noConfusion)
          ?_ ?_
        · unfold inFlight
          rw [polling, waiting]
          rfl
        · rw [waiting, List.length_cons]
          omega
      next => cases stepped
  | timeout =>
      simp only [LarkLongConnection.step] at stepped
      split at stepped
      next polling empty =>
        cases stepped
        refine flows.moves (PumpPhase.ended_iff polling PumpPhase.noConfusion PumpPhase.noConfusion)
          ?_ (Nat.le_refl _)
        unfold inFlight
        rw [polling]
        rfl
      next => cases stepped
  | proceed =>
      simp only [LarkLongConnection.step] at stepped
      split at stepped
      next payload taken => exact flows.put taken stepped
      next timedOut =>
        split at stepped
        next =>
          cases stepped
          refine flows.moves (PumpPhase.ended_iff timedOut PumpPhase.noConfusion
            PumpPhase.noConfusion) ?_ (Nat.le_refl _)
          unfold inFlight
          rw [timedOut]
          rfl
        next gone =>
          exact flows.failPump (Or.inr ⟨rfl, Bool.not_eq_true _ ▸ gone⟩) stepped
      next => cases stepped
  | close =>
      simp only [LarkLongConnection.step] at stepped
      split at stepped
      next => cases stepped
      next =>
        cases stepped
        exact { flows with ended := fun _ => Or.inl rfl }
  | cancelPump =>
      simp only [LarkLongConnection.step] at stepped
      split at stepped
      next closed =>
        cases stepped
        exact flows.ends closed
      next => cases stepped
  | routing event =>
      simp only [LarkLongConnection.step] at stepped
      split at stepped
      next => cases stepped
      next => cases stepped
      next event inside connected =>
        obtain ⟨routing, ran, rfl⟩ := Option.map_eq_some_iff.mp stepped
        exact flows.routing (LarkRouting.keepsQueue_step inside connected ran)

/-- What the pump has taken out stands for an event. -/
theorem Flows.taken (flows : connection.Flows loads) {payload : Json}
    (taken : connection.pump = .taken payload) :
    ∃ event : LarkControlEvent, payload = .obj event.payload := by
  have going : connection.pump ≠ .ended := by
    rw [taken]
    exact PumpPhase.noConfusion
  obtain ⟨_, flight, between, _⟩ := flows.running going
  unfold inFlight at between
  rw [taken] at between
  cases flight with
  | nil => cases between
  | cons event flight => exact ⟨event, (List.cons.inj between).1⟩

/-- Only a closed connection, a full queue or a dead child ends the pump. -/
theorem Flows.stops (flows : connection.Flows loads) {event : LarkConnectionEvent}
    (stepped : connection.step environment loads event = some after)
    (ends : after.pump = .ended) :
    connection.pump = .ended ∨ connection.closed = true ∨
      connection.routing.events.length = connection.capacity ∨ connection.alive = false := by
  cases event with
  | callback callback =>
      simp only [LarkLongConnection.step] at stepped
      split at stepped
      next =>
        cases stepped
        rw [pump_call] at ends
        exact Or.inl ends
      next => cases stepped
  | die =>
      cases stepped
      exact Or.inl ends
  | proceed =>
      simp only [LarkLongConnection.step] at stepped
      split at stepped
      next payload taken =>
        obtain ⟨event, rfl⟩ := flows.taken taken
        obtain ⟨decoded, decodes, stands⟩ := decodeChildEvent_payload event
        unfold LarkLongConnection.put at stepped
        simp only [decodes, stands] at stepped
        split at stepped
        next full => exact Or.inr (Or.inr (Or.inl (Nat.le_antisymm flows.bounded.1 full)))
        next room =>
          obtain ⟨routing, _, rfl⟩ := Option.map_eq_some_iff.mp stepped
          cases ends
      next timedOut =>
        split at stepped
        next =>
          cases stepped
          cases ends
        next gone => exact Or.inr (Or.inr (Or.inr (Bool.not_eq_true _ ▸ gone)))
      next => cases stepped
  | cancelPump =>
      simp only [LarkLongConnection.step] at stepped
      split at stepped
      next closed => exact Or.inr (Or.inl closed)
      next => cases stepped
  | routing event =>
      simp only [LarkLongConnection.step] at stepped
      split at stepped
      next => cases stepped
      next => cases stepped
      next =>
        obtain ⟨routing, _, rfl⟩ := Option.map_eq_some_iff.mp stepped
        exact Or.inl ends
  | _ =>
      -- the pump goes on, or nothing of it changes
      simp only [LarkLongConnection.step] at stepped
      split at stepped
      all_goals
        cases stepped
      all_goals first
        | exact Or.inl ends
        | cases ends

/-- The child puts only events with names. -/
theorem Flows.named (flows : connection.Flows loads) {event : LarkControlEvent}
    (put : event ∈ connection.accepted) : event.eventId ≠ "" ∧ event.actorId ≠ "" := by
  obtain ⟨callback, _, normalized⟩ := List.mem_filterMap.mp (flows.accepted.subset put)
  apply @LarkCallback.normalize_named loads callback event
  cases normal : callback.normalize loads with
  | error error =>
      rw [normal] at normalized
      cases normalized
  | ok made =>
      rw [normal] at normalized
      cases normalized
      rfl

end LarkLongConnection

/-- In every run, whatever the child, the pump, the loop and the orchestrator do when, the loop gets
the events in the order in which the child put them. None is lost as long as the child and the pump
go on, and only a full queue, a dead child or `close` ends the pump. -/
theorem lark_events_in_order {environment : Environment} {loads : String → Option Json}
    {connection : LarkLongConnection}
    (reachable : (larkConnectionSystem environment loads).Reachable connection) :
    connection.InOrder environment loads := by
  have flows : connection.Flows loads := by
    refine reachable.invariant (LarkLongConnection.Flows loads) ?_ ?_
    · rintro _ ⟨capacity, _, positive, ⟨store, dedupe, rfl⟩, rfl⟩
      constructor
      case queued => rfl
      case arrived => exact List.prefix_refl _
      case running =>
        intro _
        exact ⟨rfl, [], rfl, List.prefix_refl _, fun _ => rfl⟩
      case accepted => exact List.Sublist.refl _
      case refused => rfl
      case failed =>
        intro error impossible
        cases impossible
      case ended =>
        intro impossible
        cases impossible
      case bounded => exact ⟨Nat.zero_le _, Nat.zero_le _⟩
    · exact fun _ _ _ held _ stepped => held.step stepped
  constructor
  case accepted => exact flows.accepted
  case refused => exact flows.refused
  case routed =>
    rw [← flows.queued]
    exact flows.arrived
  case kept =>
    intro going alive
    obtain ⟨_, flight, between, _, whole⟩ := flows.running going
    refine ⟨flight, between, ?_⟩
    rw [← flows.queued]
    exact whole alive
  case failed => exact flows.failed
  case ended => exact flows.ended
  case stops => exact fun _ _ => flows.stops
  case bounded => exact flows.bounded
  case named =>
    intro event member
    rw [← flows.queued] at member
    exact flows.named (flows.arrived.subset member)

/-- A reaction that the child handles. -/
def thumbsUp (eventId : String) : LarkCallback :=
  .onReaction ⟨some eventId, some "om-1", some "THUMBSUP", some ⟨some "actor", none⟩⟩

/-- The child handles two reactions while there is room for one, and dies when the first was
routed: the second is refused, and the pump ends. -/
theorem second_reaction_refused :
    ∃ connection, (connection.routing.routed =
        [.reaction ⟨"event-1", "om-1", "actor", "THUMBSUP"⟩] ∧ connection.refused = 1 ∧
      connection.routing.terminalError =
        some (runtimeError "Lark long-connection child stopped")) ∧
      LarkLongConnection.InOrder tickingEnvironment (fun _ => none) connection := by
  have reached : ∃ connection, (larkConnectionSystem tickingEnvironment fun _ => none).Reachable
      connection ∧ (connection.routing.routed =
        [.reaction ⟨"event-1", "om-1", "actor", "THUMBSUP"⟩] ∧ connection.refused = 1 ∧
      connection.routing.terminalError =
        some (runtimeError "Lark long-connection child stopped")) := by
    have followed : (System.follow (LarkLongConnection.step tickingEnvironment fun _ => none)
        (fun _ _ => true) (.started 1 (.started startedRuntime ∅))
        [.callback (thumbsUp "event-1"), .callback (thumbsUp "event-2"), .feed, .take, .proceed,
          .routing .take, .timeout, .die, .proceed]).any fun connection =>
        connection.routing.routed = [.reaction ⟨"event-1", "om-1", "actor", "THUMBSUP"⟩] ∧
          connection.refused = 1 ∧ connection.routing.terminalError =
            some (runtimeError "Lark long-connection child stopped") := by
      decide
    obtain ⟨connection, follows, holds⟩ := (Option.any_eq_true _ _).mp followed
    exact ⟨connection, ⟨_, ⟨1, _, Nat.one_pos, ⟨_, ∅, rfl⟩, rfl⟩,
      System.reachesVia_of_follow (fun _ _ _ stepped => stepped) (fun _ _ _ => trivial) follows⟩,
      of_decide_eq_true holds⟩
  obtain ⟨connection, reachable, ended⟩ := reached
  exact ⟨connection, ended, lark_events_in_order reachable⟩

end LarkBot
