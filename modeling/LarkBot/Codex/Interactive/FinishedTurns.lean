import LarkBot.Codex.Interactive.Hosting
import LarkBot.Codex.Orchestrator.InteractionRows

/-! # Finished turns

A gateway stamps a request with the turn that is active when the request arrives; the
orchestrator compares the stamp with the row of the session when the callback runs. The
row of a session leaves a turn when the turn completes, and only another start of the
same turn brings it back. So whenever a request of a finished turn is looked at, it is
refused (`LarkBot.finished_turn_stays_finished`). A request that names a turn of its own
is not stamped: it belongs to the turn that it names.
-/

namespace LarkBot

open Foundation

/-- The notification that an event brings to the orchestrator. -/
def ManagerEvent.notification : ManagerEvent → Option ServerNotification
  | .gateway _ (.upstream rawMessage _) _ => (parseMessage rawMessage).bind observedNotification
  | .call (.consumeNotification notification) => some notification
  | _ => none

/-- The event brings a notification of this method about this turn. -/
def ManagerEvent.Announces (method turnId : String) (event : ManagerEvent) : Prop :=
  ∃ notification threadId, event.notification = some notification ∧
    notification.method = method ∧ namedTurn notification.params = some (threadId, turnId)

/-- `ManagerEvent.Announces`, decided. -/
def ManagerEvent.announces (method turnId : String) (event : ManagerEvent) : Bool :=
  event.notification.any fun notification => notification.method == method &&
    (namedTurn notification.params).any fun named => named.2 == turnId

/-- The check of an event says whether it announces the turn. -/
theorem ManagerEvent.announces_iff {method turnId : String} {event : ManagerEvent} :
    event.announces method turnId ↔ event.Announces method turnId := by
  unfold announces Announces
  simp only [Option.any_eq_true, Bool.and_eq_true, beq_iff_eq]
  constructor
  · rintro ⟨notification, brought, sameMethod, ⟨threadId, _⟩, named, rfl⟩
    exact ⟨notification, threadId, brought, sameMethod, named⟩
  · rintro ⟨notification, threadId, brought, sameMethod, named⟩
    exact ⟨notification, brought, sameMethod, (threadId, turnId), named, rfl⟩

/-- How the request arrived that an event offers to the orchestrator. -/
def InteractiveManager.brings (manager : InteractiveManager) : ManagerEvent → Option Arrival
  | .gateway sessionId (.startCallback callback) _ =>
      (manager.gateways.get? sessionId).bind fun gateway => gateway.intake.created.get? callback
  | .call (.consumeRequest request) => some ⟨request, none⟩
  | _ => none

/-- The request carries the turn id, or it arrived without one while that turn was active. -/
def Arrival.BelongsTo (turnId : String) (arrival : Arrival) : Prop :=
  dictGet arrival.request.params "turnId" = some (.str turnId) ∨
    hasKey arrival.request.params "turnId" = false ∧ arrival.activeTurn = some turnId

instance (turnId : String) (arrival : Arrival) : Decidable (arrival.BelongsTo turnId) :=
  inferInstanceAs (Decidable (_ ∨ _))

/-- The request carries the turn id, or it arrived while that turn was active. -/
def Arrival.CarriedOrArrivedIn (turnId : String) (arrival : Arrival) : Prop :=
  dictGet arrival.request.params "turnId" = some (.str turnId) ∨ arrival.activeTurn = some turnId

instance (turnId : String) (arrival : Arrival) :
    Decidable (arrival.CarriedOrArrivedIn turnId) :=
  inferInstanceAs (Decidable (_ ∨ _))

section Specification

variable (environment : Environment)

/-- `turn/completed` of the current turn of an interactive session is applied. -/
structure FinishesTurn (before : InteractiveManager) (event : ManagerEvent)
    (after : InteractiveManager) (sessionId turnId : String) : Prop where
  stepped : before.step environment event = some after
  completes : event.Announces "turn/completed" turnId
  interactive : sessionId ∈ before.runtime.orchestrator.interactiveSessions
  current : before.runtime.orchestrator.store.tables.IsInTurn sessionId turnId
  applied : ¬ after.runtime.orchestrator.store.tables.IsInTurn sessionId turnId

/-- What waited for the session when its turn was finished is cancelled, and no request
of the turn becomes an interaction of the session. -/
structure StaysFinished (ofTurn : Arrival → Prop) (sessionId : String)
    (before current : InteractiveManager) : Prop where
  cancelled : ∀ row ∈ before.runtime.orchestrator.store.tables.interactions, row.isPending →
    row.sessionId = sessionId →
    ∃ settled ∈ current.runtime.orchestrator.store.tables.interactions,
      settled.id = row.id ∧ settled.status = .cancelled
  created : ∀ event next, current.step environment event = some next →
    ∀ row ∈ next.runtime.orchestrator.store.tables.interactions, row.sessionId = sessionId →
    (∀ old ∈ current.runtime.orchestrator.store.tables.interactions, old.id ≠ row.id) →
    ∃ arrival, current.brings event = some arrival ∧ ¬ ofTurn arrival

end Specification

/-- A request is offered with the turn that it belongs to. -/
theorem Arrival.BelongsTo.stamped {arrival : Arrival} {turnId : String}
    (belongs : arrival.BelongsTo turnId) :
    dictGet arrival.stamped.params "turnId" = some (.str turnId) := by
  unfold Arrival.stamped
  rcases belongs with carried | ⟨unnamed, active⟩
  · have named : hasKey arrival.request.params "turnId" = true := by
      unfold hasKey
      rw [carried]
      rfl
    rw [if_pos named]
    exact carried
  · rw [if_neg (Bool.not_eq_true _ |>.mpr unnamed), active]
    have absent : dictGet arrival.request.params "turnId" = none :=
      Option.not_isSome_iff_eq_none.mp (Bool.not_eq_true _ |>.mpr unnamed)
    unfold dictGet at absent ⊢
    rw [List.find?_append, Option.map_eq_none_iff.mp absent]
    rfl

/-- A request that finds a session finds a stored one. -/
theorem requestSession_mem {tables : CodexTables} {request : ServerRequest}
    {sessionId : Option String} {session : CodexSession}
    (found : requestSession tables request sessionId = some session) :
    session ∈ tables.sessions := by
  cases sessionId with
  | some sessionId => exact (requestSession_id found).1
  | none =>
      unfold requestSession at found
      dsimp only at found
      split at found
      next =>
        split at found
        next => exact List.mem_of_find?_eq_some found
        next => cases found
      next => cases found

/-- A turn and its thread, as both components read them. -/
theorem namedTurn_of_fields {params : JsonObject} {threadId turnId : String}
    (thread : textField params "threadId" = some threadId)
    (turn : (turnOf params).bind (textField · "id") = some turnId) :
    namedTurn params = some (threadId, turnId) := by
  have text {object : JsonObject} {key value : String} (read : textField object key = some value) :
      dictGet object key = some (.str value) := by
    unfold textField at read
    split at read
    next found => exact Option.some.inj read ▸ found
    next => cases read
  obtain ⟨object, found, named⟩ := Option.bind_eq_some_iff.mp turn
  unfold turnOf at found
  split at found
  next located =>
    cases found
    unfold namedTurn
    rw [text thread, located]
    dsimp only
    rw [text named]
  next => cases found

section Turns

/-- The action brings the session into the turn. -/
def CoreAction.Enters (sessionId turnId : String) : CoreAction → Prop
  | .updateSession updated update _ => updated = sessionId ∧ update.turnId = some (some turnId)
  | _ => False

variable {core : Core} {action : CoreAction} {sessionId turnId : String}

/-- Only an action that brings a session into the turn does. -/
theorem Core.left_perform (left : ¬ core.tables.IsInTurn sessionId turnId)
    (wellFormed : action.WellFormed) (elsewhere : ¬ action.Enters sessionId turnId) :
    ¬ (core.perform action).tables.IsInTurn sessionId turnId := by
  rintro ⟨session, member, same, turn⟩
  cases core.sessionFrom_of_perform action member with
  | created session =>
      have absent : session.turnId = none := wellFormed.turnId_eq
      rw [absent] at turn
      cases turn
  | kept session old => exact left ⟨session, old, same, turn⟩
  | @updated updated update updatedAt old oldMem own expected =>
      cases written : update.turnId with
      | none =>
          simp only [written, Option.getD_none] at turn
          exact left ⟨old, oldMem, same, turn⟩
      | some next =>
          simp only [written, Option.getD_some] at turn
          exact elsewhere ⟨own.symm.trans same, turn ▸ written⟩
  | rewritten old next oldMem active sameId sameThread sameTurn =>
      rcases sameTurn with sameTurn | absent
      · exact left ⟨old, oldMem, sameId.symm.trans same, sameTurn.symm.trans turn⟩
      · rw [absent] at turn
        cases turn

variable {self : CodexOrchestrator} {request : ServerRequest} {target : Option String}
  {session : CodexSession} {kind : InteractionKind}

/-- A session that left a turn takes no request that carries it. -/
theorem carriesNot_of_admissible (admissible : Admissible self request target session kind)
    (hosted : session.id ∈ self.interactiveSessions ∨ self.store.tables.Ended session.id)
    (left : ¬ self.store.tables.IsInTurn session.id turnId) :
    dictGet request.params "turnId" ≠ some (.str turnId) := by
  intro carried
  have stored := requestSession_mem admissible.session_eq
  rcases hosted with hosted | ⟨ended, endedMem, same, terminal⟩
  · have current := admissible.currentTurn
    unfold inactiveTurn at current
    rw [carried] at current
    simp only [hosted, decide_true, Bool.true_and, Bool.not_eq_false', beq_iff_eq] at current
    exact left ⟨session, stored, rfl, current.symm⟩
  · obtain rfl := CodexTables.session_unique endedMem stored same
    rw [SessionStatus.isTerminal_eq_not_isActive, admissible.isActive] at terminal
    cases terminal

/-- A session that is closed has ended. -/
theorem closeInteractiveSession_ends {environment : Environment}
    (stored : self.store.tables.Stores sessionId) :
    (closeInteractiveSession environment sessionId).Ends self
      fun after _ => after.store.tables.Ended sessionId := by
  obtain ⟨session, member, same⟩ := stored
  have found := CodexTables.getSession_eq_some.mpr ⟨member, same⟩
  unfold closeInteractiveSession
  simp only [Code.ends_modify_bind, ends_getSession_bind, found]
  have terminal (inactive : session.status.isActive = false) :
      self.store.tables.Ended sessionId := by
    refine ⟨session, member, same, ?_⟩
    rw [SessionStatus.isTerminal_eq_not_isActive, inactive]
    rfl
  split
  next inactive => exact terminal ((Bool.not_eq_true' _).mp inactive)
  next =>
    simp only [ends_utcNow_bind, ends_storeOrRaise_bind]
    split
    next ids tables done =>
      cases ids with
      | none =>
          obtain ⟨rfl, inactive⟩ := CodexTables.claimSessionTerminal_none done
          exact terminal (inactive session member same)
      | some ids =>
          have ended := CodexTables.claimSessionTerminal_ended done
          simp only [Code.ends_modify_bind]
          have kept (middle : CodexOrchestrator) (sameCore : middle.core = CodexOrchestrator.core
              { self.commitTables tables with
                interactiveSessions := self.interactiveSessions.erase sessionId
                live := dropLiveForSession sessionId self.live }) :
              middle.store.tables.Ended sessionId := by
            have sameTables : middle.store.tables = tables := congrArg Core.tables sameCore
            exact sameTables ▸ ended
          exact ends_emit_bind (fun middle _ sameCore => kept middle sameCore) kept
    next error raised =>
      exact absurd raised (CodexTables.claimSessionTerminal_ne_error rfl (Or.inr rfl))

end Turns

section Parts

variable {environment : Environment} {manager : InteractiveManager} {event : ManagerEvent}
  {parts after : Parts} {move : PartStep} {sessionId turnId : String}

/-- No part of the manager lets a session go. -/
theorem Parts.keys_moves (hosted : sessionId ∈ parts.gateways.keys)
    (moves : parts.Moves environment move after) : sessionId ∈ after.gateways.keys := by
  cases moves with
  | create => exact keys_openGateway hosted
  | runtime => exact hosted
  | gateway _ _ _ _ found => exact (Parts.keys_set found sessionId).mpr hosted

/-- The orchestrator persists over every step of the parts. -/
theorem Parts.persists_moves (moves : parts.Moves environment move after) :
    parts.runtime.orchestrator.store.tables.Persists after.runtime.orchestrator.store.tables := by
  cases moves with
  | create _ _ _ _ next stepped => exact Core.persists_of_reachesVia (Runtime.step_moves stepped)
  | runtime event next stepped => exact Core.persists_of_reachesVia (Runtime.step_moves stepped)
  | gateway => exact .refl _

/-- A notification is not a response. -/
theorem ManagerEvent.notification_of_responds {rawMessage : RawMessage} {answers : Option Nat}
    {error : PyError} {message : JsonObject} {responseId : RequestId}
    (parsed : parseMessage rawMessage = some message)
    (responds : responseIdOf message = some responseId) :
    (ManagerEvent.gateway sessionId (.upstream rawMessage answers) error).notification = none := by
  simp only [notification, parsed, Option.bind_some]
  exact Gateway.observedNotification_of_response responds

/-- A handler that goes on does nothing to a hosted session but end it. -/
theorem Parts.ends_of_reply (hosting : parts.Hosting) (hosted : sessionId ∈ parts.gateways.keys)
    {task : Nat} {reply : Reply} {core : Core} {action : CoreAction}
    (performs : parts.runtime.Performs environment (.reply task reply) core action) :
    action.Ends sessionId := by
  obtain ⟨suspended, found, performs⟩ := performs
  have apart (started : String) (starts : suspended.frame.starting = some started) :
      started ≠ sessionId := by
    rintro rfl
    exact (hosting.starting (task, suspended) (Dict.get?_eq_some.mp found) started starts).2 hosted
  generalize suspended.frame = frame at performs apart
  cases performs with
  | startThread => exact apart _ rfl
  | recordTurn => exact apart _ rfl
  | _ => trivial

/-- The completion of a turn only ends turns and sessions. -/
theorem Parts.ends_of_completes (hosting : parts.Hosting)
    (hosted : sessionId ∈ parts.gateways.keys) {runtimeEvent : Event}
    (completes : event.Announces "turn/completed" turnId)
    (causes : event.Causes manager parts (.runtime runtimeEvent)) {core : Core}
    {action : CoreAction} (performs : parts.runtime.Performs environment runtimeEvent core action) :
    action.Ends sessionId := by
  obtain ⟨notification, threadId, brought, method, _⟩ := completes
  have ends (performs : notification.Performs parts.runtime.orchestrator core action) :
      action.Ends sessionId := by
    cases performs with
    | cancel _ _ _ resolved => exact absurd (method.symm.trans resolved) (by decide)
    | recordTurn _ _ _ started => exact absurd (method.symm.trans started) (by decide)
    | _ => trivial
  cases causes with
  | call call outside =>
      cases call with
      | consumeNotification consumed =>
          cases brought
          cases performs with
          | consumeNotification _ _ performs => exact ends performs
          | notificationsFailed => trivial
      | _ => cases brought
  | reply | proceed | offer | resolve => cases brought
  | notify message observed _ same parsed notifies =>
      simp only [ManagerEvent.notification, parsed, Option.bind_some] at brought
      obtain rfl := Option.some.inj (notifies.symm.trans brought)
      cases performs with
      | notify _ _ performs => exact ends performs
  | bind message responseId threadId _ _ _ same parsed responds =>
      rw [ManagerEvent.notification_of_responds parsed responds] at brought
      cases brought
  | resume => exact ends_of_reply hosting hosted performs

/-- Only a start of the turn brings a hosted session into it. -/
theorem Parts.enters_of_causes (hosting : parts.Hosting)
    (hosted : sessionId ∈ parts.gateways.keys) {runtimeEvent : Event}
    (silent : ¬ event.Announces "turn/started" turnId)
    (causes : event.Causes manager parts (.runtime runtimeEvent)) {core : Core}
    {action : CoreAction} (performs : parts.runtime.Performs environment runtimeEvent core action) :
    ¬ action.Enters sessionId turnId := by
  have ended (ends : action.Ends sessionId) : ¬ action.Enters sessionId turnId := by
    cases action with
    | updateSession updated update updatedAt => exact fun enters => ends enters.1
    | _ => exact fun enters => enters
  have announced {notification : ServerNotification} (brought : event.notification =
      some notification) (performs : notification.Performs parts.runtime.orchestrator core action) :
      ¬ action.Enters sessionId turnId := by
    cases performs with
    | recordTurn session recorded updatedAt started starts =>
        rintro ⟨_, same⟩
        obtain rfl : recorded = turnId := Option.some.inj (Option.some.inj same)
        obtain ⟨threadId, thread, _⟩ := starts.session_eq
        refine silent ⟨notification, threadId, brought, started, ?_⟩
        exact namedTurn_of_fields thread starts.turn_eq
    | _ => exact fun enters => enters
  cases causes with
  | call call outside =>
      cases performs with
      | bindInteractiveThread => cases outside
      | notify => cases outside
      | consumeNotification _ _ performs => exact announced rfl performs
      | _ => exact fun enters => enters
  | reply | resume => exact ended (ends_of_reply hosting hosted performs)
  | proceed =>
      obtain ⟨_, _, _, performs⟩ := performs
      cases performs <;> exact fun enters => enters
  | notify message observed _ same parsed notifies =>
      cases performs with
      | notify _ _ performs =>
          refine announced ?_ performs
          simp only [ManagerEvent.notification, parsed, Option.bind_some, notifies]
  | bind message responseId threadId _ _ _ same parsed responds =>
      cases performs with
      | bindInteractiveThread =>
          rintro ⟨_, same⟩
          cases same
  | offer | resolve =>
      cases performs
      exact fun enters => enters

/-- A session that was hosted left the turn, and is still interactive or has ended. -/
structure Parts.Left (sessionId turnId : String) (parts : Parts) : Prop where
  hosted : sessionId ∈ parts.gateways.keys
  left : ¬ parts.runtime.orchestrator.store.tables.IsInTurn sessionId turnId
  interactive : sessionId ∈ parts.runtime.orchestrator.interactiveSessions ∨
    parts.runtime.orchestrator.store.tables.Ended sessionId

/-- A step of the orchestrator leaves a session interactive, or ends it. -/
theorem interactive_of_runtime {runtime next : Runtime} {runtimeEvent : Event}
    (stored : runtime.orchestrator.store.tables.Stores sessionId)
    (interactive : sessionId ∈ runtime.orchestrator.interactiveSessions ∨
      runtime.orchestrator.store.tables.Ended sessionId)
    (stepped : runtime.step environment runtimeEvent = some next) :
    sessionId ∈ next.orchestrator.interactiveSessions ∨
      next.orchestrator.store.tables.Ended sessionId := by
  have persists := Core.persists_of_reachesVia (Runtime.step_moves stepped)
  rcases interactive with hosted | ended
  · by_cases closes : runtimeEvent.Closes sessionId
    · right
      cases runtimeEvent with
      | call call =>
          cases call with
          | closeInteractiveSession closed =>
              obtain rfl : closed = sessionId := closes
              obtain ⟨task, code, base, runs, rfl⟩ := Runtime.runs_of_step stepped
              cases runs
              rw [Runtime.settle_orchestrator]
              exact closeInteractiveSession_ends stored
          | _ => exact False.elim closes
      | _ => exact False.elim closes
    · exact Or.inl (interactive_kept stepped closes hosted)
  · exact Or.inr (persists.ended sessionId ended)

/-- A hosted session stays interactive until it has ended. -/
theorem Parts.interactive_moves (hosting : parts.Hosting) (hosted : sessionId ∈ parts.gateways.keys)
    (interactive : sessionId ∈ parts.runtime.orchestrator.interactiveSessions ∨
      parts.runtime.orchestrator.store.tables.Ended sessionId)
    (moves : parts.Moves environment move after) :
    sessionId ∈ after.runtime.orchestrator.interactiveSessions ∨
      after.runtime.orchestrator.store.tables.Ended sessionId := by
  have stored := hosting.stored sessionId hosted
  cases moves with
  | create _ _ _ _ next stepped => exact interactive_of_runtime stored interactive stepped
  | runtime runtimeEvent next stepped => exact interactive_of_runtime stored interactive stepped
  | gateway => exact interactive

/-- A turn that was left stays so until another start of it is announced. -/
theorem Parts.Left.moves (held : parts.Left sessionId turnId) (hosting : parts.Hosting)
    (silent : ¬ event.Announces "turn/started" turnId)
    (causes : event.Causes manager parts move) (moves : parts.Moves environment move after) :
    after.Left sessionId turnId := by
  have leaves {runtimeEvent : Event} {next : Runtime}
      (stepped : parts.runtime.step environment runtimeEvent = some next)
      (elsewhere : ∀ core action, parts.runtime.Performs environment runtimeEvent core action →
        ¬ action.Enters sessionId turnId) :
      ¬ next.orchestrator.store.tables.IsInTurn sessionId turnId := by
    refine (Runtime.step_moves stepped).invariant
      (fun core => ¬ core.tables.IsInTurn sessionId turnId) held.left ?_
    rintro core action _ left performs rfl
    exact Core.left_perform left (Runtime.performs_wellFormed performs)
      (elsewhere core action performs)
  refine ⟨Parts.keys_moves held.hosted moves, ?_,
    Parts.interactive_moves hosting held.hosted held.interactive moves⟩
  cases moves with
  | create name cwd model sandbox next stepped =>
      apply leaves stepped
      intro core action performs
      cases performs <;> exact fun enters => enters
  | runtime runtimeEvent next stepped =>
      exact leaves stepped fun core action performs =>
        Parts.enters_of_causes hosting held.hosted silent causes performs
  | gateway => exact held.left

/-- What an event admits for a session that left a turn was not brought by a request of
the turn. -/
theorem brings_of_admits (reachable : (partsSystem environment).ReachableVia Parts.Manages
      manager.parts) (held : manager.parts.Left sessionId turnId) {runtimeEvent : Event}
    (causes : event.Causes manager parts (.runtime runtimeEvent)) {core : Core}
    {live : LiveInteraction} {status : SessionStatus} {updatedAt : Instant}
    (performs : parts.runtime.Performs environment runtimeEvent core
      (.admitInteraction live status updatedAt)) (own : live.interaction.sessionId = sessionId) :
    ∃ arrival, manager.brings event = some arrival ∧ ¬ arrival.BelongsTo turnId := by
  cases causes with
  | call call outside =>
      cases performs with
      | admitInteraction => cases outside
      | @consume request session kind _ admissible =>
          obtain rfl : session.id = sessionId := own
          refine ⟨⟨request, none⟩, rfl, fun belongs => ?_⟩
          apply carriesNot_of_admissible admissible held.interactive held.left
          exact belongs.resolve_right fun arrived => by cases arrived.2
      | notify _ _ performs | consumeNotification _ _ performs => cases performs
  | @offer target callback error gateway request _ same found waits =>
      cases performs with
      | admitInteraction session kind _ admissible =>
          have sameSession := (requestSession_id admissible.session_eq).2
          obtain rfl : session.id = sessionId := own
          obtain ⟨arrival, created, rfl⟩ := (Gateway.reachable_stamps rfl
            (parts_gateway reachable _ (Dict.get?_eq_some.mp found))).created callback _
              (Dict.get?_eq_some.mp waits)
          refine ⟨arrival, ?_, fun belongs => ?_⟩
          · simp only [InteractiveManager.brings, found, Option.bind_some, created]
          · rw [same] at admissible
            exact carriesNot_of_admissible admissible held.interactive held.left belongs.stamped
  | notify =>
      cases performs with
      | notify _ _ performs => cases performs
  | reply | resume =>
      obtain ⟨⟨_, frame⟩, _, performs⟩ := performs
      cases performs
  | proceed =>
      obtain ⟨_, _, _, performs⟩ := performs
      cases performs
  | bind | resolve => cases performs

/-- While a turn ends, its session is in the turn until nothing waits for it, and no
decision is recorded. -/
structure Core.Finishing (start : CodexTables) (sessionId turnId : String) (core : Core) :
    Prop where
  inTurn : core.InTurn sessionId turnId
  kept : ∀ row ∈ start.interactions, ∃ next ∈ core.tables.interactions,
    next.id = row.id ∧ next.sessionId = row.sessionId
  decided : ∀ row ∈ core.tables.interactions, row.IsDecided → row ∈ start.interactions

/-- An action that may end a session leaves its turn ending: every row is kept and no
decision is recorded. -/
theorem Core.Finishing.perform {start : CodexTables} {core : Core} {action : CoreAction}
    (finishing : core.Finishing start sessionId turnId) (wellFormed : action.WellFormed)
    (ends : action.Ends sessionId) : (core.perform action).Finishing start sessionId turnId := by
  obtain ⟨_, settling⟩ := core.perform_settling action
  refine ⟨finishing.inTurn.perform ends, fun row member => ?_, fun row member decided => ?_⟩
  · obtain ⟨middle, middleMem, sameId, sameOwner⟩ := finishing.kept row member
    obtain ⟨next, nextMem, step⟩ := settling.step middle middleMem
    exact ⟨next, nextMem, step.id_eq.trans sameId, step.sessionId_eq.trans sameOwner⟩
  · rcases Core.decided_of_perform wellFormed member decided with old | claims
    · exact finishing.decided row old decided
    · rw [ends.claims] at claims
      cases claims

/-- The completion of a turn cancels what waits for the session. -/
theorem cancelled_of_finishes {before next : InteractiveManager}
    (reachable : (partsSystem environment).ReachableVia Parts.Manages before.parts)
    (finishes : FinishesTurn environment before event next sessionId turnId)
    {row : PendingInteraction}
    (member : row ∈ before.runtime.orchestrator.store.tables.interactions)
    (pending : row.isPending) (owner : row.sessionId = sessionId) :
    ∃ settled ∈ next.runtime.orchestrator.store.tables.interactions,
      settled.id = row.id ∧ settled.status = .cancelled := by
  have hosted := (reachable_hosting reachable fun _ _ manages => manages).hosted sessionId
    finishes.interactive
  have finishing : (partsSystem environment).ReachableVia Parts.Manages next.parts ∧
      sessionId ∈ next.parts.gateways.keys ∧ next.parts.runtime.orchestrator.core.Finishing
        before.runtime.orchestrator.store.tables sessionId turnId := by
    refine (InteractiveManager.step_moves finishes.stepped).invariant
      (fun parts => (partsSystem environment).ReachableVia Parts.Manages parts ∧
        sessionId ∈ parts.gateways.keys ∧ parts.runtime.orchestrator.core.Finishing
          before.runtime.orchestrator.store.tables sessionId turnId) ?_ ?_
    · exact ⟨reachable, hosted, Or.inl finishes.current, fun row member => ⟨row, member, rfl, rfl⟩,
        fun row member _ => member⟩
    · rintro parts move after ⟨⟨source, started, reached⟩, keys, finishing⟩ causes moves
      have manages := Parts.manages_of_causes causes
      refine ⟨⟨source, started, .step move reached manages moves⟩, Parts.keys_moves keys moves, ?_⟩
      have hosting := reachable_hosting ⟨source, started, reached⟩ fun _ _ manages => manages
      cases moves with
      | create name cwd model sandbox created stepped =>
          obtain ⟨_, _, brought, _⟩ := finishes.completes
          cases causes
          cases brought
      | runtime runtimeEvent after stepped =>
          refine (Runtime.step_moves stepped).invariant (fun core => core.Finishing
            before.runtime.orchestrator.store.tables sessionId turnId) finishing ?_
          rintro core action _ held performs rfl
          exact held.perform (Runtime.performs_wellFormed performs)
            (Parts.ends_of_completes hosting keys finishes.completes causes performs)
      | gateway => exact finishing
  obtain ⟨_, _, finished⟩ := finishing
  obtain ⟨settled, settledMem, sameId, sameOwner⟩ := finished.kept row member
  have quiet := finished.inTurn.resolve_left finishes.applied
  refine ⟨settled, settledMem, sameId, ?_⟩
  have undecided : ¬ settled.IsDecided := by
    intro decided
    obtain rfl := CodexTables.interaction_unique (finished.decided settled settledMem decided)
      member
      sameId
    rw [decided.isPending] at pending
    cases pending
  have waits : ¬ settled.isPending := fun waiting =>
    quiet settled settledMem waiting (sameOwner.trans owner)
  cases status : settled.status with
  | pending => exact absurd (beq_iff_eq.mpr status) waits
  | resolved => exact absurd (Or.inl status) undecided
  | expired => exact absurd (Or.inr status) undecided
  | cancelled => rfl

end Parts

section FinishedTurns

variable {environment : Environment} {before done current : InteractiveManager}
  {event : ManagerEvent} {sessionId turnId : String}

/-- The manager is reachable, part by part. -/
theorem parts_of_reachable {allowed : InteractiveManager → ManagerEvent → Prop}
    (reachable : (managerSystem environment).ReachableVia allowed before) :
    (partsSystem environment).ReachableVia Parts.Manages before.parts :=
  reachable_parts reachable fun _ _ _ _ _ causes => Parts.manages_of_causes causes

/-- A session with a gateway keeps it, and stays interactive until it has ended. -/
theorem hosted_of_step
    (reachable : (partsSystem environment).ReachableVia Parts.Manages before.parts)
    (hosted : sessionId ∈ before.parts.gateways.keys)
    (interactive : sessionId ∈ before.parts.runtime.orchestrator.interactiveSessions ∨
      before.parts.runtime.orchestrator.store.tables.Ended sessionId)
    (stepped : before.step environment event = some done) :
    (partsSystem environment).ReachableVia Parts.Manages done.parts ∧
      sessionId ∈ done.parts.gateways.keys ∧
        (sessionId ∈ done.parts.runtime.orchestrator.interactiveSessions ∨
          done.parts.runtime.orchestrator.store.tables.Ended sessionId) := by
  refine (InteractiveManager.step_moves stepped).invariant (fun parts =>
    (partsSystem environment).ReachableVia Parts.Manages parts ∧ sessionId ∈ parts.gateways.keys ∧
      (sessionId ∈ parts.runtime.orchestrator.interactiveSessions ∨
        parts.runtime.orchestrator.store.tables.Ended sessionId))
    ⟨reachable, hosted, interactive⟩ ?_
  rintro parts move next ⟨⟨source, started, reached⟩, keys, held⟩ causes moves
  have hosting := reachable_hosting ⟨source, started, reached⟩ fun _ _ manages => manages
  exact ⟨⟨source, started, .step move reached (Parts.manages_of_causes causes) moves⟩,
    Parts.keys_moves keys moves, Parts.interactive_moves hosting keys held moves⟩

/-- A session that left a turn stays out of it until the turn is started again. -/
theorem left_of_reaches (reachable : (partsSystem environment).ReachableVia Parts.Manages
      done.parts) (left : done.parts.Left sessionId turnId)
    (later : (managerSystem environment).ReachesVia
      (fun _ event => ¬ event.Announces "turn/started" turnId) done current) :
    (partsSystem environment).ReachableVia Parts.Manages current.parts ∧
      current.parts.Left sessionId turnId ∧
      done.runtime.orchestrator.store.tables.Persists
        current.runtime.orchestrator.store.tables := by
  refine later.invariant (fun current =>
    (partsSystem environment).ReachableVia Parts.Manages current.parts ∧
      current.parts.Left sessionId turnId ∧ done.runtime.orchestrator.store.tables.Persists
        current.parts.runtime.orchestrator.store.tables) ⟨reachable, left, .refl _⟩ ?_
  rintro manager event after held silent stepped
  refine (InteractiveManager.step_moves stepped).invariant (fun parts =>
    (partsSystem environment).ReachableVia Parts.Manages parts ∧ parts.Left sessionId turnId ∧
      done.runtime.orchestrator.store.tables.Persists
        parts.runtime.orchestrator.store.tables) held ?_
  rintro parts move next ⟨⟨source, started, reached⟩, left, persists⟩ causes moves
  have hosting := reachable_hosting ⟨source, started, reached⟩ fun _ _ manages => manages
  exact ⟨⟨source, started, .step move reached (Parts.manages_of_causes causes) moves⟩,
    left.moves hosting silent causes moves, persists.trans (Parts.persists_moves moves)⟩

/-- An event admits for a session that left a turn only what no request of the turn asked
for. -/
theorem created_elsewhere (reachable : (partsSystem environment).ReachableVia Parts.Manages
      current.parts) (left : current.parts.Left sessionId turnId) {next : InteractiveManager}
    (stepped : current.step environment event = some next) {row : PendingInteraction}
    (member : row ∈ next.runtime.orchestrator.store.tables.interactions)
    (owner : row.sessionId = sessionId)
    (new : ∀ old ∈ current.runtime.orchestrator.store.tables.interactions, old.id ≠ row.id) :
    ∃ arrival, current.brings event = some arrival ∧ ¬ arrival.BelongsTo turnId := by
  by_contra none
  have old : ∀ row ∈ next.parts.runtime.orchestrator.store.tables.interactions,
      row.sessionId = sessionId →
      ∃ old ∈ current.runtime.orchestrator.store.tables.interactions, old.id = row.id := by
    refine (InteractiveManager.step_moves stepped).invariant (fun parts =>
      ∀ row ∈ parts.runtime.orchestrator.store.tables.interactions, row.sessionId = sessionId →
        ∃ old ∈ current.runtime.orchestrator.store.tables.interactions, old.id = row.id)
      (fun row member _ => ⟨row, member, rfl⟩) ?_
    intro parts move after held causes moves
    have kept {runtimeEvent : Event} {moved : Runtime}
        (advanced : parts.runtime.step environment runtimeEvent = some moved)
        (unadmitted : ∀ core live status updatedAt, parts.runtime.Performs environment runtimeEvent
          core (.admitInteraction live status updatedAt) → live.interaction.sessionId ≠ sessionId) :
        ∀ row ∈ moved.orchestrator.store.tables.interactions, row.sessionId = sessionId →
          ∃ old ∈ current.runtime.orchestrator.store.tables.interactions, old.id = row.id := by
      refine (Runtime.step_moves advanced).invariant (fun core =>
        ∀ row ∈ core.tables.interactions, row.sessionId = sessionId →
          ∃ old ∈ current.runtime.orchestrator.store.tables.interactions, old.id = row.id) held ?_
      rintro core action _ before performs rfl row member owner
      rcases Core.origin_of_perform member with ⟨prior, priorMem, sameId, sameOwner⟩ | admits
      · obtain ⟨old, oldMem, same⟩ := before prior priorMem (sameOwner.trans owner)
        exact ⟨old, oldMem, same.trans sameId⟩
      · obtain ⟨live, status, updatedAt, rfl, own⟩ := admits
        exact absurd (own.symm.trans owner) (unadmitted core live status updatedAt performs)
    cases moves with
    | create name cwd model sandbox created advanced =>
        apply kept advanced
        intro core live status updatedAt performs
        cases performs
    | runtime runtimeEvent moved advanced =>
        refine kept advanced fun core live status updatedAt performs own => none ?_
        exact brings_of_admits reachable left causes performs own
    | gateway => exact held
  obtain ⟨prior, priorMem, same⟩ := old row member owner
  exact new prior priorMem same

/-- A finished turn stays finished. -/
theorem finished_turn_stays_finished (reachable : (managerSystem environment).Reachable before)
    (finishes : FinishesTurn environment before event done sessionId turnId)
    (later : (managerSystem environment).ReachesVia
      (fun _ event => ¬ event.Announces "turn/started" turnId) done current) :
    StaysFinished environment (Arrival.BelongsTo turnId) sessionId before current := by
  have parts := parts_of_reachable reachable
  have hosting := reachable_hosting parts fun _ _ manages => manages
  have hosted := hosting.hosted sessionId finishes.interactive
  obtain ⟨after, keys, interactive⟩ := hosted_of_step parts hosted (Or.inl finishes.interactive)
    finishes.stepped
  have left : done.parts.Left sessionId turnId := ⟨keys, finishes.applied, interactive⟩
  obtain ⟨still, kept, persists⟩ := left_of_reaches after left later
  refine ⟨fun row member pending owner => ?_, fun next moved stepped row member owner new => ?_⟩
  · obtain ⟨settled, settledMem, same, cancelled⟩ :=
      cancelled_of_finishes parts finishes member pending owner
    have settledRow : settled.isPending = false := by
      unfold PendingInteraction.isPending
      rw [cancelled]
      rfl
    exact ⟨settled, persists.settled settled settledMem settledRow, same, cancelled⟩
  · exact created_elsewhere still kept stepped member owner new

section Scenarios

/-- The turn is finished after a run, and another run follows in which it is not started. -/
theorem finished_of_scenario {property : InteractiveManager → InteractiveManager → Prop}
    [∀ before, DecidablePred (property before)] (earlier later : List ManagerEvent)
    (checked : (managerScenario (fun _ _ => true) startedManager earlier).any fun before =>
      (before.step tickingEnvironment
        (ofGateway (.upstream (turnFrame "turn/completed" "t") none))).any fun done =>
          "id-0" ∈ before.runtime.orchestrator.interactiveSessions ∧
            before.runtime.orchestrator.store.tables.IsInTurn "id-0" "t" ∧
            ¬ done.runtime.orchestrator.store.tables.IsInTurn "id-0" "t" ∧
            (managerScenario (fun _ event => !event.announces "turn/started" "t") done later).any
              fun current => property before current) :
    ∃ before event done current, (managerSystem tickingEnvironment).Reachable before ∧
      FinishesTurn tickingEnvironment before event done "id-0" "t" ∧
      (managerSystem tickingEnvironment).ReachesVia
        (fun _ event => ¬ event.Announces "turn/started" "t") done current ∧
      property before current := by
  obtain ⟨before, started, checked⟩ := (Option.any_eq_true _ _).mp checked
  obtain ⟨done, stepped, checked⟩ := (Option.any_eq_true _ _).mp checked
  obtain ⟨interactive, inTurn, applied, checked⟩ := of_decide_eq_true checked
  obtain ⟨current, followed, holds⟩ := (Option.any_eq_true _ _).mp checked
  refine ⟨before, _, done, current, ⟨startedManager, ⟨_, rfl⟩,
    reaches_of_managerScenario (fun _ _ _ => trivial) started⟩,
    ⟨stepped, ManagerEvent.announces_iff.mp (by decide), interactive, inTurn, applied⟩,
    reaches_of_managerScenario ?_ followed, of_decide_eq_true holds⟩
  intro manager event silent announced
  rw [ManagerEvent.announces_iff.mpr announced] at silent
  cases silent

/-- A request without a turn id waits for its callback while its turn is completed. -/
theorem late_callback_refused : ∃ before current : InteractiveManager,
    (∃ row ∈ before.runtime.orchestrator.store.tables.interactions, row.isPending) ∧
      (∃ arrival, current.brings (ofGateway (.startCallback 1)) = some arrival ∧
        arrival.BelongsTo "t") ∧
      StaysFinished tickingEnvironment (Arrival.BelongsTo "t") "id-0" before current := by
  have reached := @finished_of_scenario (fun before current =>
      (before.runtime.orchestrator.store.tables.interactions.any PendingInteraction.isPending) ∧
        (current.brings (ofGateway (.startCallback 1))).any fun arrival => arrival.BelongsTo "t")
    inferInstance
    (hostedThread ++ [ofGateway (.upstream (turnFrame "turn/started" "t") none),
      ofGateway (.upstream (approvalFrame 7 []) none), ofGateway (.startCallback 0),
      ofGateway (.upstream (approvalFrame 8 []) none)])
    [ofGateway (.upstream (turnFrame "turn/started" "u") none)] (by decide)
  obtain ⟨before, event, done, current, reachable, finishes, later, pending, belongs⟩ := reached
  obtain ⟨arrival, brought, ofTurn⟩ := (Option.any_eq_true _ _).mp belongs
  exact ⟨before, current, List.any_eq_true.mp pending,
    ⟨arrival, brought, of_decide_eq_true ofTurn⟩,
    finished_turn_stays_finished reachable finishes later⟩

/-- A request that arrives in one turn and names the next one is admitted in the next. -/
theorem named_turn_admitted_later : ¬ ∀ environment before event done current sessionId turnId,
    (managerSystem environment).Reachable before →
    FinishesTurn environment before event done sessionId turnId →
    (managerSystem environment).ReachesVia
      (fun _ event => ¬ event.Announces "turn/started" turnId) done current →
    StaysFinished environment (Arrival.CarriedOrArrivedIn turnId) sessionId before current := by
  intro claim
  have reached := @finished_of_scenario (fun _ current =>
      (current.step tickingEnvironment (ofGateway (.startCallback 0))).any fun next =>
        (∃ row ∈ next.runtime.orchestrator.store.tables.interactions, row.sessionId = "id-0" ∧
          ∀ old ∈ current.runtime.orchestrator.store.tables.interactions, old.id ≠ row.id) ∧
        (current.brings (ofGateway (.startCallback 0))).all fun arrival =>
          arrival.CarriedOrArrivedIn "t") inferInstance
    (hostedThread ++ [ofGateway (.upstream (turnFrame "turn/started" "t") none),
      ofGateway (.upstream (approvalFrame 7 [("turnId", .str "u")]) none)])
    [ofGateway (.upstream (turnFrame "turn/started" "u") none)] (by decide)
  obtain ⟨before, event, done, current, reachable, finishes, later, checked⟩ := reached
  obtain ⟨next, stepped, checked⟩ := (Option.any_eq_true _ _).mp checked
  obtain ⟨⟨row, member, owner, new⟩, arrived⟩ := of_decide_eq_true checked
  obtain ⟨arrival, brought, elsewhere⟩ := (claim _ before event done current "id-0" "t" reachable
    finishes later).created _ next stepped row member owner new
  rw [brought] at arrived
  exact elsewhere (of_decide_eq_true arrived)

end Scenarios

end FinishedTurns

end LarkBot
