import LarkBot.Codex.Interactive.Parts
import LarkBot.Codex.Orchestrator.ManagedServer

/-! # The sessions of the interactive manager

A run of the manager is a run of the orchestrator beside runs of gateways. Every
session with a gateway is stored, no start of a managed session is under way for it,
and every interactive session of the orchestrator has a gateway.
-/

namespace LarkBot

open Foundation

section Reachability

variable {environment : Environment} {guard : Parts → PartStep → Prop} {parts : Parts}

/-- A run of the manager is a run of its parts. -/
theorem reachable_parts {allowed : InteractiveManager → ManagerEvent → Prop}
    {manager : InteractiveManager}
    (reachable : (managerSystem environment).ReachableVia allowed manager)
    (meets : ∀ before event, allowed before event → ∀ parts move,
      event.Causes before parts move → guard parts move) :
    (partsSystem environment).ReachableVia guard manager.parts := by
  obtain ⟨source, ⟨store, rfl⟩, reached⟩ := reachable
  refine ⟨_, ⟨store, rfl⟩, ?_⟩
  refine reached.invariant (fun manager =>
    (partsSystem environment).ReachesVia guard _ manager.parts) .refl ?_
  intro before event after moved permitted stepped
  exact moved.trans ((InteractiveManager.step_moves stepped).mono (meets before event permitted))

/-- What the parts reach, the orchestrator among them reaches by itself. -/
theorem parts_runtime (reachable : (partsSystem environment).ReachableVia guard parts) :
    (orchestratorSystem environment).Reachable parts.runtime := by
  refine reachable.invariant
    (fun parts => (orchestratorSystem environment).Reachable parts.runtime) ?_ ?_
  · rintro _ ⟨store, rfl⟩
    exact .initial ⟨store, rfl⟩
  · intro before move after reached _ moves
    cases moves with
    | create _ _ _ _ next stepped => exact reached.step _ stepped
    | runtime event next stepped => exact reached.step event stepped
    | gateway => exact reached

/-- A gateway after the creation of a session was there before, or has just started. -/
theorem mem_openGateway {runtime : Runtime} {gateways : Dict String Gateway}
    {entry : String × Gateway}
    (member : entry ∈ (InteractiveManager.openGateway runtime gateways).entries) :
    entry ∈ gateways.entries ∨ entry.2 = .started ∧ ∃ task session,
      runtime.ended.getLast? = some (task, .ok (.session session)) ∧ entry.1 = session.id := by
  unfold InteractiveManager.openGateway at member
  split at member
  next task session last =>
    rcases Dict.mem_set.mp member with rfl | ⟨old, _⟩
    · exact Or.inr ⟨rfl, task, session, last, rfl⟩
    · exact Or.inl old
  next => exact Or.inl member

/-- A session that has a gateway keeps it when another one opens. -/
theorem keys_openGateway {runtime : Runtime} {gateways : Dict String Gateway}
    {sessionId : String} (hosted : sessionId ∈ gateways.keys) :
    sessionId ∈ (InteractiveManager.openGateway runtime gateways).keys := by
  unfold InteractiveManager.openGateway
  split
  next => exact Dict.mem_keys_set.mpr (Or.inr hosted)
  next => exact hosted

/-- What the parts reach, each gateway among them reaches by itself. -/
theorem parts_gateway (reachable : (partsSystem environment).ReachableVia guard parts) :
    ∀ entry ∈ parts.gateways.entries, (gatewaySystem managerConfig).Reachable entry.2 := by
  refine reachable.invariant (fun parts => ∀ entry ∈ parts.gateways.entries,
    (gatewaySystem managerConfig).Reachable entry.2) ?_ ?_
  · rintro _ ⟨store, rfl⟩ entry member
    cases member
  · intro before move after reached _ moves entry member
    cases moves with
    | create _ _ _ _ next stepped =>
        rcases mem_openGateway member with old | ⟨opened, _⟩
        · exact reached entry old
        · exact opened ▸ .initial rfl
    | runtime event next stepped => exact reached entry member
    | gateway sessionId event gateway next found stepped =>
        rcases Dict.mem_set.mp member with rfl | ⟨old, _⟩
        · exact (reached _ (Dict.get?_eq_some.mp found)).step event stepped
        · exact reached entry old

end Reachability

section Sessions

variable {environment : Environment} {orchestrator : CodexOrchestrator} {name cwd sandbox : String}
  {model : Option String}

/-- A session is stored. -/
def CodexTables.Stores (tables : CodexTables) (sessionId : String) : Prop :=
  ∃ session ∈ tables.sessions, session.id = sessionId

/-- A session that is stored stays so. -/
theorem CodexTables.SessionsKept.stores {tables after : CodexTables} {sessionId : String}
    (kept : tables.SessionsKept after) (stored : tables.Stores sessionId) :
    after.Stores sessionId := by
  obtain ⟨session, member, same⟩ := stored
  obtain ⟨next, nextMem, sameId, _⟩ := kept session member
  exact ⟨next, nextMem, sameId.trans same⟩

/-- No run of the core takes a stored session away. -/
theorem stores_of_reachesVia {guard : Core → CoreAction → Prop} {core after : Core}
    {sessionId : String} (reached : coreSystem.ReachesVia guard core after)
    (stored : core.tables.Stores sessionId) : after.tables.Stores sessionId := by
  refine reached.invariant (fun after => after.tables.Stores sessionId) stored ?_
  rintro before action _ held _ rfl
  exact (before.perform_sessionsKept action).stores held

/-- A session that was just inserted is new and stored. -/
theorem createSession_new {tables after : CodexTables} {session : CodexSession}
    (created : tables.createSession session = .ok after) :
    ¬ tables.Stores session.id ∧ after.Stores session.id := by
  obtain ⟨fresh, sessions, _⟩ := CodexTables.insertSession_ok created
  refine ⟨fun ⟨old, member, same⟩ => fresh old member same,
    ⟨{ session with summary := safeSummary session.summary }, ?_, rfl⟩⟩
  rw [sessions]
  exact List.mem_append_right _ (List.mem_singleton_self _)

/-- An interactive session is new, and the only one that is hosted from then on. -/
theorem createInteractiveSession_creates :
    (createInteractiveSession environment name cwd model sandbox).Ends orchestrator
      fun after outcome =>
        (∃ session, outcome = .ok (.returned (.session session)) ∧
          ¬ orchestrator.store.tables.Stores session.id ∧
          after.store.tables.Stores session.id ∧
          after.interactiveSessions = insert session.id orchestrator.interactiveSessions) ∨
        ∃ error, outcome = .error error ∧ after.core = orchestrator.core := by
  unfold createInteractiveSession
  simp only [ends_utcNow_bind, ends_newId_bind, ends_storeOrRaise_bind, Except.map]
  split
  next outcome =>
    split at outcome
    next => cases outcome
    next created =>
      cases outcome
      obtain ⟨fresh, stored⟩ := createSession_new created
      exact Or.inl ⟨_, rfl, fresh, stored, rfl⟩
  next error _ => exact Or.inr ⟨error, rfl, rfl⟩

/-- A managed session that starts is new. -/
theorem createSession_starts {prompt : String} :
    (createSession environment name cwd prompt model sandbox).Ends orchestrator
      fun after outcome => ∀ call frame, outcome = .ok (.await call frame) →
        ∃ sessionId, frame = .createSessionThread sessionId prompt ∧
          ¬ orchestrator.store.tables.Stores sessionId ∧ after.store.tables.Stores sessionId := by
  unfold createSession
  simp only [ends_utcNow_bind, ends_newId_bind, ends_storeOrRaise_bind, Except.map]
  split
  next outcome =>
    split at outcome
    next => cases outcome
    next created =>
      cases outcome
      rintro _ _ ⟨⟩
      obtain ⟨fresh, stored⟩ := createSession_new created
      exact ⟨_, rfl, fresh, stored⟩
  next => rintro _ _ ⟨⟩

end Sessions

/-- The managed session that a suspended handler is starting. -/
def Frame.starting : Frame → Option String
  | .createSessionThread sessionId _ => some sessionId
  | .createSessionTurn sessionId => some sessionId
  | _ => none

namespace Runtime

variable {environment : Environment} {runtime : Runtime} {event : Event}

/-- A start goes on with the session that it was started for, or begins with a new one. -/
theorem starting_of_runs (stored : runtime.PassesStored) {task : Nat} {code : Code Progress}
    {base : Runtime} (runs : runtime.Runs environment event task code base)
    {call : ExternalCall} {frame : Frame} {sessionId : String}
    (awaits : (code runtime.orchestrator).2 = .ok (.await call frame))
    (starts : frame.starting = some sessionId) :
    (∃ entry ∈ runtime.tasks.entries, entry.2.frame.starting = some sessionId) ∨
      ¬ runtime.orchestrator.store.tables.Stores sessionId ∧
        (code runtime.orchestrator).1.store.tables.Stores sessionId := by
  cases runs with
  | call entry =>
      right
      have reaches : entry.MayReach (.await call frame) :=
        handle_returns entry runtime.orchestrator _ awaits
      cases entry with
      | createSession name cwd prompt model sandbox =>
          obtain ⟨created, rfl, new⟩ := @createSession_starts environment runtime.orchestrator name
            cwd sandbox model prompt call frame awaits
          cases starts
          exact new
      | _ =>
          cases frame <;> try cases starts
          all_goals cases call <;> exact False.elim reaches
  | reply task reply suspended _ found =>
      left
      have reaches : suspended.frame.MayReach (.await call frame) :=
        resume_returns suspended.frame reply runtime.orchestrator _ awaits
      refine ⟨(task, suspended), Dict.get?_eq_some.mp found, ?_⟩
      generalize suspended.frame = resumed at reaches
      cases resumed with
      | createSessionThread started prompt =>
          cases frame with
          | createSessionTurn going =>
              cases starts
              cases call with
              | startTurn =>
                  obtain rfl : sessionId = started := reaches
                  rfl
              | _ => exact False.elim reaches
          | _ => cases call <;> exact False.elim reaches
      | requestError consumer =>
          cases consumer <;> cases frame <;> try cases starts
          all_goals cases call <;> exact False.elim reaches
      | _ =>
          cases frame <;> try cases starts
          all_goals cases call <;> exact False.elim reaches
  | proceed task pass inControl =>
      have iterates : (expireNext environment pass).Ends runtime.orchestrator
          (pass.Iterates runtime.orchestrator) :=
        expireNext_iterates (stored.running task pass inControl)
      unfold Foundation.Code.Ends at iterates
      rw [awaits] at iterates
      cases iterates with
      | claimed _ _ _ _ _ _ _ _ answers => cases answers <;> cases starts

end Runtime

section Interactive

/-- Only two actions change which sessions are interactive. -/
theorem perform_interactiveSessions (core : Core) (action : CoreAction) :
    (core.perform action).interactiveSessions =
      match action with
      | .hostSession sessionId => insert sessionId core.interactiveSessions
      | .releaseSession sessionId => core.interactiveSessions.erase sessionId
      | _ => core.interactiveSessions := by
  cases action with
  | hostSession | releaseSession | updateSession | cancel | attachLarkMessageId => rfl
  | createSession | admitInteraction | claim | endSession | failStartup | finishTurn =>
      simp only [Core.perform]
      split <;> rfl

/-- The event calls `create_interactive_session`. -/
def Event.Opens : Event → Prop
  | .call (.createInteractiveSession _ _ _ _) => True
  | _ => False

/-- The event calls `close_interactive_session` for the session. -/
def Event.Closes (sessionId : String) : Event → Prop
  | .call (.closeInteractiveSession closed) => closed = sessionId
  | _ => False

variable {environment : Environment} {runtime next : Runtime} {event : Event}

/-- No other event makes a session interactive. -/
theorem interactive_of_step (stepped : runtime.step environment event = some next)
    (elsewhere : ¬ event.Opens) {sessionId : String}
    (hosted : sessionId ∈ next.orchestrator.interactiveSessions) :
    sessionId ∈ runtime.orchestrator.interactiveSessions := by
  refine (Runtime.step_moves stepped).invariant
    (fun core => sessionId ∈ core.interactiveSessions →
      sessionId ∈ runtime.orchestrator.interactiveSessions) id ?_ hosted
  rintro core action _ backwards performs rfl present
  apply backwards
  rw [perform_interactiveSessions] at present
  cases action with
  | hostSession opened =>
      cases event with
      | call call =>
          cases performs with
          | hostSession => exact absurd trivial elsewhere
          | notify _ _ performs | consumeNotification _ _ performs => cases performs
      | reply task reply =>
          obtain ⟨⟨_, _⟩, _, performs⟩ := performs
          cases performs
      | proceed =>
          obtain ⟨_, _, _, performs⟩ := performs
          cases performs
  | releaseSession closed => exact Finset.mem_of_mem_erase present
  | _ => exact present

/-- Only its own closing makes a session no longer interactive. -/
theorem interactive_kept (stepped : runtime.step environment event = some next)
    {sessionId : String} (kept : ¬ event.Closes sessionId)
    (hosted : sessionId ∈ runtime.orchestrator.interactiveSessions) :
    sessionId ∈ next.orchestrator.interactiveSessions := by
  refine (Runtime.step_moves stepped).invariant
    (fun core => sessionId ∈ core.interactiveSessions) hosted ?_
  rintro core action _ present performs rfl
  rw [perform_interactiveSessions]
  cases action with
  | hostSession opened => exact Finset.mem_insert_of_mem present
  | releaseSession closed =>
      refine Finset.mem_erase.mpr ⟨fun same => kept ?_, present⟩
      cases event with
      | call call =>
          cases performs with
          | releaseSession => exact same.symm
          | notify _ _ performs | consumeNotification _ _ performs => cases performs
      | reply task reply =>
          obtain ⟨⟨_, _⟩, _, performs⟩ := performs
          cases performs
      | proceed =>
          obtain ⟨_, _, _, performs⟩ := performs
          cases performs
  | _ => exact present

end Interactive

namespace Parts

/-- The manager opens sessions only together with their gateways. -/
def Manages (_ : Parts) (move : PartStep) : Prop :=
  ∀ event, move = .runtime event → ¬ event.Opens

/-- The steps that an event causes are among those that the manager takes. -/
theorem manages_of_causes {manager : InteractiveManager} {event : ManagerEvent} {parts : Parts}
    {move : PartStep} (causes : event.Causes manager parts move) : parts.Manages move := by
  rintro runtimeEvent rfl opens
  cases causes with
  | call call outside =>
      cases call with
      | createInteractiveSession => cases outside
      | _ => exact opens
  | _ => exact opens

structure Hosting (parts : Parts) : Prop where
  stored : ∀ sessionId ∈ parts.gateways.keys,
    parts.runtime.orchestrator.store.tables.Stores sessionId
  starting : ∀ entry ∈ parts.runtime.tasks.entries, ∀ sessionId,
    entry.2.frame.starting = some sessionId →
    parts.runtime.orchestrator.store.tables.Stores sessionId ∧ sessionId ∉ parts.gateways.keys
  hosted : ∀ sessionId ∈ parts.runtime.orchestrator.interactiveSessions,
    sessionId ∈ parts.gateways.keys

variable {environment : Environment} {parts after : Parts} {move : PartStep}
  {name cwd sandbox : String} {model : Option String}

/-- Setting the gateway of a session that has one adds no session. -/
theorem keys_set {gateways : Dict String Gateway} {sessionId : String} {gateway next : Gateway}
    (found : gateways.get? sessionId = some gateway) (key : String) :
    key ∈ (gateways.set sessionId next).keys ↔ key ∈ gateways.keys := by
  rw [Dict.mem_keys_set]
  apply or_iff_right_of_imp
  rintro rfl
  exact Dict.mem_keys.mpr ⟨gateway, Dict.get?_eq_some.mp found⟩

/-- What the creation of a session leaves. -/
theorem created_of_step {runtime next : Runtime}
    (stepped : runtime.step environment
      (.call (.createInteractiveSession name cwd model sandbox)) = some next) :
    next.tasks = runtime.tasks ∧
      ((∃ task session, next.ended.getLast? = some (task, .ok (.session session)) ∧
        ¬ runtime.orchestrator.store.tables.Stores session.id ∧
        next.orchestrator.store.tables.Stores session.id ∧
        next.orchestrator.interactiveSessions =
          insert session.id runtime.orchestrator.interactiveSessions) ∨
      (∃ task error, next.ended.getLast? = some (task, .error error)) ∧
        next.orchestrator.core = runtime.orchestrator.core) := by
  simp only [Runtime.step] at stepped
  split at stepped
  next => cases stepped
  next idle =>
    cases stepped
    have creates := @createInteractiveSession_creates environment runtime.orchestrator name cwd
      sandbox model
    unfold Foundation.Code.Ends at creates
    unfold Runtime.settle
    simp only [handle]
    rcases creates with ⟨session, returned, fresh, stored, hosts⟩ | ⟨error, raised, kept⟩
    · rw [returned]
      exact ⟨rfl, Or.inl ⟨_, session, List.getLast?_concat, fresh, stored, hosts⟩⟩
    · rw [raised]
      exact ⟨rfl, Or.inr ⟨⟨_, error, List.getLast?_concat⟩, kept⟩⟩

/-- A step that the manager takes keeps the sessions hosted. -/
theorem Hosting.moves (hosting : parts.Hosting) (stored : parts.runtime.PassesStored)
    (manages : parts.Manages move) (moves : parts.Moves environment move after) :
    after.Hosting := by
  cases moves with
  | create name cwd model sandbox next stepped =>
      have moved := Runtime.step_moves stepped
      obtain ⟨sameTasks, created | ⟨⟨task, error, last⟩, sameCore⟩⟩ := created_of_step stepped
      · obtain ⟨task, session, last, fresh, new, hosts⟩ := created
        have opened : InteractiveManager.openGateway next parts.gateways =
            parts.gateways.set session.id .started := by
          simp only [InteractiveManager.openGateway, last]
        refine ⟨fun key hosted => ?_, fun entry member key starts => ?_, fun key interactive => ?_⟩
        · rcases Dict.mem_keys_set.mp (opened ▸ hosted) with rfl | old
          · exact new
          · exact stores_of_reachesVia moved (hosting.stored key old)
        · obtain ⟨held, apart⟩ := hosting.starting entry (sameTasks ▸ member) key starts
          refine ⟨stores_of_reachesVia moved held, fun hosted => ?_⟩
          rcases Dict.mem_keys_set.mp (opened ▸ hosted) with rfl | old
          · exact fresh held
          · exact apart old
        · change key ∈ (InteractiveManager.openGateway next parts.gateways).keys
          rw [opened, Dict.mem_keys_set]
          have present : key ∈ next.orchestrator.interactiveSessions := interactive
          rw [hosts, Finset.mem_insert] at present
          exact present.imp_right (hosting.hosted key)
      · have opened : InteractiveManager.openGateway next parts.gateways = parts.gateways := by
          simp only [InteractiveManager.openGateway, last]
        have sameTables : next.orchestrator.store.tables =
            parts.runtime.orchestrator.store.tables := congrArg Core.tables sameCore
        have sameSessions : next.orchestrator.interactiveSessions =
            parts.runtime.orchestrator.interactiveSessions :=
          congrArg Core.interactiveSessions sameCore
        simp only [opened]
        refine ⟨fun key hosted => ?_, fun entry member key starts => ?_, fun key interactive => ?_⟩
        · exact sameTables ▸ hosting.stored key hosted
        · exact sameTables ▸ hosting.starting entry (sameTasks ▸ member) key starts
        · exact hosting.hosted key (sameSessions ▸ interactive)
  | runtime event next stepped =>
      have moved := Runtime.step_moves stepped
      have elsewhere := manages event rfl
      have backwards := fun {sessionId} => @interactive_of_step environment parts.runtime next event
        stepped elsewhere sessionId
      obtain ⟨task, code, base, runs, rfl⟩ := Runtime.runs_of_step stepped
      refine ⟨fun sessionId hosted => ?_, fun entry member sessionId starts => ?_,
        fun sessionId interactive => hosting.hosted sessionId (backwards interactive)⟩
      · exact stores_of_reachesVia moved (hosting.stored sessionId hosted)
      · rcases Runtime.mem_settle_tasks member with old | ⟨awaits, _⟩
        · have before : entry ∈ parts.runtime.tasks.entries := by
            cases runs with
            | call | proceed => exact old
            | reply => exact (Dict.mem_pop.mp old).1
          obtain ⟨held, apart⟩ := hosting.starting entry before sessionId starts
          exact ⟨stores_of_reachesVia moved held, apart⟩
        · rcases Runtime.starting_of_runs stored runs awaits starts with
            ⟨resumed, before, sameSession⟩ | ⟨fresh, new⟩
          · obtain ⟨held, apart⟩ := hosting.starting resumed before sessionId sameSession
            exact ⟨stores_of_reachesVia moved held, apart⟩
          · refine ⟨?_, fun hosted => fresh (hosting.stored sessionId hosted)⟩
            rw [Runtime.settle_orchestrator]
            exact new
  | gateway sessionId event gateway next found stepped =>
      refine ⟨fun key hosted => ?_, fun entry member key starts => ?_, fun key interactive => ?_⟩
      · exact hosting.stored key ((keys_set found key).mp hosted)
      · obtain ⟨held, apart⟩ := hosting.starting entry member key starts
        exact ⟨held, fun hosted => apart ((keys_set found key).mp hosted)⟩
      · exact (keys_set found key).mpr (hosting.hosted key interactive)

end Parts

/-- Every run of the manager keeps its sessions apart from managed ones. -/
theorem reachable_hosting {environment : Environment} {guard : Parts → PartStep → Prop}
    {parts : Parts} (reachable : (partsSystem environment).ReachableVia guard parts)
    (manages : ∀ before move, guard before move → before.Manages move) : parts.Hosting := by
  have held : (orchestratorSystem environment).Reachable parts.runtime ∧ parts.Hosting := by
    obtain ⟨source, started, reached⟩ := reachable
    refine reached.invariant
      (fun parts => (orchestratorSystem environment).Reachable parts.runtime ∧ parts.Hosting) ?_ ?_
    · obtain ⟨store, rfl⟩ := started
      refine ⟨.initial ⟨store, rfl⟩, ?_, ?_, ?_⟩
      · exact fun _ absent => absurd absent List.not_mem_nil
      · exact fun _ absent => absurd absent List.not_mem_nil
      · intro sessionId hosted
        have empty := (@start_started environment store).interactiveSessions
        rw [CodexOrchestrator.core] at empty
        exact absurd (empty ▸ hosted) (Finset.notMem_empty sessionId)
    · rintro before move after ⟨runs, hosting⟩ allowed moves
      refine ⟨?_, hosting.moves (reachable_passesStored runs) (manages before move allowed) moves⟩
      cases moves with
      | create _ _ _ _ next stepped => exact runs.step _ stepped
      | runtime event next stepped => exact runs.step event stepped
      | gateway => exact runs
  exact held.2

end LarkBot
