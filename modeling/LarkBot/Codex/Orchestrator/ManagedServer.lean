import LarkBot.Codex.Orchestrator.MessageSafety
import LarkBot.Codex.Orchestrator.ResponseDelivery
import LarkBot.Codex.Orchestrator.SessionRows

/-! # The managed app-server and the sessions that others host

One orchestrator drives sessions whose threads the managed app-server started and
sessions hosted by their own app-servers. `LarkBot.ManagedTraffic` records what the
managed app-server took part in and which sessions are hosted elsewhere; a run keeps
both apart as long as nothing interrupts a hosted session through the managed one
(`LarkBot.managed_server_separate`).
-/

namespace LarkBot

open Foundation

/-- What the managed app-server returned and sent, and the interactive sessions. -/
structure ManagedTraffic where
  threads : List String
  requests : List RequestId
  hosted : List String

namespace ManagedTraffic

def empty : ManagedTraffic := ⟨[], [], []⟩

/-- The traffic after an event. -/
def observe (environment : Environment) (runtime : Runtime) (traffic : ManagedTraffic) :
    Event → ManagedTraffic
  | .call (.consumeRequest request) =>
      { traffic with requests := traffic.requests ++ [request.requestId] }
  | .call (.createInteractiveSession name cwd model sandbox) =>
      match (createInteractiveSession environment name cwd model sandbox
        runtime.orchestrator).2 with
      | .ok (.returned (.session session)) =>
          { traffic with hosted := traffic.hosted ++ [session.id] }
      | _ => traffic
  | .reply task (.returned value _) =>
      match runtime.tasks.get? task with
      | some ⟨.startThread _ _ _, _⟩ => { traffic with threads := traffic.threads ++ [value] }
      | _ => traffic
  | _ => traffic

/-- The traffic of a longer run. -/
structure Extends (earlier later : ManagedTraffic) : Prop where
  threads : earlier.threads ⊆ later.threads
  requests : earlier.requests ⊆ later.requests
  hosted : earlier.hosted ⊆ later.hosted

/-- The traffic only grows. -/
theorem observe_extends (environment : Environment) (runtime : Runtime)
    (traffic : ManagedTraffic) (event : Event) :
    traffic.Extends (traffic.observe environment runtime event) := by
  have refl : traffic.Extends traffic := ⟨fun _ => id, fun _ => id, fun _ => id⟩
  unfold observe
  split
  · exact ⟨fun _ => id, List.subset_append_left _ _, fun _ => id⟩
  · split
    · exact ⟨fun _ => id, fun _ => id, List.subset_append_left _ _⟩
    · exact refl
  · split
    · exact ⟨List.subset_append_left _ _, fun _ => id, fun _ => id⟩
    · exact refl
  · exact refl

/-- The call uses the managed app-server only for what belongs to it. -/
def Proper (traffic : ManagedTraffic) : ExternalCall → Prop
  | .interruptTurn threadId _ => threadId ∈ traffic.threads
  | .respond live _ => live.responder = .appServer → live.request.requestId ∈ traffic.requests
  | .respondError responder requestId _ _ =>
      responder = .appServer → requestId ∈ traffic.requests
  | _ => True

/-- Every active session that nobody else hosts runs in a thread of the managed app-server. -/
def OwnsThreads (traffic : ManagedTraffic) (core : Core) : Prop :=
  ∀ session ∈ core.tables.sessions, session.status.isActive → session.id ∉ traffic.hosted →
    ∀ threadId, session.threadId = some threadId → threadId ∈ traffic.threads

/-- A live entry that the managed app-server answers was requested by it. -/
def Received (traffic : ManagedTraffic) (live : LiveInteraction) : Prop :=
  live.responder = .appServer → live.request.requestId ∈ traffic.requests

def ReceivedIn (traffic : ManagedTraffic) (core : Core) : Prop :=
  ∀ entry ∈ core.live.entries, traffic.Received entry.2

def ReceivesPass (traffic : ManagedTraffic) (pass : ExpiryPass) : Prop :=
  ∀ entry ∈ pass.rest, traffic.Received entry.2

variable {traffic later : ManagedTraffic}

/-- A call that was proper stays so when the traffic grows. -/
theorem Proper.mono {call : ExternalCall} (proper : traffic.Proper call)
    (longer : traffic.Extends later) : later.Proper call := by
  cases call with
  | interruptTurn => exact longer.threads proper
  | respond | respondError => exact fun managed => longer.requests (proper managed)
  | _ => trivial

/-- What was received stays received when the traffic grows. -/
theorem Received.mono {live : LiveInteraction} (received : traffic.Received live)
    (longer : traffic.Extends later) : later.Received live :=
  fun managed => longer.requests (received managed)

/-- The threads of the managed app-server stay its own when the traffic grows. -/
theorem OwnsThreads.mono {core : Core} (owns : traffic.OwnsThreads core)
    (longer : traffic.Extends later) : later.OwnsThreads core :=
  fun session member active own threadId thread => longer.threads
    (owns session member active (fun hosted => own (longer.hosted hosted)) threadId thread)

/-- An action that gives a thread to a session of the managed app-server gives it one of
its own threads, and one that admits a request of the managed app-server admits one that
it sent. -/
def Allows (traffic : ManagedTraffic) (_ : Core) : CoreAction → Prop
  | .createSession session => session.IsNew
  | .updateSession sessionId update _ => ∀ threadId, update.threadId = some (some threadId) →
      threadId ∈ traffic.threads ∨ sessionId ∈ traffic.hosted
  | .admitInteraction live _ _ => traffic.Received live
  | _ => True

/-- An allowed action binds an active session to no foreign thread. -/
theorem OwnsThreads.perform {core : Core} (owns : traffic.OwnsThreads core) {action : CoreAction}
    (allows : traffic.Allows core action) : traffic.OwnsThreads (core.perform action) := by
  intro session member active own threadId thread
  cases core.sessionFrom_of_perform action member with
  | created new => cases (CodexSession.IsNew.threadId_eq allows).symm.trans thread
  | kept _ old => exact owns session old active own threadId thread
  | updated old oldMem same expected =>
      rename_i sessionId update updatedAt
      cases written : update.threadId with
      | none =>
          simp only [written, Option.getD_none] at thread
          exact owns old oldMem (update.isActive_of_expected expected) own threadId thread
      | some thread' =>
          simp only [written, Option.getD_some] at thread
          rcases allows threadId (written.trans (congrArg some thread)) with listed | hosted
          · exact listed
          · exact absurd (same ▸ hosted) own
  | rewritten old next oldMem oldActive sameId sameThread =>
      exact owns old oldMem oldActive (sameId ▸ own) threadId (sameThread ▸ thread)

/-- An allowed action gets no live entry from a request that was not received. -/
theorem ReceivedIn.perform {core : Core} (received : traffic.ReceivedIn core)
    {action : CoreAction} (allows : traffic.Allows core action) :
    traffic.ReceivedIn (core.perform action) := by
  intro entry member
  rcases Core.mem_live_perform member with old | ⟨live, status, updatedAt, rfl, rfl, _⟩
  · exact received entry old
  · exact allows

end ManagedTraffic

section Calls

variable {environment : Environment} {self : CodexOrchestrator}

/-- A cancelled session is interrupted in its own turn. -/
theorem cancelSession_interrupts {sessionId : String} :
    (cancelSession environment sessionId).Ends self fun _ outcome =>
      ∀ threadId turnId frame,
        outcome = .ok (.await (.interruptTurn threadId turnId) frame) →
        ∃ session ∈ self.store.tables.sessions, session.id = sessionId ∧
          session.status.isActive ∧ activeTurn session = some (threadId, turnId) := by
  unfold cancelSession
  simp only [ends_getSession_bind]
  split
  next => rintro _ _ _ ⟨⟩
  next session found =>
    obtain ⟨member, same⟩ := CodexTables.getSession_eq_some.mp found
    split
    next => rintro _ _ _ ⟨⟩
    next active =>
      rw [Bool.not_eq_true, Bool.not_eq_false'] at active
      simp only [ends_utcNow_bind, ends_storeOrRaise_bind]
      split
      next ids tables done =>
        cases ids with
        | none => rintro _ _ _ ⟨⟩
        | some ids =>
            simp only [Code.ends_modify_bind]
            refine emit_core.bind (fun _ _ _ => ?_) fun _ _ _ => by rintro _ _ _ ⟨⟩
            split
            next threadId turnId turn =>
              rintro _ _ _ ⟨⟩
              exact ⟨session, member, same, active, turn⟩
            next => rintro _ _ _ ⟨⟩
      next => rintro _ _ _ ⟨⟩

/-- A response answers the live entry that a resolver found. -/
theorem claimAndRespond_answers {live : LiveInteraction} {interactionId decision actorId : String}
    {response : Json} :
    (claimAndRespond environment live interactionId response decision actorId).Ends self
      fun _ outcome => ∀ other sent frame,
        outcome = .ok (.await (.respond other sent) frame) → other = live := by
  have returns : (claimAndRespond environment live interactionId response decision actorId).Returns
      fun progress => ∀ other sent frame, progress = .await (.respond other sent) frame →
        other = live := by
    refine claimAndRespond_returns _ _ _ _ _ ?_ ?_
    · rintro _ _ _ _ ⟨⟩
    · rintro _ _ _ ⟨⟩
      rfl
  exact fun other sent frame awaits => returns self _ awaits other sent frame rfl

/-- The answer of a user goes to a request that was live. -/
theorem resolveInteraction_answers {interactionId actorId : String} {allow : Option Bool}
    {answers : Option (List (String × String))} :
    (resolveInteraction environment interactionId actorId allow answers).Ends self
      fun _ outcome => ∀ live response frame,
        outcome = .ok (.await (.respond live response) frame) →
        ∃ entry ∈ self.live.entries, entry.2 = live := by
  unfold resolveInteraction
  simp only [Code.ends_self_bind]
  split
  next => rintro _ _ _ ⟨⟩
  next live found =>
    rw [Code.ends_lift_bind]
    split
    next =>
      apply claimAndRespond_answers.mono
      intro _ outcome answers other response frame awaits
      obtain rfl := answers other response frame awaits
      exact ⟨_, Dict.get?_eq_some.mp found, rfl⟩
    next => rintro _ _ _ ⟨⟩

/-- The answer of the terminal goes to a request that was live. -/
theorem resolveTerminalRequest_answers {requestId : RequestId} {result : Json} :
    (resolveTerminalRequest environment requestId result).Ends self
      fun _ outcome => ∀ live response frame,
        outcome = .ok (.await (.respond live response) frame) →
        ∃ entry ∈ self.live.entries, entry.2 = live := by
  unfold resolveTerminalRequest
  simp only [Code.ends_self_bind]
  split
  next => rintro _ _ _ ⟨⟩
  next live found =>
    rw [Code.ends_lift_bind]
    split
    next =>
      apply claimAndRespond_answers.mono
      intro _ outcome answers other response frame awaits
      obtain rfl := answers other response frame awaits
      exact List.mem_map.mp (List.mem_of_find?_eq_some found)
    next => rintro _ _ _ ⟨⟩

/-- What an iteration of an expiry pass awaits: the responder of the entry at its head, or
the interruption of the turn that the session of that entry is in. -/
inductive ExpiryPass.Awaits (self : CodexOrchestrator) (pass : ExpiryPass) : ExternalCall → Prop
  | respond (interactionId : String) (live : LiveInteraction)
      (rest : List (String × LiveInteraction)) (response : Json) :
      pass.rest = (interactionId, live) :: rest → Awaits self pass (.respond live response)
  | interruptTurn (interactionId : String) (live : LiveInteraction)
      (rest : List (String × LiveInteraction)) (row : PendingInteraction)
      (session : CodexSession) (threadId turnId : String) :
      pass.rest = (interactionId, live) :: rest → live.interaction.kind = .userInput →
      live.interaction.expiresAt ≤ pass.currentTime →
      self.store.tables.IsPendingRow interactionId row → session ∈ self.store.tables.sessions →
      session.id = live.interaction.sessionId → activeTurn session = some (threadId, turnId) →
      Awaits self pass (.interruptTurn threadId turnId)

/-- A refreshed row is in the thread and turn of the old one. -/
theorem activeTurn_of_claimed {tables after : CodexTables} {row : PendingInteraction}
    {change : PendingInteraction → PendingInteraction} {updatedAt : Instant}
    (claimed : tables.Claimed row change updatedAt after) {session : CodexSession}
    (member : session ∈ after.sessions) :
    ∃ old ∈ tables.sessions, old.id = session.id ∧ activeTurn old = activeTurn session := by
  rcases Core.session_of_updateWhere claimed.sessions member with old | ⟨old, oldMem, _, rfl⟩
  · exact ⟨session, old, rfl, rfl⟩
  · exact ⟨old, oldMem, rfl, rfl⟩

/-- What an iteration of an expiry pass awaits is about an entry of the pass. -/
theorem expireNext_awaits (pass : ExpiryPass) :
    (expireNext environment pass).Ends self fun _ outcome => ∀ call frame,
      outcome = .ok (.await call frame) → pass.Awaits self call := by
  unfold expireNext
  split
  next => rintro _ _ ⟨⟩
  next interactionId live rest head =>
    dsimp only
    split
    next => rintro _ _ ⟨⟩
    next due =>
      rw [Code.ends_lift_bind]
      split
      next decision _ =>
        simp only [ends_storeOrRaise_bind]
        split
        next won tables done =>
          cases won with
          | false => rintro _ _ ⟨⟩
          | true =>
              simp only [↓reduceIte, popLive, Code.ends_modify_bind]
              unfold answerExpired
              dsimp only
              split
              next input =>
                simp only [ends_getSession_bind]
                split
                next threadId turnId turn =>
                  rintro _ _ ⟨⟩
                  obtain ⟨session, found, inTurn⟩ := Option.bind_eq_some_iff.mp turn
                  obtain ⟨member, same⟩ := CodexTables.getSession_eq_some.mp found
                  obtain ⟨row, _, rowId, _, _, claimed⟩ :=
                    CodexTables.resolveInteractionAndRefreshSession_true done
                  obtain ⟨old, oldMem, oldId, oldTurn⟩ := activeTurn_of_claimed claimed member
                  exact .interruptTurn interactionId live rest row old threadId turnId head input
                    (not_lt.mp due) (rowId ▸ claimed.isPendingRow) oldMem (oldId.trans same)
                    (oldTurn.trans inTurn)
                next =>
                  have ran : ∀ middle, (interruptSession environment live.interaction.sessionId
                      "user input request expired").Ends middle fun _ _ => True :=
                    fun _ => trivial
                  refine (ran _).bind (fun _ _ _ => ?_) fun _ _ _ => ?_
                  · rintro _ _ ⟨⟩
                  · rintro _ _ ⟨⟩
              next =>
                rw [Code.ends_lift_bind]
                split
                next response _ =>
                  rintro _ _ ⟨⟩
                  exact .respond interactionId live rest response head
                next => rintro _ _ ⟨⟩
        next => rintro _ _ ⟨⟩
      next => rintro _ _ ⟨⟩

end Calls

/-- The rest of an expiry pass that a suspended handler goes on with. -/
def Frame.pass : Frame → Option ExpiryPass
  | .expireInterrupt _ pass => some pass
  | .expireRespond _ _ pass => some pass
  | _ => none

def Progress.pass : Progress → Option ExpiryPass
  | .returned _ => none
  | .await _ frame => frame.pass
  | .proceed pass => some pass

/-- An entry point that starts an expiry pass takes the live entries. -/
theorem handle_pass {environment : Environment} {self : CodexOrchestrator} {call : ApiCall}
    {progress : Progress} {pass : ExpiryPass}
    (ended : (handle environment call self).2 = .ok progress) (goesOn : progress.pass = some pass) :
    pass.rest ⊆ self.live.entries := by
  have reaches : call.MayReach progress := handle_returns call self progress ended
  cases progress with
  | returned => cases goesOn
  | await awaits frame =>
      cases frame with
      | expireInterrupt | expireRespond => cases call <;> simp only [ApiCall.MayReach] at reaches
      | _ => cases goesOn
  | proceed =>
      obtain rfl := Option.some.inj goesOn
      cases call with
      | expireDueInteractions now =>
          exact fun entry member => Runtime.expireDueInteractions_rest _ ended entry member
      | _ => exact False.elim reaches

/-- A resumed pass is the one that was suspended. -/
theorem Frame.MayReach.pass {frame : Frame} {progress : Progress}
    (reaches : frame.MayReach progress)
    {pass : ExpiryPass} (goesOn : progress.pass = some pass) : frame.pass = some pass := by
  cases progress with
  | returned => cases goesOn
  | await awaits next =>
      cases next with
      | expireInterrupt | expireRespond => cases frame <;> simp only [MayReach] at reaches
      | _ => cases goesOn
  | proceed rest =>
      obtain rfl := Option.some.inj goesOn
      cases frame with
      | expireInterrupt live kept =>
          obtain rfl : rest = kept := reaches
          rfl
      | expireRespond interactionId live kept =>
          obtain rfl : rest = kept := reaches
          rfl
      | requestError consumer => cases consumer <;> exact False.elim reaches
      | _ => exact False.elim reaches

/-- An iteration goes on with entries of its own pass. -/
theorem ExpiryPass.Iterates.pass {self after : CodexOrchestrator} {pass next : ExpiryPass}
    {outcome : Except PyError Progress} (iterates : pass.Iterates self after outcome)
    {progress : Progress} (ended : outcome = .ok progress) (goesOn : progress.pass = some next) :
    next.rest ⊆ pass.rest := by
  have shorter : ∀ {entry rest}, pass.rest = entry :: rest → rest ⊆ pass.rest :=
    fun head => head ▸ List.subset_cons_self _ _
  cases iterates with
  | finished =>
      cases ended
      cases goesOn
  | raised => cases ended
  | passedOver entry rest head =>
      cases ended
      cases goesOn
      exact shorter head
  | claimed interactionId live rest middle outcome head due claims answers =>
      cases answers with
      | denied | interrupting | interrupted =>
          cases ended
          cases goesOn
          exact shorter head
      | undeniable | failed => cases ended

/-- The orchestrator with the traffic of its managed app-server. The interactive manager
binds only sessions that it created. -/
def hostingSystem (environment : Environment) : System (Runtime × ManagedTraffic) Event where
  initial state := ∃ store, state =
    (Runtime.idle (start environment (CodexOrchestrator.fresh store)).1, .empty)
  step before event after := before.1.step environment event = some after.1 ∧
    after.2 = before.2.observe environment before.1 event ∧
    ∀ sessionId threadId turnId, event = .call (.bindInteractiveThread sessionId threadId turnId) →
      sessionId ∈ before.2.hosted

namespace ManagedTraffic

/-- Every session that somebody else hosts has ended. -/
def HostedEnded (traffic : ManagedTraffic) (tables : CodexTables) : Prop :=
  ∀ session ∈ tables.sessions, session.id ∈ traffic.hosted → session.status.isTerminal

/-- The managed app-server died, or the handler of one of its consumers raised. -/
def Fails (environment : Environment) (runtime : Runtime) : Event → Prop
  | .call (.monitorAppServer _) => True
  | .call (.consumeRequest request) => ∃ error,
      (processServerRequest environment request none none runtime.orchestrator).2 = .error error
  | .call (.consumeNotification notification) => ∃ error,
      (processNotification environment notification runtime.orchestrator).2 = .error error
  | .reply task (.raised _) => ∃ suspended, runtime.tasks.get? task = some suspended ∧
      suspended.frame = .requestError true
  | _ => False

/-- The event does not reach a hosted session through the managed app-server: no hosted
session in a turn is cancelled or loses an expired question, and no hosted session is
active when the managed app-server dies, sends a turn whose status is a list or an
object, or fails to take an error response. -/
def LeavesHosted (state : Runtime × ManagedTraffic) (event : Event) : Prop :=
  let self := state.1.orchestrator
  let inTurn := fun sessionId => sessionId ∈ state.2.hosted ∧
    ∃ session ∈ self.store.tables.sessions, session.id = sessionId ∧
      session.status.isActive ∧ activeTurn session ≠ none
  match event with
  | .call (.cancelSession sessionId) => ¬ inTurn sessionId
  | .call (.monitorAppServer outcome) =>
      self.closing ∨ outcome.any (fun error => error.errorType == .cancelledError) ∨
        state.2.HostedEnded self.store.tables
  | .call (.consumeNotification notification) =>
      notification.Readable self ∨ state.2.HostedEnded self.store.tables
  | .reply task (.raised error) => ∀ suspended, state.1.tasks.get? task = some suspended →
      suspended.frame = .requestError true →
      error.errorType = .cancelledError ∨ state.2.HostedEnded self.store.tables
  | .proceed => ∀ task pass interactionId live rest, state.1.running = some (task, pass) →
      pass.rest = (interactionId, live) :: rest → live.interaction.kind = .userInput →
      live.interaction.expiresAt ≤ pass.currentTime →
      (∃ row, self.store.tables.IsPendingRow interactionId row) →
      ¬ inTurn live.interaction.sessionId
  | _ => True

/-- What keeps both kinds of sessions apart. -/
structure Separate (state : Runtime × ManagedTraffic) : Prop where
  threads : state.2.OwnsThreads state.1.orchestrator.core
  live : state.2.ReceivedIn state.1.orchestrator.core
  calls : ∀ call ∈ state.1.calls, state.2.Proper call
  starts : ∀ entry ∈ state.1.tasks.entries, ∀ sessionId prompt,
    entry.2.frame = .createSessionThread sessionId prompt →
    ∃ cwd model sandbox, entry.2.call = .startThread cwd model sandbox
  suspended : ∀ entry ∈ state.1.tasks.entries, ∀ pass,
    entry.2.frame.pass = some pass → state.2.ReceivesPass pass
  running : ∀ task pass, state.1.running = some (task, pass) → state.2.ReceivesPass pass

variable {environment : Environment} {runtime next : Runtime} {traffic : ManagedTraffic}
  {event : Event}

/-- An event takes only actions that the traffic after it allows. -/
theorem performs_allows (separate : Separate (runtime, traffic))
    (binds : ∀ sessionId threadId turnId,
      event = .call (.bindInteractiveThread sessionId threadId turnId) →
      sessionId ∈ traffic.hosted) {core : Core} {action : CoreAction}
    (performs : runtime.Performs environment event core action) :
    (traffic.observe environment runtime event).Allows core action := by
  have longer := observe_extends environment runtime traffic event
  cases event with
  | call call =>
      cases performs with
      | createSession _ new | createInteractiveSession _ new => exact new
      | bindInteractiveThread => exact fun _ _ => Or.inr (longer.hosted (binds _ _ _ rfl))
      | admitInteraction => exact fun managed => by cases managed
      | consume => exact fun _ => List.mem_append_right _ (List.mem_singleton_self _)
      | notify _ _ performs | consumeNotification _ _ performs =>
          cases performs with
          | recordTurn => exact fun _ impossible => by cases impossible
          | _ => trivial
      | _ => trivial
  | reply task reply =>
      obtain ⟨⟨awaits, frame⟩, found, performs⟩ := performs
      cases performs with
      | startThread threadId _ accepted =>
          obtain ⟨cwd, model, sandbox, rfl⟩ :=
            separate.starts _ (Dict.get?_eq_some.mp found) _ _ rfl
          cases reply with
          | raised => cases accepted
          | returned value isRunning =>
              cases isRunning with
              | false => cases accepted
              | true =>
                  rintro _ ⟨⟩
                  cases accepted
                  simp only [observe, found]
                  exact Or.inl (List.mem_append_right _ (List.mem_singleton_self _))
      | recordTurn => exact fun _ impossible => by cases impossible
      | _ => trivial
  | proceed =>
      obtain ⟨task, pass, inControl, performs⟩ := performs
      cases performs <;> trivial

/-- The thread of a session in a turn. -/
theorem thread_of_activeTurn {session : CodexSession} {threadId turnId : String}
    (inTurn : activeTurn session = some (threadId, turnId)) :
    session.threadId = some threadId := by
  unfold activeTurn at inTurn
  split at inTurn
  next thread turn threadEq turnEq =>
    split at inTurn
    next =>
      cases inTurn
      exact threadEq
    next => cases inTurn
  next => cases inTurn

/-- A resumed handler neither interrupts a turn nor answers a request. -/
theorem proper_of_resumed {frame next : Frame} {call : ExternalCall}
    (reaches : frame.MayReach (.await call next)) : traffic.Proper call := by
  cases call with
  | interruptTurn | respond | respondError =>
      cases frame with
      | requestError consumer => cases consumer <;> cases next <;> exact False.elim reaches
      | _ => cases next <;> exact False.elim reaches
  | _ => trivial

/-- Every call that an event awaits is proper. -/
theorem awaited_proper (separate : Separate (runtime, traffic)) (stored : runtime.PassesStored)
    (pending : runtime.orchestrator.store.tables.PendingActive)
    (leaves : LeavesHosted (runtime, traffic) event) {task : Nat} {code : Code Progress}
    {base : Runtime} (runs : runtime.Runs environment event task code base)
    {call : ExternalCall} {frame : Frame}
    (awaits : (code runtime.orchestrator).2 = .ok (.await call frame)) :
    (traffic.observe environment runtime event).Proper call := by
  have longer := observe_extends environment runtime traffic event
  cases runs with
  | call entry =>
      have reaches : entry.MayReach (.await call frame) :=
        handle_returns entry runtime.orchestrator _ awaits
      cases call with
      | interruptTurn threadId turnId =>
          cases entry with
          | cancelSession sessionId =>
              obtain ⟨session, member, same, active, inTurn⟩ :=
                @cancelSession_interrupts environment runtime.orchestrator sessionId threadId
                  turnId frame awaits
              have own : session.id ∉ traffic.hosted := by
                intro hosted
                refine leaves ⟨same ▸ hosted, session, member, same, active, ?_⟩
                rw [inTurn]
                exact Option.some_ne_none _
              exact longer.threads (separate.threads session member active own threadId
                (thread_of_activeTurn inTurn))
          | _ => cases frame <;> simp only [ApiCall.MayReach] at reaches
      | respond live response =>
          have found : ∃ entry ∈ runtime.orchestrator.live.entries, entry.2 = live := by
            cases entry with
            | resolveInteraction => exact resolveInteraction_answers live response frame awaits
            | resolveTerminalRequest =>
                exact resolveTerminalRequest_answers live response frame awaits
            | _ => cases frame <;> simp only [ApiCall.MayReach] at reaches
          obtain ⟨kept, keptMem, rfl⟩ := found
          exact (separate.live kept keptMem).mono longer
      | respondError responder requestId code message =>
          cases entry with
          | processServerRequest request sessionId =>
              cases frame with
              | requestError consumer =>
                  cases consumer with
                  | false =>
                      intro managed
                      cases reaches.1.symm.trans managed
                  | true => exact False.elim reaches
              | _ => exact False.elim reaches
          | consumeRequest request =>
              cases frame with
              | requestError consumer =>
                  cases consumer with
                  | true =>
                      obtain ⟨_, rfl⟩ := reaches
                      exact fun _ => List.mem_append_right _ (List.mem_singleton_self _)
                  | false => exact False.elim reaches
              | _ => exact False.elim reaches
          | _ => cases frame <;> simp only [ApiCall.MayReach] at reaches
      | _ => trivial
  | reply task reply suspended _ found =>
      have reaches : suspended.frame.MayReach (.await call frame) :=
        resume_returns suspended.frame reply runtime.orchestrator _ awaits
      exact proper_of_resumed reaches
  | proceed task pass inControl =>
      have received := separate.running task pass inControl
      have awaited : pass.Awaits runtime.orchestrator call :=
        expireNext_awaits pass call frame awaits
      cases awaited with
      | respond interactionId live rest response head =>
          exact (received (interactionId, live) (head ▸ List.mem_cons_self)).mono longer
      | interruptTurn interactionId live rest row session threadId turnId head input due waits
          member same inTurn =>
          have entry := stored.running task pass inControl (interactionId, live)
            (head ▸ List.mem_cons_self)
          have rowOf := entry.rowOf waits.1 waits.2.1
          have active := pending row waits.1 waits.2.2 session member
            (same.trans rowOf.sessionId_eq.symm)
          have own : session.id ∉ traffic.hosted := by
            intro hosted
            refine leaves task pass interactionId live rest inControl head input due ⟨row, waits⟩
              ⟨same ▸ hosted, session, member, same, active, ?_⟩
            rw [inTurn]
            exact Option.some_ne_none _
          exact longer.threads (separate.threads session member active own threadId
            (thread_of_activeTurn inTurn))

/-- A call that is recorded is the one that the code awaits. -/
theorem mem_awaited {outcome : Except PyError Progress} {call : ExternalCall}
    (member : call ∈ Runtime.awaited outcome) : ∃ frame, outcome = .ok (.await call frame) := by
  unfold Runtime.awaited at member
  split at member
  next => exact ⟨_, by rw [List.mem_singleton.mp member]⟩
  next => cases member

/-- Only `start_thread` is awaited at the start of `create_session`. -/
theorem startThread_of_frame (stored : runtime.PassesStored) {task : Nat} {code : Code Progress}
    {base : Runtime} (runs : runtime.Runs environment event task code base)
    {call : ExternalCall} {frame : Frame} {sessionId prompt : String}
    (awaits : (code runtime.orchestrator).2 = .ok (.await call frame))
    (starts : frame = .createSessionThread sessionId prompt) :
    ∃ cwd model sandbox, call = .startThread cwd model sandbox := by
  subst starts
  cases runs with
  | call entry =>
      have reaches : entry.MayReach (.await call (.createSessionThread sessionId prompt)) :=
        handle_returns entry runtime.orchestrator _ awaits
      cases call with
      | startThread => exact ⟨_, _, _, rfl⟩
      | _ => cases entry <;> exact False.elim reaches
  | reply task reply suspended _ found =>
      have reaches : suspended.frame.MayReach
          (.await call (.createSessionThread sessionId prompt)) :=
        resume_returns suspended.frame reply runtime.orchestrator _ awaits
      generalize suspended.frame = frame at reaches
      cases frame with
      | requestError consumer => cases consumer <;> cases call <;> exact False.elim reaches
      | _ => cases call <;> exact False.elim reaches
  | proceed task pass inControl =>
      have iterates : (expireNext environment pass).Ends runtime.orchestrator
          (pass.Iterates runtime.orchestrator) :=
        expireNext_iterates (stored.running task pass inControl)
      unfold Foundation.Code.Ends at iterates
      rw [awaits] at iterates
      cases iterates with
      | claimed _ _ _ _ _ _ _ _ answers => cases answers

/-- The entries that are left to a pass were received, also when the traffic grows. -/
theorem ReceivesPass.mono {pass rest : ExpiryPass} {later : ManagedTraffic}
    (received : traffic.ReceivesPass pass) (longer : traffic.Extends later)
    (shorter : rest.rest ⊆ pass.rest) : later.ReceivesPass rest :=
  fun entry member => (received entry (shorter member)).mono longer

/-- A pass that an event goes on with was received. -/
theorem pass_received (separate : Separate (runtime, traffic)) (stored : runtime.PassesStored)
    {task : Nat} {code : Code Progress} {base : Runtime}
    (runs : runtime.Runs environment event task code base) {progress : Progress}
    {pass : ExpiryPass} (ended : (code runtime.orchestrator).2 = .ok progress)
    (goesOn : progress.pass = some pass) :
    (traffic.observe environment runtime event).ReceivesPass pass := by
  have longer := observe_extends environment runtime traffic event
  cases runs with
  | call call =>
      exact fun entry member =>
        (separate.live entry (handle_pass ended goesOn member)).mono longer
  | reply task reply suspended _ found =>
      have reaches : suspended.frame.MayReach progress :=
        resume_returns suspended.frame reply runtime.orchestrator progress ended
      have received := separate.suspended _ (Dict.get?_eq_some.mp found) pass (reaches.pass goesOn)
      exact received.mono longer fun _ => id
  | proceed task whole inControl =>
      have iterates : (expireNext environment whole).Ends runtime.orchestrator
          (whole.Iterates runtime.orchestrator) :=
        expireNext_iterates (stored.running task whole inControl)
      exact (separate.running task whole inControl).mono longer
        (ExpiryPass.Iterates.pass iterates ended goesOn)

/-- An event that leaves the hosted sessions alone keeps both kinds apart. -/
theorem Separate.step (separate : Separate (runtime, traffic)) (stored : runtime.PassesStored)
    (pending : runtime.orchestrator.store.tables.PendingActive)
    (leaves : LeavesHosted (runtime, traffic) event)
    (binds : ∀ sessionId threadId turnId,
      event = .call (.bindInteractiveThread sessionId threadId turnId) →
      sessionId ∈ traffic.hosted)
    (stepped : runtime.step environment event = some next) :
    Separate (next, traffic.observe environment runtime event) := by
  have longer := observe_extends environment runtime traffic event
  have moves := Runtime.step_moves stepped
  obtain ⟨task, code, base, runs, rfl⟩ := Runtime.runs_of_step stepped
  have kept : ∀ entry ∈ base.tasks.entries, entry ∈ runtime.tasks.entries := by
    cases runs with
    | call | proceed => exact fun _ => id
    | reply => exact fun _ member => (Dict.mem_pop.mp member).1
  refine ⟨?_, ?_, ?_, ?_, ?_, ?_⟩
  · apply moves.invariant _ (separate.threads.mono longer)
    rintro core action _ owns performs rfl
    exact owns.perform (performs_allows separate binds performs)
  · refine moves.invariant _ (fun entry member => (separate.live entry member).mono longer) ?_
    rintro core action _ received performs rfl
    exact received.perform (performs_allows separate binds performs)
  · intro call member
    rw [Runtime.settle_calls, runs.base_eq] at member
    rcases List.mem_append.mp member with old | new
    · exact (separate.calls call old).mono longer
    · obtain ⟨frame, awaits⟩ := mem_awaited new
      exact awaited_proper separate stored pending leaves runs awaits
  · intro entry member sessionId prompt frame
    rcases Runtime.mem_settle_tasks member with old | ⟨awaits, _⟩
    · exact separate.starts entry (kept entry old) sessionId prompt frame
    · exact startThread_of_frame stored runs awaits frame
  · intro entry member pass frame
    rcases Runtime.mem_settle_tasks member with old | ⟨awaits, _⟩
    · exact (separate.suspended entry (kept entry old) pass frame).mono longer fun _ => id
    · exact pass_received separate stored runs awaits frame
  · intro number pass inControl
    obtain ⟨proceeds, _⟩ := Runtime.settle_running inControl
    exact pass_received separate stored runs proceeds rfl

/-- The row of an ended session stays. -/
theorem terminal_kept {guard : Core → CoreAction → Prop} {core after : Core}
    (reached : coreSystem.ReachesVia guard core after) {session : CodexSession}
    (member : session ∈ core.tables.sessions) (ended : session.status.isTerminal) :
    session ∈ after.tables.sessions := by
  refine reached.invariant (fun after => session ∈ after.tables.sessions) member ?_
  rintro before action _ kept _ rfl
  obtain ⟨next, nextMem, _, same | active⟩ := before.perform_sessionsKept action session kept
  · exact same ▸ nextMem
  · rw [SessionStatus.isTerminal_eq_not_isActive, active] at ended
    cases ended

/-- A failure of the managed app-server finds no hosted session active, or does nothing. -/
theorem hosted_kept (leaves : LeavesHosted (runtime, traffic) event)
    (fails : Fails environment runtime event)
    (stepped : runtime.step environment event = some next) {session : CodexSession}
    (member : session ∈ runtime.orchestrator.store.tables.sessions)
    (hosted : session.id ∈ traffic.hosted) :
    session ∈ next.orchestrator.store.tables.sessions := by
  have moves := Runtime.step_moves stepped
  have ended : traffic.HostedEnded runtime.orchestrator.store.tables →
      session ∈ next.orchestrator.store.tables.sessions :=
    fun all => terminal_kept moves member (all session member hosted)
  obtain ⟨task, code, base, runs, rfl⟩ := Runtime.runs_of_step stepped
  rw [Runtime.settle_orchestrator] at ended ⊢
  cases runs with
  | call call =>
      cases call with
      | monitorAppServer outcome =>
          rcases leaves with closing | cancelled | all
          · have quiet : (monitorAppServer environment outcome).Ends runtime.orchestrator
                fun after _ => after.store = runtime.orchestrator.store := by
              unfold monitorAppServer
              simp only [Code.ends_self_bind]
              rw [if_pos closing]
              split <;> rfl
            exact quiet.symm ▸ member
          · have quiet : (monitorAppServer environment outcome).Ends runtime.orchestrator
                fun after _ => after.store = runtime.orchestrator.store := by
              unfold monitorAppServer
              simp only [Code.ends_self_bind, cancelled, ↓reduceIte]
              rfl
            exact quiet.symm ▸ member
          · exact ended all
      | consumeRequest request =>
          obtain ⟨error, raised⟩ := fails
          have quiet : HandledQuietly environment
              (processServerRequest environment request none none runtime.orchestrator).2 :=
            processServerRequest_quiet request none none
          rw [raised] at quiet
          rcases quiet with ⟨_, impossible⟩ | ⟨_, _, _, _, _, impossible, _⟩
          · cases impossible
          · cases impossible
      | consumeNotification notification =>
          rcases leaves with readable | all
          · obtain ⟨error, raised⟩ := fails
            have returns : HasReturned (processNotification environment notification
                runtime.orchestrator).2 := (processNotification_returned notification).mpr readable
            obtain ⟨value, returned⟩ := returns
            cases raised.symm.trans returned
          · exact ended all
      | _ => exact False.elim fails
  | reply task reply suspended _ found =>
      cases reply with
      | returned => exact False.elim fails
      | raised error =>
          obtain ⟨other, otherFound, frame⟩ := fails
          obtain rfl := Option.some.inj (found.symm.trans otherFound)
          rcases leaves suspended found frame with cancelled | all
          · rw [frame] at ended ⊢
            have quiet : (resume environment (.requestError true) (.raised error)).Ends
                runtime.orchestrator fun after _ => after.store = runtime.orchestrator.store := by
              simp only [resume, requestErrorSent, consuming, ↓reduceIte, Code.ends_catchAll,
                Code.ends_raise, cancelled]
            exact quiet.symm ▸ member
          · exact ended all
  | proceed => exact False.elim fails

end ManagedTraffic

open ManagedTraffic

/-- An interaction waits only for an active session. -/
theorem reachable_pendingActive {environment : Environment} {runtime : Runtime}
    (reachable : (orchestratorSystem environment).Reachable runtime) :
    runtime.orchestrator.store.tables.PendingActive := by
  refine reachable_core reachable (fun core => core.tables.PendingActive) (fun _ _ => True) ?_
    (fun _ _ _ _ _ _ _ => trivial) fun core action sound _ _ => Core.perform_pendingActive sound
    action
  intro core started row member pending
  rw [started.settled row member] at pending
  cases pending

/-- In every run that leaves hosted sessions alone the two sides are separate. -/
theorem reachable_separate {environment : Environment} {state : Runtime × ManagedTraffic}
    (reachable : (hostingSystem environment).ReachableVia LeavesHosted state) :
    Separate state := by
  have held : (orchestratorSystem environment).Reachable state.1 ∧ Separate state := by
    refine reachable.invariant (fun state =>
      (orchestratorSystem environment).Reachable state.1 ∧ Separate state) ?_ ?_
    · rintro _ ⟨store, rfl⟩
      have started := @start_started environment store
      refine ⟨.initial ⟨store, rfl⟩, ?_, ?_, ?_, ?_, ?_, ?_⟩
      · intro session member active
        rw [started.inactive session member] at active
        cases active
      · intro entry member
        have empty : entry ∈ (Dict.empty : Dict String LiveInteraction).entries :=
          started.live ▸ member
        cases empty
      · exact fun _ absent => absurd absent List.not_mem_nil
      · exact fun _ absent => absurd absent List.not_mem_nil
      · exact fun _ absent => absurd absent List.not_mem_nil
      · rintro _ _ ⟨⟩
    · rintro ⟨runtime, traffic⟩ event ⟨next, after⟩ ⟨reached, separate⟩ leaves ⟨stepped, rfl, binds⟩
      exact ⟨reached.step event stepped, separate.step (reachable_passesStored reached)
        (reachable_pendingActive reached) leaves binds stepped⟩
  exact held.2

/-- In every run that reaches no hosted session through the managed app-server, it is
asked to interrupt only its own threads and to answer only its own requests, and when it
dies or one of its consumers fails, no row of a hosted session changes. -/
theorem managed_server_separate {environment : Environment} {runtime : Runtime}
    {traffic : ManagedTraffic}
    (reachable : (hostingSystem environment).ReachableVia LeavesHosted (runtime, traffic)) :
    (∀ threadId turnId, .interruptTurn threadId turnId ∈ runtime.calls →
      threadId ∈ traffic.threads) ∧
    (∀ live response, .respond live response ∈ runtime.calls → live.responder = .appServer →
      live.request.requestId ∈ traffic.requests) ∧
    (∀ requestId code message, .respondError .appServer requestId code message ∈ runtime.calls →
      requestId ∈ traffic.requests) ∧
    ∀ event next, LeavesHosted (runtime, traffic) event → Fails environment runtime event →
      runtime.step environment event = some next →
      ∀ session ∈ runtime.orchestrator.store.tables.sessions, session.id ∈ traffic.hosted →
        session ∈ next.orchestrator.store.tables.sessions := by
  have separate := reachable_separate reachable
  refine ⟨fun _ _ called => separate.calls _ called, fun _ _ called => separate.calls _ called,
    fun _ _ _ called => separate.calls _ called rfl, ?_⟩
  exact fun event next leaves fails stepped session member hosted =>
    hosted_kept leaves fails stepped member hosted

section Scenarios

/-- The manager binds only its own sessions. -/
def bindsHosted (traffic : ManagedTraffic) : Event → Bool
  | .call (.bindInteractiveThread sessionId _ _) => traffic.hosted.contains sessionId
  | _ => true

/-- The next state, if the event can happen. -/
def hostingStep (state : Runtime × ManagedTraffic) (event : Event) :
    Option (Runtime × ManagedTraffic) :=
  if bindsHosted state.2 event then
    (state.1.step tickingEnvironment event).map fun next =>
      (next, state.2.observe tickingEnvironment state.1 event)
  else none

/-- An executed step is a step of the system. -/
theorem step_of_hostingStep (state : Runtime × ManagedTraffic) (event : Event)
    (after : Runtime × ManagedTraffic) (stepped : hostingStep state event = some after) :
    (hostingSystem tickingEnvironment).step state event after := by
  unfold hostingStep at stepped
  split at stepped
  next binds =>
    obtain ⟨next, advanced, rfl⟩ := Option.map_eq_some_iff.mp stepped
    refine ⟨advanced, rfl, ?_⟩
    rintro sessionId threadId turnId rfl
    exact List.contains_iff_mem.mp binds
  next => cases stepped

/-- Follow events from the first start on an empty database. -/
theorem hosting_of_scenario {guard : Runtime × ManagedTraffic → Event → Prop}
    {property : Runtime × ManagedTraffic → Prop} [DecidablePred property]
    (allowed : Runtime × ManagedTraffic → Event → Bool) (events : List Event)
    (implies : ∀ state event, allowed state event → guard state event)
    (checked : (System.follow hostingStep allowed (startedRuntime, .empty) events).any
      fun state => property state) :
    ∃ state, (hostingSystem tickingEnvironment).ReachableVia guard state ∧ property state := by
  obtain ⟨state, followed, holds⟩ := (Option.any_eq_true _ _).mp checked
  exact ⟨state, ⟨_, ⟨_, rfl⟩, System.reachesVia_of_follow step_of_hostingStep implies followed⟩,
    of_decide_eq_true holds⟩

/-- An interactive session is in a turn of its own app-server. -/
def hostedTurn : List Event :=
  [.call (.createInteractiveSession "interactive" "/work" none "workspace-write"),
    .call (.bindInteractiveThread "id-0" "hosted-thread" (some "hosted-turn"))]

/-- The cancellation of an interactive session interrupts a thread that the managed
app-server does not know. -/
theorem cancel_interrupts_foreign_thread : ∃ runtime traffic,
    (hostingSystem tickingEnvironment).Reachable (runtime, traffic) ∧
      .interruptTurn "hosted-thread" "hosted-turn" ∈ runtime.calls ∧
      "hosted-thread" ∉ traffic.threads := by
  have reached : ∃ state, (hostingSystem tickingEnvironment).Reachable state ∧
      (.interruptTurn "hosted-thread" "hosted-turn" ∈ state.1.calls ∧
        "hosted-thread" ∉ state.2.threads) :=
    hosting_of_scenario (fun _ _ => true) (hostedTurn ++ [.call (.cancelSession "id-0")])
      (fun _ _ _ => trivial) (by decide)
  obtain ⟨⟨runtime, traffic⟩, reachable, called, foreign⟩ := reached
  exact ⟨runtime, traffic, reachable, called, foreign⟩

/-- Calls that succeed, and cancellations of sessions that nobody else hosts. -/
def cancelsOwn (state : Runtime × ManagedTraffic) : Event → Bool
  | .call (.cancelSession sessionId) => !state.2.hosted.contains sessionId
  | .call (.monitorAppServer _) | .call (.consumeNotification _) => false
  | .reply _ (.raised _) | .proceed => false
  | _ => true

/-- The check of a scenario implies the condition on its events. -/
theorem leavesHosted_of_cancelsOwn (state : Runtime × ManagedTraffic) (event : Event)
    (own : cancelsOwn state event) : LeavesHosted state event := by
  cases event with
  | call call =>
      cases call with
      | cancelSession sessionId =>
          intro inTurn
          have foreign := List.contains_iff_mem.mpr inTurn.1
          rw [cancelsOwn, foreign] at own
          cases own
      | monitorAppServer | consumeNotification => cases own
      | _ => trivial
  | reply task reply =>
      cases reply with
      | returned => trivial
      | raised => cases own
  | proceed => cases own

/-- The cancellation of a managed session interrupts a thread that the managed app-server
started, beside an interactive session in a turn. -/
theorem cancel_interrupts_own_thread : ∃ (runtime : Runtime) (traffic : ManagedTraffic),
    .interruptTurn "thread" "turn" ∈ runtime.calls ∧ "thread" ∈ traffic.threads := by
  have reached : ∃ state,
      (hostingSystem tickingEnvironment).ReachableVia LeavesHosted state ∧
        .interruptTurn "thread" "turn" ∈ state.1.calls :=
    hosting_of_scenario cancelsOwn (hostedTurn ++
      [.call (.createSession "name" "/work" "prompt" none "workspace-write"),
        .reply 2 (.returned "thread" true), .reply 2 (.returned "turn" true),
        .call (.cancelSession "id-1")]) leavesHosted_of_cancelsOwn (by decide)
  obtain ⟨⟨runtime, traffic⟩, reachable, called⟩ := reached
  exact ⟨runtime, traffic, called, (managed_server_separate reachable).1 "thread" "turn" called⟩

end Scenarios

end LarkBot
