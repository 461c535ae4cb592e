import LarkBot.Lark.Answers
import LarkBot.Codex.Orchestrator.ResponseDelivery
import LarkBot.Codex.Orchestrator.MessageSafety

/-! # The routing loop

`_route_lark` hands every event of the long connection to `route`, one after the
other, and waits for `resolve_interaction` while other handlers run. It catches an
exception outside of its loop, so one that leaves `route` ends it.
-/

namespace LarkBot

open Foundation

/-- Where `_route_lark` is. -/
inductive RoutingLoop where
  | waiting
  /-- In `resolve_interaction`, which is suspended. -/
  | resolving (interactionId : String) (task : Nat)
  | ended (degradedReason : Option String)
  deriving DecidableEq

/-- The orchestrator, the ids in `codex_event_dedupe`, the queue of the long connection
and the routing loop, with the events that arrived and those that were handed to `route`. -/
structure LarkRouting where
  runtime : Runtime
  dedupe : Finset String
  events : List LarkControlEvent
  terminalError : Option PyError
  loop : RoutingLoop
  results : List LarkControlResult
  arrived : List LarkControlEvent
  routed : List LarkControlEvent

inductive LarkRoutingEvent where
  /-- The pump of the long connection queues an event. -/
  | arrive (event : LarkControlEvent)
  /-- The pump stops. -/
  | disconnect (error : PyError)
  /-- `events.get()` returns the oldest event, which is handed to `route`. -/
  | take
  /-- `events.get()` times out. -/
  | timeout
  | orchestrator (event : Event)
  deriving DecidableEq

namespace LarkRouting

/-- The loop ends with an error; a cancelled loop gives no reason. -/
def fail (routing : LarkRouting) (error : PyError) : LarkRouting :=
  { routing with
    loop := .ended (if error.errorType = .cancelledError then none
      else some ("Lark event routing unavailable (" ++ error.errorType.name ++ ")")) }

def finish (routing : LarkRouting) (result : LarkControlResult) : LarkRouting :=
  { routing with loop := .waiting, results := routing.results ++ [result] }

/-- How far `resolve_interaction` got decides how the loop goes on. -/
def resolved (routing : LarkRouting) (interactionId : String) (task : Nat) :
    Except PyError Progress → LarkRouting
  | .ok (.returned value) =>
      routing.finish (resolvedResult interactionId (value == .bool true))
  | .ok _ => { routing with loop := .resolving interactionId task }
  | .error error => routing.fail error

/-- `route`, up to its first suspension. -/
def route (environment : Environment) (routing : LarkRouting) (event : LarkControlEvent) :
    LarkRouting :=
  if event.eventId ∈ routing.dedupe then routing.finish ⟨false, "duplicate", none⟩
  else
    let recorded := { routing with dedupe := insert event.eventId routing.dedupe }
    match routeRecorded routing.runtime.orchestrator event with
    | .error error => recorded.fail error
    | .ok (.done result) => recorded.finish result
    | .ok (.resolve interactionId actorId allow answers) =>
        let call := ApiCall.resolveInteraction interactionId actorId allow answers
        match routing.runtime.step environment (.call call) with
        | none => recorded
        | some runtime => { recorded with runtime }.resolved interactionId
            routing.runtime.nextTask (handle environment call routing.runtime.orchestrator).2

/-- What the loop does when a handler of the orchestrator went on. -/
def goOn (environment : Environment) (routing : LarkRouting) (runtime : Runtime) :
    Event → LarkRouting
  | .reply task reply =>
      match routing.loop, routing.runtime.tasks.get? task with
      | .resolving interactionId awaited, some suspended =>
          if task = awaited then { routing with runtime }.resolved interactionId task
            (resume environment suspended.frame reply routing.runtime.orchestrator).2
          else { routing with runtime }
      | _, _ => { routing with runtime }
  | _ => { routing with runtime }

/-- The state after an event, if the event can happen. -/
def step (environment : Environment) (routing : LarkRouting) :
    LarkRoutingEvent → Option LarkRouting
  | .arrive event =>
      if routing.terminalError = none then
        some { routing with
          events := routing.events ++ [event], arrived := routing.arrived ++ [event] }
      else none
  | .disconnect error =>
      if routing.terminalError = none then some { routing with terminalError := some error }
      else none
  | .take =>
      match routing.loop, routing.events, routing.runtime.running with
      | .waiting, event :: rest, none =>
          some ({ routing with events := rest, routed := routing.routed ++ [event] }.route
            environment event)
      | _, _, _ => none
  | .timeout =>
      match routing.loop, routing.events, routing.terminalError with
      | .waiting, [], some error => some (routing.fail error)
      | .waiting, [], none => some routing
      | _, _, _ => none
  | .orchestrator event =>
      (routing.runtime.step environment event).map fun runtime =>
        routing.goOn environment runtime event

/-- The loop starts after the orchestrator, on any database. -/
def started (runtime : Runtime) (dedupe : Finset String) : LarkRouting where
  runtime := runtime
  dedupe := dedupe
  events := []
  terminalError := none
  loop := .waiting
  results := []
  arrived := []
  routed := []

end LarkRouting

/-- The runs of the routing loop beside the orchestrator. -/
def larkRoutingSystem (environment : Environment) : System LarkRouting LarkRoutingEvent where
  initial routing := ∃ store dedupe, routing = .started
    (Runtime.idle (start environment (CodexOrchestrator.fresh store)).1) dedupe
  step before event after := before.step environment event = some after

/-- Every event that arrived was handed to `route` or waits for its turn, in order, and
the loop takes the events that wait: it ends only when the connection did, with
nothing left to take. -/
structure LarkRouting.HandsEvery (routing : LarkRouting) : Prop where
  inOrder : routing.arrived = routing.routed ++ routing.events
  listens : ∀ degradedReason, routing.loop = .ended degradedReason →
    routing.events = [] ∧ routing.terminalError.isSome

/-- The message that a control event is about. -/
def LarkControlEvent.correlationId : LarkControlEvent → String
  | .reaction event => event.messageId
  | .message event => event.correlationId

/-- The answer to an approval that the event carries. -/
def LarkControlEvent.allow? : LarkControlEvent → Option Bool
  | .reaction event =>
      if ["thumbsup", "+1"].any (foldsTo event.emojiType.toList) then some true
      else if ["thumbsdown", "-1"].any (foldsTo event.emojiType.toList) then some false
      else none
  | .message event => parseApprovalAnswer (stripMentions event.text.toList)

/-- The permissions of a permission request are an object, if they are given, and can be
copied if they are granted. -/
def Grantable (copyDepth : Nat) (live : LiveInteraction) (allow : Bool) : Prop :=
  live.interaction.kind = .permissionRequest →
    ∀ permissions, dictGet live.request.params "permissions" = some permissions →
      ∃ fields, permissions = .obj fields ∧ (allow → permissions.depth ≤ copyDepth)

/-- The control event answers an interaction that the resolver can make a response for. -/
structure LarkControlEvent.Answerable (environment : Environment)
    (orchestrator : CodexOrchestrator) (event : LarkControlEvent) : Prop where
  permissions : ∀ row live allow,
    orchestrator.store.tables.getPendingInteractionByLarkMessageId event.correlationId = some row →
    orchestrator.live.get? row.id = some live → event.allow? = some allow →
      Grantable environment.copyDepth live allow
  /-- A reply to questions in which the bot is addressed is readable. -/
  reply : ∀ row message, event = .message message →
    orchestrator.store.tables.getPendingInteractionByLarkMessageId event.correlationId = some row →
    row.kind = .userInput → foldsTo message.chatType.toList "p2p" ∨ message.mentionedBot →
      ReadableReply (getUserInputQuestionIds orchestrator.live row.id)
        (stripMentions message.text.toList)

/-- A new event that the loop takes is answerable, and no responder raises while the
loop waits for it. -/
def LarkRouting.RoutesQuietly (environment : Environment) (routing : LarkRouting) :
    LarkRoutingEvent → Prop
  | .take => ∀ event rest, routing.events = event :: rest → event.eventId ∉ routing.dedupe →
      event.actorId ≠ "" → event.Answerable environment routing.runtime.orchestrator
  | .orchestrator (.reply task (.raised _)) => ∀ interactionId,
      routing.loop ≠ .resolving interactionId task
  | _ => True

section Resolving

variable {environment : Environment} {self : CodexOrchestrator}

/-- An approval that can be granted or denied so has a response and a decision. -/
theorem approval_resolution {live : LiveInteraction} (approval : live.interaction.kind ≠ .userInput)
    {allow : Bool} (grantable : Grantable environment.copyDepth live allow) :
    ∃ response decision normalized,
      resolution environment.copyDepth live.interaction.kind live.request (some allow) none =
        .ok (response, decision) ∧
        normalizeDecision live.interaction.kind decision = .ok normalized := by
  cases kind : live.interaction.kind with
  | userInput => exact absurd kind approval
  | execApproval => cases allow <;> exact ⟨_, _, _, rfl, rfl⟩
  | fileChangeApproval => cases allow <;> exact ⟨_, _, _, rfl, rfl⟩
  | permissionRequest =>
      have built : ∃ response, permissionResponse environment.copyDepth live.request.params allow =
          .ok response := by
        cases given : dictGet live.request.params "permissions" with
        | none =>
            refine ⟨_, permissionResponse_eq_ok.mpr ⟨[], ?_, fun _ => ?_, rfl⟩⟩
            · rw [given]
              rfl
            · exact environment.copyDepth_positive
        | some permissions =>
            obtain ⟨fields, rfl, fits⟩ := grantable kind permissions given
            refine ⟨_, permissionResponse_eq_ok.mpr ⟨fields, ?_, fits, rfl⟩⟩
            rw [given]
            rfl
      obtain ⟨response, built⟩ := built
      have resolves : resolution environment.copyDepth .permissionRequest live.request (some allow)
          none =
          .ok (response, if allow then "granted" else "denied") := by
        simp only [resolution, built]
        rfl
      cases allow <;> exact ⟨_, _, _, resolves, rfl⟩

/-- Answers to questions with distinct ids have a response. -/
theorem input_resolution {live : LiveInteraction} {questions : List Json} {ids : List String}
    {answers : List (String × String)} (input : live.interaction.kind = .userInput)
    (given : dictGet live.request.params "questions" = some (.arr questions))
    (named : questions.map questionIdOf = ids.map some) (distinct : ids.Nodup)
    (all : answersAll ids answers) : ∃ response,
      resolution environment.copyDepth live.interaction.kind live.request none (some answers) =
        .ok (response, "submitted") := by
  obtain ⟨response, built⟩ := userInputResponse_ok named distinct all
  refine ⟨response, ?_⟩
  rw [input]
  simp only [resolution, given, built]
  rfl

/-- A resolver whose decision the row allows loses, or awaits its response. -/
theorem claimAndRespond_settled {live : LiveInteraction} {interactionId : String}
    {response : Json} {decision actorId : String} {normalized : InteractionDecision}
    (stored : live.StoredAs self.store.tables interactionId)
    (allowed : normalizeDecision live.interaction.kind decision = .ok normalized) :
    (claimAndRespond environment live interactionId response decision actorId).Ends self
      fun _ outcome => outcome = .ok (.returned (.bool false)) ∨
        outcome = .ok (.await (.respond live response) (.resolve live decision)) := by
  unfold claimAndRespond
  simp only [ends_utcNow_bind, ends_storeOrRaise_bind]
  split
  next won tables done =>
    cases won with
    | false => exact Or.inl rfl
    | true => exact Or.inr rfl
  next error raised =>
    unfold CodexTables.resolveInteractionAndRefreshSession at raised
    rw [dif_pos (Or.inl rfl)] at raised
    split at raised
    next => cases raised
    next row found =>
      obtain ⟨member, same⟩ := CodexTables.getInteraction_eq_some.mp found
      rw [(stored.rowOf member same).kind_eq, allowed] at raised
      split at raised
      next impossible => cases impossible
      next => split at raised <;> cases raised

/-- A resolver after its responder returned reports the decision and returns. -/
theorem responseSent_returned {live : LiveInteraction} {decision value : String}
    {isRunning : Bool} (stored : live.StoredAs self.store.tables live.interaction.id) :
    (responseSent environment live decision (.returned value isRunning)).Ends self
      fun _ outcome => outcome = .ok (.returned (.bool true)) := by
  unfold responseSent
  simp only [ends_getSession_bind]
  split
  next => rfl
  next current found =>
    have requested : ∀ id ∈ some live.interaction.id,
        (self.store.tables.getInteraction id).isSome := by
      rintro _ ⟨⟩
      obtain ⟨row, member, rowOf⟩ := stored.row
      exact Option.isSome_of_eq_some
        (CodexTables.getInteraction_eq_some.mpr ⟨member, rowOf.id_eq⟩)
    cases current.status.isActive with
    | false => rfl
    | true =>
        have sent := @emit_ok environment .interactionResolved live.interaction.sessionId .running
          decision (some live.interaction.id) self (Option.isSome_of_eq_some found) requested
        exact sent.bind (fun _ _ _ => rfl) fun _ _ raised => by cases raised

/-- Whoever resolves the interaction has a response and a decision that its row allows. -/
def Resolvable (environment : Environment) (self : CodexOrchestrator) (interactionId : String)
    (allow : Option Bool) (answers : Option (List (String × String))) : Prop :=
  ∀ live, self.live.get? interactionId = some live → ∃ response decision normalized,
    resolution environment.copyDepth live.interaction.kind live.request allow answers =
      .ok (response, decision) ∧
      normalizeDecision live.interaction.kind decision = .ok normalized

/-- A live entry is of the kind of the row that a message id finds. -/
theorem kind_of_pending {messageId : String} {row : PendingInteraction} {live : LiveInteraction}
    (rows : self.core.LiveRows)
    (found : self.store.tables.getPendingInteractionByLarkMessageId messageId = some row)
    (entry : self.live.get? row.id = some live) : live.interaction.kind = row.kind := by
  have member : row ∈ self.store.tables.interactions := by
    unfold CodexTables.getPendingInteractionByLarkMessageId at found
    split at found
    next => cases found
    next => exact List.mem_of_find?_eq_some found
  have stored : live.StoredAs self.store.tables row.id := rows _ (Dict.get?_eq_some.mp entry)
  exact (stored.rowOf member rfl).kind_eq.symm

/-- A waiting approval can be answered when its permissions can be granted. -/
theorem resolvable_of_approval {messageId : String} {row : PendingInteraction}
    (rows : self.core.LiveRows)
    (found : self.store.tables.getPendingInteractionByLarkMessageId messageId = some row)
    (approval : row.kind ≠ .userInput)
    {allow : Bool} (permissions : ∀ live, self.live.get? row.id = some live →
      Grantable environment.copyDepth live allow) :
    Resolvable environment self row.id (some allow) none := by
  intro live entry
  have same := kind_of_pending rows found entry
  exact approval_resolution (same ▸ approval) (permissions live entry)

/-- A waiting question can be answered by answers to each of its questions. -/
theorem resolvable_of_answers {interactionId : String} {answers : List (String × String)}
    (asked : getUserInputQuestionIds self.live interactionId ≠ [])
    (distinct : (getUserInputQuestionIds self.live interactionId).Nodup)
    (all : answersAll (getUserInputQuestionIds self.live interactionId) answers) :
    Resolvable environment self interactionId none (some answers) := by
  intro live entry
  obtain ⟨found, questions, same, input, given, named⟩ := questions_of_ids asked
  obtain rfl : found = live := Option.some.inj (same.symm.trans entry)
  obtain ⟨response, resolves⟩ := input_resolution input given named distinct all
  rw [input] at resolves
  rw [input]
  exact ⟨response, "submitted", .submitted, resolves, rfl⟩

/-- An answerable reaction is routed to an interaction that can be answered so. -/
theorem routeReaction_resolvable {event : LarkReactionEvent} (rows : self.core.LiveRows)
    (answerable : (LarkControlEvent.reaction event).Answerable environment self)
    {interactionId actorId : String} {allow : Option Bool}
    {answers : Option (List (String × String))}
    (resolves : routeReaction self.store.tables event =
      .resolve interactionId actorId allow answers) :
    Resolvable environment self interactionId allow answers := by
  unfold routeReaction at resolves
  split at resolves
  next => cases resolves
  next row found =>
    dsimp only at resolves
    split_ifs at resolves with input up down
    · cases resolves
      apply resolvable_of_approval rows found input
      intro live entry
      apply answerable.permissions row live true found entry
      simp only [LarkControlEvent.allow?, List.any_cons, List.any_nil, Bool.or_false, up,
        ↓reduceIte]
    · cases resolves
      apply resolvable_of_approval rows found input
      intro live entry
      apply answerable.permissions row live false found entry
      simp only [LarkControlEvent.allow?, List.any_cons, List.any_nil, Bool.or_false]
      rw [if_neg up, if_pos down]

/-- An answerable message is routed to an interaction that can be answered so. -/
theorem routeMessage_resolvable {event : LarkMessageEvent} (rows : self.core.LiveRows)
    (answerable : (LarkControlEvent.message event).Answerable environment self) :
    ∃ step, routeMessage self event = .ok step ∧
      ∀ interactionId actorId allow answers, step = .resolve interactionId actorId allow answers →
        Resolvable environment self interactionId allow answers := by
  unfold routeMessage
  split
  next => exact ⟨_, rfl, fun _ _ _ _ impossible => by cases impossible⟩
  next =>
    split
    next => exact ⟨_, rfl, fun _ _ _ _ impossible => by cases impossible⟩
    next row found =>
      dsimp only
      by_cases approval : row.kind ≠ .userInput
      · rw [if_pos approval]
        split
        next => exact ⟨_, rfl, fun _ _ _ _ impossible => by cases impossible⟩
        next allow parsed =>
          refine ⟨_, rfl, ?_⟩
          rintro _ _ _ _ ⟨⟩
          apply resolvable_of_approval rows found approval
          intro live entry
          exact answerable.permissions row live allow found entry parsed
      rw [if_neg approval]
      split
      next => exact ⟨_, rfl, fun _ _ _ _ impossible => by cases impossible⟩
      next unaddressed =>
        have addressed : foldsTo event.chatType.toList "p2p" ∨ event.mentionedBot := by
          rw [Bool.and_eq_true, Bool.not_eq_true', Bool.not_eq_true', not_and_or,
            Bool.not_eq_false, Bool.not_eq_false] at unaddressed
          exact unaddressed
        obtain ⟨parsed, read, answered⟩ := parseAnswers_ok
          (answerable.reply row event rfl found (not_not.mp approval) addressed)
        rw [read]
        refine ⟨_, rfl, fun interactionId actorId allow answers resolves => ?_⟩
        cases parsed with
        | none => cases resolves
        | some given =>
            cases resolves
            obtain ⟨asked, distinct, all⟩ := answered given rfl
            exact resolvable_of_answers asked distinct all

/-- An answerable event is read, and whatever it resolves can be answered. -/
theorem routeRecorded_resolvable {event : LarkControlEvent} (rows : self.core.LiveRows)
    (answerable : event.actorId ≠ "" → event.Answerable environment self) :
    ∃ step, routeRecorded self event = .ok step ∧
      ∀ interactionId actorId allow answers, step = .resolve interactionId actorId allow answers →
        Resolvable environment self interactionId allow answers := by
  unfold routeRecorded
  split_ifs with missing
  · exact ⟨_, rfl, fun _ _ _ _ impossible => by cases impossible⟩
  · cases event with
    | reaction event =>
        exact ⟨_, rfl, fun _ _ _ _ => routeReaction_resolvable rows (answerable missing)⟩
    | message event => exact routeMessage_resolvable rows (answerable missing)

/-- What is resolvable is lost to another answer, or awaits its response. -/
theorem resolveInteraction_settled {interactionId actorId : String} {allow : Option Bool}
    {answers : Option (List (String × String))} (rows : self.core.LiveRows)
    (resolvable : Resolvable environment self interactionId allow answers) :
    (resolveInteraction environment interactionId actorId allow answers).Ends self
      fun _ outcome => outcome = .ok (.returned (.bool false)) ∨
        ∃ live response decision, live.StoredAs self.store.tables interactionId ∧
          outcome = .ok (.await (.respond live response) (.resolve live decision)) := by
  unfold resolveInteraction
  simp only [Code.ends_self_bind]
  split
  next => exact Or.inl rfl
  next live found =>
    obtain ⟨response, decision, normalized, resolves, allowed⟩ := resolvable live found
    have stored : live.StoredAs self.store.tables interactionId :=
      rows _ (Dict.get?_eq_some.mp found)
    rw [Code.ends_lift_bind, resolves]
    apply (claimAndRespond_settled stored allowed).mono
    intro _ outcome settled
    exact settled.imp_right fun awaits => ⟨live, response, decision, stored, awaits⟩

end Resolving

namespace LarkRouting

variable {environment : Environment} {routing next : LarkRouting}

/-- The loop waits for a handler that is suspended in a responder, and for no other. -/
def AwaitsResponder (routing : LarkRouting) : Prop :=
  ∀ interactionId task, routing.loop = .resolving interactionId task →
    ∃ live response decision, routing.runtime.tasks.get? task =
        some ⟨.respond live response, .resolve live decision⟩ ∧
      live.StoredAs routing.runtime.orchestrator.store.tables live.interaction.id

/-- What holds in every state that is reached quietly. -/
structure Quiet (environment : Environment) (routing : LarkRouting) : Prop where
  runtime : (orchestratorSystem environment).Reachable routing.runtime
  awaits : routing.AwaitsResponder
  hands : routing.HandsEvery

/-- The loop goes on, and no event moves. -/
structure GoesOn (environment : Environment) (routing next : LarkRouting) : Prop where
  events : next.events = routing.events
  arrived : next.arrived = routing.arrived
  routed : next.routed = routing.routed
  runtime : (orchestratorSystem environment).Reachable next.runtime
  awaits : next.AwaitsResponder
  listens : ∀ degradedReason, next.loop ≠ .ended degradedReason

/-- A loop that goes on after an event in order stays quiet. -/
theorem GoesOn.quiet (goesOn : GoesOn environment routing next)
    (inOrder : routing.arrived = routing.routed ++ routing.events) : Quiet environment next where
  runtime := goesOn.runtime
  awaits := goesOn.awaits
  hands := by
    refine ⟨?_, fun degradedReason ended => absurd ended (goesOn.listens degradedReason)⟩
    rw [goesOn.arrived, goesOn.routed, goesOn.events, inOrder]

/-- A loop that waits for the next event goes on. -/
theorem goesOn_finish (runtime : (orchestratorSystem environment).Reachable routing.runtime)
    (result : LarkControlResult) : GoesOn environment routing (routing.finish result) where
  events := rfl
  arrived := rfl
  routed := rfl
  runtime := runtime
  awaits := fun _ _ impossible => by cases impossible
  listens := fun _ impossible => by cases impossible

/-- A runtime that is not in a pass runs a call at once. -/
theorem step_of_idle {runtime : Runtime} (idle : runtime.running = none) (call : ApiCall) :
    runtime.step environment (.call call) =
      some ({ runtime with nextTask := runtime.nextTask + 1 }.settle runtime.nextTask
        (handle environment call runtime.orchestrator)) := by
  simp only [Runtime.step]
  split
  next busy =>
    rw [idle] at busy
    cases busy
  next => rfl

/-- `route` goes on with an event that is answerable if it is new. -/
theorem goesOn_route (runtime : (orchestratorSystem environment).Reachable routing.runtime)
    (idle : routing.runtime.running = none) {event : LarkControlEvent}
    (answerable : event.eventId ∉ routing.dedupe → event.actorId ≠ "" →
      event.Answerable environment routing.runtime.orchestrator) :
    GoesOn environment routing (routing.route environment event) := by
  have rows : routing.runtime.orchestrator.core.LiveRows := reachable_liveRows runtime
  unfold route
  split
  next => exact goesOn_finish runtime _
  next new =>
    obtain ⟨step, read, resolves⟩ := routeRecorded_resolvable rows (answerable new)
    rw [read]
    cases step with
    | done result => exact ⟨rfl, rfl, rfl, runtime, nofun, nofun⟩
    | resolve interactionId actorId allow answers =>
        have stepped : routing.runtime.step environment
            (.call (.resolveInteraction interactionId actorId allow answers)) =
          some ({ routing.runtime with nextTask := routing.runtime.nextTask + 1 }.settle
            routing.runtime.nextTask (handle environment
              (.resolveInteraction interactionId actorId allow answers)
              routing.runtime.orchestrator)) := step_of_idle idle _
        have reached := runtime.step _ stepped
        dsimp only
        rw [stepped]
        dsimp only
        have settled := @resolveInteraction_settled environment routing.runtime.orchestrator
          interactionId actorId allow answers rows (resolves interactionId actorId allow answers
            rfl)
        rcases settled with lost | ⟨live, response, decision, stored, awaits⟩
        · have outcome : (handle environment
              (.resolveInteraction interactionId actorId allow answers)
              routing.runtime.orchestrator).2 = .ok (.returned (.bool false)) := lost
          rw [outcome]
          exact ⟨rfl, rfl, rfl, reached, nofun, nofun⟩
        · have outcome : (handle environment
              (.resolveInteraction interactionId actorId allow answers)
              routing.runtime.orchestrator).2 =
                .ok (.await (.respond live response) (.resolve live decision)) := awaits
          rw [outcome]
          refine ⟨rfl, rfl, rfl, reached, ?_, nofun⟩
          rintro _ _ ⟨⟩
          refine ⟨live, response, decision, ?_, ?_⟩
          · exact Dict.get?_eq_some.mpr (Runtime.mem_settle_of_await outcome)
          · have persists := Core.persists_of_reachesVia (Runtime.step_moves stepped)
            exact persists.stored _ _ (stored.key ▸ stored)

/-- A suspended handler stays suspended until a reply resumes it. -/
theorem suspended_of_step {before after : Runtime} {event : Event} {task : Nat} {suspended : Task}
    (numbered : before.WellNumbered) (stepped : before.step environment event = some after)
    (found : before.tasks.get? task = some suspended) (other : ∀ reply, event ≠ .reply task reply) :
    after.tasks.get? task = some suspended := by
  obtain ⟨runs, code, base, ran, rfl⟩ := Runtime.runs_of_step stepped
  exact Dict.get?_eq_some.mpr
    (Runtime.mem_settle_of_runs numbered ran (Dict.get?_eq_some.mp found) other)

/-- An event that does not answer the loop leaves it alone. -/
theorem goOn_of_unanswered {runtime : Runtime} {event : Event}
    (unanswered : ∀ interactionId task, routing.loop = .resolving interactionId task →
      ∀ reply, event ≠ .reply task reply) :
    routing.goOn environment runtime event = { routing with runtime } := by
  cases event with
  | call | proceed => rfl
  | reply task reply =>
      simp only [goOn]
      split
      next interactionId awaited _ resolving _ =>
        apply if_neg
        intro same
        exact unanswered interactionId awaited resolving reply (congrArg (Event.reply · reply) same)
      next => rfl

/-- The loop goes on with its responder, which does not raise, or waits for it. -/
theorem Quiet.orchestrator (quiet : Quiet environment routing) {event : Event} {runtime : Runtime}
    (stepped : routing.runtime.step environment event = some runtime)
    (allowed : routing.RoutesQuietly environment (.orchestrator event)) :
    Quiet environment (routing.goOn environment runtime event) := by
  have reached := quiet.runtime.step event stepped
  have numbered : routing.runtime.WellNumbered := reachable_wellNumbered quiet.runtime
  have persists := Core.persists_of_reachesVia (Runtime.step_moves stepped)
  by_cases answered : ∃ interactionId task reply,
      routing.loop = .resolving interactionId task ∧ event = .reply task reply
  · obtain ⟨interactionId, task, reply, resolving, rfl⟩ := answered
    obtain ⟨live, response, decision, found, stored⟩ := quiet.awaits interactionId task resolving
    cases reply with
    | raised error => exact absurd resolving (allowed interactionId)
    | returned value isRunning =>
        have sent : (resume environment (.resolve live decision) (.returned value isRunning)
            routing.runtime.orchestrator).2 = .ok (.returned (.bool true)) :=
          @responseSent_returned environment _ live decision value isRunning stored
        simp only [goOn, resolving, found, ↓reduceIte, sent, resolved]
        refine ⟨reached, ?_, quiet.hands.inOrder, ?_⟩
        · intro interactionId task impossible
          cases impossible
        · intro degradedReason impossible
          cases impossible
  · have unanswered : ∀ interactionId task, routing.loop = .resolving interactionId task →
        ∀ reply, event ≠ .reply task reply := fun interactionId task resolving reply same =>
      answered ⟨interactionId, task, reply, resolving, same⟩
    rw [goOn_of_unanswered unanswered]
    refine ⟨reached, fun interactionId task resolving => ?_, quiet.hands.inOrder,
      quiet.hands.listens⟩
    obtain ⟨live, response, decision, found, stored⟩ := quiet.awaits interactionId task resolving
    exact ⟨live, response, decision,
      suspended_of_step numbered stepped found (unanswered interactionId task resolving),
      persists.stored _ _ stored⟩

/-- Every allowed event leaves the loop quiet. -/
theorem Quiet.step (quiet : Quiet environment routing) {event : LarkRoutingEvent}
    (allowed : routing.RoutesQuietly environment event)
    (stepped : routing.step environment event = some next) : Quiet environment next := by
  cases event with
  | arrive event =>
      simp only [LarkRouting.step] at stepped
      split at stepped <;> cases stepped
      next connected =>
        refine ⟨quiet.runtime, quiet.awaits, ?_, fun degradedReason ended => ?_⟩
        · rw [quiet.hands.inOrder, List.append_assoc]
        · have disconnected := (quiet.hands.listens degradedReason ended).2
          rw [connected] at disconnected
          cases disconnected
  | disconnect error =>
      simp only [LarkRouting.step] at stepped
      split at stepped <;> cases stepped
      exact ⟨quiet.runtime, quiet.awaits, quiet.hands.inOrder, fun degradedReason ended =>
        ⟨(quiet.hands.listens degradedReason ended).1, rfl⟩⟩
  | take =>
      simp only [LarkRouting.step] at stepped
      split at stepped <;> cases stepped
      next event rest _ queue idle =>
        have taken := @goesOn_route environment
          { routing with events := rest, routed := routing.routed ++ [event] } quiet.runtime idle
          event (allowed event rest queue)
        apply taken.quiet
        rw [quiet.hands.inOrder, queue, List.append_assoc]
        rfl
  | timeout =>
      simp only [LarkRouting.step] at stepped
      split at stepped <;> cases stepped
      next error waiting empty disconnected =>
        refine ⟨quiet.runtime, nofun, quiet.hands.inOrder, fun _ _ => ⟨empty, ?_⟩⟩
        exact Option.isSome_of_eq_some disconnected
      next => exact quiet
  | orchestrator event =>
      obtain ⟨runtime, ran, rfl⟩ := Option.map_eq_some_iff.mp stepped
      exact quiet.orchestrator ran allowed

end LarkRouting

section Scenarios

end Scenarios

end LarkBot
