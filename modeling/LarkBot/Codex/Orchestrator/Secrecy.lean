import Mathlib.Data.Option.Basic
import LarkBot.Codex.Orchestrator.Runtime

/-! # Prompts and answers stay out of the store

A prompt goes to the app-server and an answer to a responder; in between they are local variables
of suspended handlers. Two runs that differ in prompts and in valid answers to requests for user
input are in the same state of the orchestrator after every step: the same rows, at any time, and
the same events (`LarkBot.prompts_and_answers_unrecorded`).
-/

namespace LarkBot

open Foundation

/-- The same place in the same handler, but for the prompt. -/
inductive Frame.Alike : Frame → Frame → Prop
  | refl (frame : Frame) : Alike frame frame
  | createSessionThread (sessionId prompt other : String) :
      Alike (.createSessionThread sessionId prompt) (.createSessionThread sessionId other)

/-- A handler got as far, whatever it hands to the call that it awaits. -/
inductive Progress.Alike : Progress → Progress → Prop
  | refl (progress : Progress) : Alike progress progress
  | await (call other : ExternalCall) {frame next : Frame} (frames : frame.Alike next) :
      Alike (.await call frame) (.await other next)

instance : Std.Refl Progress.Alike := ⟨.refl⟩

section Handlers

variable {environment : Environment} {self : CodexOrchestrator} {sessionId prompt other : String}

/-- Two managed sessions that differ in their prompts are created alike. -/
theorem createSession_agrees (name cwd prompt other : String) (model : Option String)
    (sandbox : String) :
    Code.Agrees Progress.Alike (createSession environment name cwd prompt model sandbox)
      (createSession environment name cwd other model sandbox) := by
  unfold createSession
  refine .bind _ fun timestamp => .bind _ fun sessionId => .bind _ fun _ => ?_
  exact .pure (.await _ _ (.createSessionThread sessionId prompt other))

/-- Two starts that differ in their prompts go on alike. -/
theorem threadStarted_agrees (reply : Reply) :
    Code.Agrees Progress.Alike (threadStarted environment sessionId prompt reply)
      (threadStarted environment sessionId other reply) := by
  unfold threadStarted
  refine .catchAll (.bind _ fun threadId => .bind _ fun updatedAt => .bind _ fun started => ?_) _
  split
  next => exact .pure (.await _ _ (.refl _))
  next => exact .refl _

/-- The response is handed on; the decision is recorded. -/
theorem claimAndRespond_agrees (live : LiveInteraction) (interactionId decision actorId : String)
    (response another : Json) :
    Code.Agrees Progress.Alike
      (claimAndRespond environment live interactionId response decision actorId)
      (claimAndRespond environment live interactionId another decision actorId) := by
  unfold claimAndRespond
  refine .bind _ fun updatedAt => .bind _ fun won => ?_
  split
  next => exact .bind _ fun _ => .pure (.await _ _ (.refl _))
  next => exact .refl _

/-- The answers are valid for the interaction, if it asks for user input. -/
def ValidAnswers (self : CodexOrchestrator) (interactionId : String) (allow : Option Bool)
    (answers : Option (List (String × String))) : Prop :=
  ∀ live, self.live.get? interactionId = some live → live.interaction.kind = .userInput →
    ∃ response, ∀ copyDepth,
      resolution copyDepth .userInput live.request allow answers = .ok response

/-- The result is a valid one for a request for user input, if the request is live. -/
def ValidResult (self : CodexOrchestrator) (requestId : RequestId) (result : Json) : Prop :=
  ∀ live, findLiveByRequestId requestId self.live = some live →
    live.interaction.kind = .userInput ∧
      ∃ decision, terminalDecision .userInput live.request result = .ok decision

/-- Valid answers are recorded as submitted. -/
theorem resolution_userInput {copyDepth : Nat} {request : ServerRequest} {allow : Option Bool}
    {answers : Option (List (String × String))} {response : Json × String}
    (valid : resolution copyDepth .userInput request allow answers = .ok response) :
    response.2 = "submitted" := by
  cases answers with
  | none => cases valid
  | some given =>
      unfold resolution at valid
      dsimp only at valid
      split at valid
      next questions _ =>
        cases read : userInputResponse questions given with
        | error error =>
            rw [read] at valid
            cases valid
        | ok body =>
            rw [read] at valid
            cases valid
            rfl
      next => cases valid

/-- A valid answer to a request for user input is recorded as submitted, whatever it
says. -/
theorem terminalDecision_userInput {request : ServerRequest} {result : Json} {decision : String}
    (valid : terminalDecision .userInput request result = .ok decision) :
    decision = "submitted" := by
  unfold terminalDecision at valid
  split at valid
  next object =>
    dsimp only at valid
    cases read : validateTerminalAnswers request object with
    | error error =>
        rw [read] at valid
        cases valid
    | ok =>
        rw [read] at valid
        cases valid
        rfl
  next => cases valid

/-- An approval does not look at answers. -/
theorem resolution_approval {copyDepth : Nat} {kind : InteractionKind}
    (approval : kind ≠ .userInput) (request : ServerRequest) (allow : Option Bool)
    (answers another : Option (List (String × String))) :
    resolution copyDepth kind request allow answers =
      resolution copyDepth kind request allow another := by
  cases kind with
  | userInput => exact absurd rfl approval
  | _ => rfl

/-- Two resolutions that differ in valid answers write the same. -/
theorem resolveInteraction_agrees (interactionId actorId : String) (allow : Option Bool)
    {answers another : Option (List (String × String))}
    (valid : ValidAnswers self interactionId allow answers)
    (otherValid : ValidAnswers self interactionId allow another) :
    Code.AgreesFrom Progress.Alike self
      (resolveInteraction environment interactionId actorId allow answers)
      (resolveInteraction environment interactionId actorId allow another) := by
  unfold resolveInteraction
  refine .self_bind ?_
  cases found : self.live.get? interactionId with
  | none => exact .refl _
  | some live =>
      by_cases input : live.interaction.kind = .userInput
      · obtain ⟨⟨response, decision⟩, read⟩ := valid live found input
        obtain ⟨⟨otherResponse, otherDecision⟩, otherRead⟩ := otherValid live found input
        have same : decision = otherDecision :=
          (resolution_userInput (read environment.copyDepth)).trans
            (resolution_userInput (otherRead environment.copyDepth)).symm
        subst same
        dsimp only
        rw [input, read, otherRead]
        exact claimAndRespond_agrees live interactionId decision actorId response otherResponse self
      · dsimp only
        rw [resolution_approval input live.request allow answers another]
        exact .refl _

/-- Two answers of the terminal that are both valid write the same. -/
theorem resolveTerminalRequest_agrees {requestId : RequestId} {result another : Json}
    (valid : ValidResult self requestId result) (otherValid : ValidResult self requestId another) :
    Code.AgreesFrom Progress.Alike self (resolveTerminalRequest environment requestId result)
      (resolveTerminalRequest environment requestId another) := by
  unfold resolveTerminalRequest
  refine .self_bind ?_
  cases found : findLiveByRequestId requestId self.live with
  | none => exact .refl _
  | some live =>
      obtain ⟨input, decision, read⟩ := valid live found
      obtain ⟨_, otherDecision, otherRead⟩ := otherValid live found
      have same : decision = otherDecision :=
        (terminalDecision_userInput read).trans (terminalDecision_userInput otherRead).symm
      subst same
      dsimp only
      rw [input, read, otherRead]
      exact claimAndRespond_agrees live live.interaction.id decision "terminal" result another self

end Handlers

/-- The same event, but for a prompt or for valid answers to a request for user input. -/
inductive Event.Alike (self : CodexOrchestrator) : Event → Event → Prop
  | refl (event : Event) : Alike self event event
  | createSession (name cwd prompt other : String) (model : Option String) (sandbox : String) :
      Alike self (.call (.createSession name cwd prompt model sandbox))
        (.call (.createSession name cwd other model sandbox))
  | resolveInteraction (interactionId actorId : String) (allow : Option Bool)
      {answers other : Option (List (String × String))}
      (valid : ValidAnswers self interactionId allow answers)
      (otherValid : ValidAnswers self interactionId allow other) :
      Alike self (.call (.resolveInteraction interactionId actorId allow answers))
        (.call (.resolveInteraction interactionId actorId allow other))
  | resolveTerminalRequest (requestId : RequestId) {result other : Json}
      (valid : ValidResult self requestId result) (otherValid : ValidResult self requestId other) :
      Alike self (.call (.resolveTerminalRequest requestId result))
        (.call (.resolveTerminalRequest requestId other))

namespace Runtime

/-- The same state, but for what suspended handlers hold and the calls that were made. -/
structure Alike (first second : Runtime) : Prop where
  orchestrator : first.orchestrator = second.orchestrator
  tasks : ∀ id, Option.Rel (fun one other => Frame.Alike one.frame other.frame)
    (first.tasks.get? id) (second.tasks.get? id)
  running : first.running = second.running
  nextTask : first.nextTask = second.nextTask
  ended : first.ended = second.ended

variable {environment : Environment} {first second next other : Runtime}

/-- Segments that agree suspend their tasks alike. -/
theorem Alike.settle (alike : first.Alike second) (task : Nat)
    {segment another : CodexOrchestrator × Except PyError Progress}
    (written : segment.1 = another.1)
    (outcomes : Code.SameOutcome Progress.Alike segment.2 another.2) :
    (first.settle task segment).Alike (second.settle task another) := by
  obtain ⟨after, outcome⟩ := segment
  obtain ⟨otherAfter, result⟩ := another
  obtain rfl : after = otherAfter := written
  have same : ∀ outcome, (first.settle task (after, outcome)).Alike
      (second.settle task (after, outcome)) := by
    intro outcome
    rcases outcome with error | value | ⟨call, frame⟩ | pass
    · exact ⟨rfl, alike.tasks, rfl, alike.nextTask, congrArg (· ++ _) alike.ended⟩
    · exact ⟨rfl, alike.tasks, rfl, alike.nextTask, congrArg (· ++ _) alike.ended⟩
    · refine ⟨rfl, fun id => ?_, rfl, alike.nextTask, alike.ended⟩
      change Option.Rel _ ((first.tasks.set task ⟨call, frame⟩).get? id)
        ((second.tasks.set task ⟨call, frame⟩).get? id)
      rw [Dict.get?_set, Dict.get?_set]
      split
      next => exact .some (.refl frame)
      next => exact alike.tasks id
    · exact ⟨rfl, alike.tasks, rfl, alike.nextTask, alike.ended⟩
  cases outcomes with
  | error error => exact same (.error error)
  | ok values =>
      cases values with
      | refl => exact same (.ok _)
      | await call otherCall frames =>
          refine ⟨rfl, fun id => ?_, rfl, alike.nextTask, alike.ended⟩
          change Option.Rel _ ((first.tasks.set task ⟨call, _⟩).get? id)
            ((second.tasks.set task ⟨otherCall, _⟩).get? id)
          rw [Dict.get?_set, Dict.get?_set]
          split
          next => exact .some frames
          next => exact alike.tasks id

/-- Code that agrees, run from alike states, leaves alike states. -/
theorem Alike.runs (alike : first.Alike second) {task otherTask : Nat} (tasks : task = otherTask)
    {self orchestrator : CodexOrchestrator} (states : self = orchestrator)
    {code another : Code Progress} (agrees : Code.AgreesFrom Progress.Alike self code another) :
    (first.settle task (code self)).Alike (second.settle otherTask (another orchestrator)) := by
  subst tasks
  subst states
  exact alike.settle task agrees.1 agrees.2

/-- Two calls whose handlers agree keep two runs alike. -/
theorem Alike.call (alike : first.Alike second) {call otherCall : ApiCall}
    (agrees : Code.AgreesFrom Progress.Alike first.orchestrator (handle environment call)
      (handle environment otherCall))
    (stepped : first.step environment (.call call) = some next)
    (otherStepped : second.step environment (.call otherCall) = some other) :
    next.Alike other := by
  obtain ⟨_, _, _, runs, rfl⟩ := runs_of_step stepped
  obtain ⟨_, _, _, otherRuns, rfl⟩ := runs_of_step otherStepped
  cases runs
  cases otherRuns
  have counted : ({ first with nextTask := first.nextTask + 1 } : Runtime).Alike
      { second with nextTask := second.nextTask + 1 } :=
    ⟨alike.orchestrator, alike.tasks, alike.running, congrArg (· + 1) alike.nextTask, alike.ended⟩
  exact counted.runs alike.nextTask alike.orchestrator agrees

/-- A suspended handler that goes on in both runs keeps them alike. -/
theorem Alike.reply (alike : first.Alike second) {task : Nat} {reply : Reply}
    (stepped : first.step environment (.reply task reply) = some next)
    (otherStepped : second.step environment (.reply task reply) = some other) :
    next.Alike other := by
  obtain ⟨_, _, _, runs, rfl⟩ := runs_of_step stepped
  obtain ⟨_, _, _, otherRuns, rfl⟩ := runs_of_step otherStepped
  cases runs with
  | reply _ _ suspended _ found =>
      cases otherRuns with
      | reply _ _ otherSuspended _ otherFound =>
          have popped : ({ first with tasks := first.tasks.pop task } : Runtime).Alike
              { second with tasks := second.tasks.pop task } := by
            refine ⟨alike.orchestrator, fun id => ?_, alike.running, alike.nextTask, alike.ended⟩
            dsimp only
            rw [Dict.get?_pop, Dict.get?_pop]
            split
            next => exact .none
            next => exact alike.tasks id
          have frames := alike.tasks task
          rw [found, otherFound] at frames
          apply popped.runs rfl alike.orchestrator
          obtain ⟨call, frame⟩ := suspended
          obtain ⟨otherCall, otherFrame⟩ := otherSuspended
          cases frames with
          | some same =>
              cases same with
              | refl => exact .refl _
              | createSessionThread sessionId prompt otherPrompt =>
                  exact threadStarted_agrees reply _

/-- Expiry passes that are alike go on alike. -/
theorem Alike.proceed (alike : first.Alike second)
    (stepped : first.step environment .proceed = some next)
    (otherStepped : second.step environment .proceed = some other) : next.Alike other := by
  obtain ⟨_, _, _, runs, rfl⟩ := runs_of_step stepped
  obtain ⟨_, _, _, otherRuns, rfl⟩ := runs_of_step otherStepped
  cases runs with
  | proceed task pass inControl =>
      cases otherRuns with
      | proceed otherTask otherPass otherControl =>
          rw [← alike.running, inControl] at otherControl
          cases otherControl
          exact alike.runs rfl alike.orchestrator (.refl _)

/-- Alike events keep two runs alike. -/
theorem Alike.step (alike : first.Alike second) {event otherEvent : Event}
    (events : event.Alike first.orchestrator otherEvent)
    (stepped : first.step environment event = some next)
    (otherStepped : second.step environment otherEvent = some other) : next.Alike other := by
  cases events with
  | createSession name cwd prompt otherPrompt model sandbox =>
      refine alike.call ?_ stepped otherStepped
      exact createSession_agrees name cwd prompt otherPrompt model sandbox _
  | resolveInteraction interactionId actorId allow valid otherValid =>
      refine alike.call ?_ stepped otherStepped
      exact resolveInteraction_agrees interactionId actorId allow valid otherValid
  | resolveTerminalRequest requestId valid otherValid =>
      refine alike.call ?_ stepped otherStepped
      exact resolveTerminalRequest_agrees valid otherValid
  | refl =>
      cases event with
      | call call => exact alike.call (.refl _) stepped otherStepped
      | reply task reply => exact alike.reply stepped otherStepped
      | proceed => exact alike.proceed stepped otherStepped

end Runtime

/-- Two runs from one state, step by step. -/
def pairedRuns (environment : Environment) : System (Runtime × Runtime) (Event × Event) where
  initial pair := (orchestratorSystem environment).initial pair.1 ∧ pair.2 = pair.1
  step before events after := before.1.step environment events.1 = some after.1 ∧
    before.2.step environment events.2 = some after.2

/-- Two runs that differ in the prompts of their sessions and in valid answers to requests for user
input leave the same orchestrator: its rows, the database after each transaction, and its events. -/
theorem prompts_and_answers_unrecorded {environment : Environment} {pair : Runtime × Runtime}
    (reachable : (pairedRuns environment).ReachableVia
      (fun before events => events.1.Alike before.1.orchestrator events.2) pair) :
    pair.1.orchestrator = pair.2.orchestrator ∧ pair.1.ended = pair.2.ended := by
  have alike : pair.1.Alike pair.2 := by
    refine reachable.invariant (fun pair => pair.1.Alike pair.2) ?_ ?_
    · rintro ⟨first, second⟩ ⟨_, same⟩
      obtain rfl : second = first := same
      refine ⟨rfl, fun id => ?_, rfl, rfl, rfl⟩
      dsimp only
      cases second.tasks.get? id with
      | none => exact .none
      | some suspended => exact .some (.refl _)
    · intro before events after alike similar stepped
      exact alike.step similar stepped.1 stepped.2
  exact ⟨alike.orchestrator, alike.ended⟩

section Scenarios

def promptEvent (prompt : String) : Event :=
  .call (.createSession "name" "/work" prompt none "workspace-write")

def answerEvent (answer : String) : Event :=
  .call (.resolveInteraction "id-1" "actor" none (some [("colour", answer)]))

def colourResponse (answer : String) : Json :=
  .obj [("answers", .obj [("colour", .obj [("answers", .arr [.str answer])])])]

/-- An interactive session asks one question. -/
def colourAsked : List Event :=
  [.call (.createInteractiveSession "name" "/work" none "workspace-write"),
    .call (.bindInteractiveThread "id-0" "thread" (some "turn")),
    .call (.processServerRequest ⟨.int 1, "item/tool/requestUserInput",
      [("threadId", .str "thread"), ("questions", .arr [.obj [("id", .str "colour")]])]⟩ "id-0")]

/-- The question is answered, and another session starts with a prompt. -/
def answeredAndPrompted (answer prompt : String) (runtime : Runtime) : Option Runtime :=
  (runtime.step tickingEnvironment (answerEvent answer)).bind fun answered =>
    (answered.step tickingEnvironment (promptEvent prompt)).bind fun created =>
      created.step tickingEnvironment (.reply 4 (.returned "other" true))

/-- The answer and the prompt were handed to the responder and to the app-server. -/
def Sends (answer prompt : String) (runtime : Runtime) : Prop :=
  (runtime.calls.any fun call => match call with
    | .respond _ response => response = colourResponse answer
    | _ => false) ∧ .startTurn "other" prompt ∈ runtime.calls

instance {answer prompt : String} {runtime : Runtime} :
    Decidable (Sends answer prompt runtime) := by
  unfold Sends
  infer_instance

/-- A run paired with itself. -/
theorem paired_self {environment : Environment} {runtime : Runtime}
    (reachable : (orchestratorSystem environment).Reachable runtime) :
    (pairedRuns environment).ReachableVia
      (fun before events => events.1.Alike before.1.orchestrator events.2) (runtime, runtime) := by
  obtain ⟨first, initial, run⟩ := reachable
  refine ⟨(first, first), ⟨initial, rfl⟩, ?_⟩
  induction run with
  | refl => exact .refl
  | step event _ _ stepped ih => exact .step (event, event) ih (.refl _) ⟨stepped, stepped⟩

/-- Two answers and two prompts are sent, and the orchestrators are the same. -/
theorem prompts_sent_not_recorded : ∃ asked first second,
    (orchestratorSystem tickingEnvironment).Reachable asked ∧
    answeredAndPrompted "red" "one" asked = some first ∧ Sends "red" "one" first ∧
    answeredAndPrompted "blue" "two" asked = some second ∧ Sends "blue" "two" second ∧
    first.orchestrator = second.orchestrator := by
  obtain ⟨asked, reachable, questions, firstSends, secondSends⟩ : ∃ asked,
      (orchestratorSystem tickingEnvironment).Reachable asked ∧
        ((asked.orchestrator.live.get? "id-1").all fun live =>
          dictGet live.request.params "questions" = some (.arr [.obj [("id", .str "colour")]])) ∧
        ((answeredAndPrompted "red" "one" asked).any fun first => Sends "red" "one" first) ∧
        (answeredAndPrompted "blue" "two" asked).any fun second => Sends "blue" "two" second :=
    reachable_of_scenario (fun _ _ => true) colourAsked (fun _ _ _ => trivial) (by decide)
  obtain ⟨first, firstRun, firstSent⟩ := (Option.any_eq_true _ _).mp firstSends
  obtain ⟨second, secondRun, secondSent⟩ := (Option.any_eq_true _ _).mp secondSends
  obtain ⟨firstAnswered, firstAnswer, prompted⟩ := Option.bind_eq_some_iff.mp firstRun
  obtain ⟨firstCreated, firstPrompt, firstReply⟩ := Option.bind_eq_some_iff.mp prompted
  obtain ⟨secondAnswered, secondAnswer, prompted⟩ := Option.bind_eq_some_iff.mp secondRun
  obtain ⟨secondCreated, secondPrompt, secondReply⟩ := Option.bind_eq_some_iff.mp prompted
  have valid : ∀ answer, ValidAnswers asked.orchestrator "id-1" none
      (some [("colour", answer)]) := by
    intro answer live found _
    rw [found] at questions
    have given := of_decide_eq_true questions
    refine ⟨(colourResponse answer, "submitted"), fun copyDepth => ?_⟩
    simp only [resolution, given]
    rfl
  obtain ⟨start, initial, run⟩ := paired_self reachable
  have answered : (pairedRuns tickingEnvironment).ReachesVia _ start
      (firstAnswered, secondAnswered) :=
    .step (answerEvent "red", answerEvent "blue") run
      (.resolveInteraction _ _ _ (valid "red") (valid "blue")) ⟨firstAnswer, secondAnswer⟩
  have created : (pairedRuns tickingEnvironment).ReachesVia _ start (firstCreated, secondCreated) :=
    .step (promptEvent "one", promptEvent "two") answered
      (.createSession _ _ _ _ _ _) ⟨firstPrompt, secondPrompt⟩
  have replied : (pairedRuns tickingEnvironment).ReachesVia _ start (first, second) :=
    .step (_, _) created (.refl _) ⟨firstReply, secondReply⟩
  exact ⟨asked, first, second, reachable, firstRun, of_decide_eq_true firstSent, secondRun,
    of_decide_eq_true secondSent, (prompts_and_answers_unrecorded ⟨start, initial, replied⟩).1⟩

end Scenarios

end LarkBot
