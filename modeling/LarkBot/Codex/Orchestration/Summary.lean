import LarkBot.Core.Redaction
import LarkBot.Codex.Model

/-! # Events and the summaries they carry

The events of the orchestrator, and what it reads out of request and turn
parameters. Parameters are not validated: a field of another type is skipped,
except that a turn status which cannot be hashed raises.
-/

namespace LarkBot

inductive OrchestratorEventType where
  | sessionStarted
  | interactionRequested
  | interactionResolved
  | sessionCompleted
  | sessionInterrupted
  | turnCompleted
  | turnInterrupted
  deriving DecidableEq, Repr

def OrchestratorEventType.value : OrchestratorEventType → String
  | .sessionStarted => "session_started"
  | .interactionRequested => "interaction_requested"
  | .interactionResolved => "interaction_resolved"
  | .sessionCompleted => "session_completed"
  | .sessionInterrupted => "session_interrupted"
  | .turnCompleted => "turn_completed"
  | .turnInterrupted => "turn_interrupted"

structure OrchestratorEvent where
  eventType : OrchestratorEventType
  sessionId : String
  interactionId : Option String
  status : SessionStatus
  summary : String
  deriving DecidableEq, Repr

/-- The texts among the items of a list. -/
def stringItems (items : List Json) : List String :=
  items.filterMap fun item => match item with | .str text => some text | _ => none

/-- The texts that `request_summary` takes from one field. -/
def summaryValues (params : JsonObject) (key : String) : List String :=
  match dictGet params key with
  | some (.str value) => [value]
  | some (.arr items) => stringItems items
  | _ => []

def questionValues (params : JsonObject) : List String :=
  match dictGet params "questions" with
  | some (.arr questions) => questions.flatMap fun question =>
      match question with
      | .obj question => ["question", "header", "prompt"].filterMap fun key =>
          match dictGet question key with | some (.str value) => some value | _ => none
      | _ => []
  | _ => []

def requestSummary (params : JsonObject) : String :=
  safeSummary (" | ".intercalate
    (["reason", "command", "path"].flatMap (summaryValues params) ++ questionValues params))

/-- The session status of a turn status; a list or an object cannot be looked up. -/
def terminalStatus (value : Option Json) : Except PyError (Option SessionStatus) :=
  match value with
  | some (.str "completed") => .ok (some .succeeded)
  | some (.str "failed") => .ok (some .failed)
  | some (.str "interrupted") => .ok (some .interrupted)
  | some (.arr _) => .error ⟨.typeError, "unhashable type: 'list'"⟩
  | some (.obj _) => .error ⟨.typeError, "unhashable type: 'dict'"⟩
  | _ => .ok none

/-- The message of the error that a container carries. -/
def errorMessage (container : JsonObject) : Option String :=
  match dictGet container "error" with
  | some (.obj error) =>
      match dictGet error "message" with | some (.str message) => some message | _ => none
  | _ => none

/-- The first text among the result fields of a container. -/
def finalText (container : JsonObject) : Option String :=
  ["finalResponse", "final_response", "text", "outputText"].findSome? fun key =>
    match dictGet container key with | some (.str value) => some value | _ => none

def turnSummary (params turn : JsonObject) : String :=
  match [turn, params].findSome? errorMessage with
  | some message => safeSummary message
  | none =>
      match [turn, params].findSome? finalText with
      | some value => safeSummary value
      | none => ""

/-- A status that is read off the end of a turn is one that a session can end with. -/
theorem terminalStatus_isTerminal {value : Option Json} {status : SessionStatus}
    (read : terminalStatus value = .ok (some status)) : status.isTerminal := by
  unfold terminalStatus at read
  split at read
  all_goals cases read
  all_goals rfl

end LarkBot
