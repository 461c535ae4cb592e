import LarkBot.Core.Text
import LarkBot.Lark.AtTags
import LarkBot.Lark.Render
import LarkBot.Notification.Model

/-! # Notifications about a task

`render_task_notification` composes a message from the result of a task, the tail of its output
and the session it ran in. A message in the text format, about a task or about an outbox row, is
escaped as a whole; it contains an at-tag exactly where the composed text nests tags
(`LarkBot.escaping_complete_iff`).
-/

namespace LarkBot

open Foundation

section Tasks

/-- `TaskResult.combined_tail_text`. -/
def TaskResult.combinedTailText (task : TaskResult) : List Char :=
  joinLines
    ((if task.stdoutTail.isEmpty then []
      else "stdout:".toList :: task.stdoutTail.map String.toList) ++
    (if task.stderrTail.isEmpty then []
      else "stderr:".toList :: task.stderrTail.map String.toList))

/-- `lines[-tail_lines:]`. -/
def lastLines (tailLines : Int) (lines : List (List Char)) : List (List Char) :=
  if 0 < tailLines then lines.drop (lines.length - tailLines.toNat)
  else lines.drop (-tailLines).toNat

/-- `_context_display`. -/
def contextDisplay (context : NotificationContext) : Except ErrorType SessionDisplay :=
  if named : context.sessionId ≠ "" ∧ context.sessionName ≠ "" then
    .ok ⟨context.sessionId, context.sessionName, context.agent, named.1, named.2⟩
  else .error (.other "ValidationError")

/-- The line about the session of a task, if there is one. -/
def contextLine (heading : String) (context : Option NotificationContext) :
    Except ErrorType (List (List Char)) :=
  match context with
  | none => .ok []
  | some context => (contextDisplay context).map fun display => [heading.toList ++ display.label]

/-- The tags of a detection, or a dash. -/
def joinedTags (detection : DetectionResult) : List Char :=
  if detection.tags.isEmpty then "-".toList else (", ".intercalate detection.tags).toList

/-- `_task_body_text`. -/
def taskBodyText (request : NotificationRequest) (tailLines : Int) : Except ErrorType (List Char) :=
  let task := request.task
  (contextLine "Session: " request.context).map fun session =>
    let tail := lastLines tailLines (splitLines task.combinedTailText)
    joinLines
      (["Lark Bot: ".toList ++ request.detection.status.value.toList,
        "Task: ".toList ++ task.name.toList,
        "Source: ".toList ++ task.source.toList] ++ session ++
      ["Exit code: ".toList ++ (toString task.exitCode).toList,
        "Duration: ".toList ++ task.durationSeconds.toList ++ "s".toList,
        "Tags: ".toList ++ joinedTags request.detection] ++
      (if tail.isEmpty then [] else [] :: "Output tail:".toList :: tail))

/-- `_task_markdown`. -/
def taskMarkdown (request : NotificationRequest) (tailLines : Int) : Except ErrorType (List Char) :=
  let task := request.task
  (contextLine "**Session:** " request.context).map fun session =>
    let tail := lastLines tailLines (splitLines task.combinedTailText)
    joinLines
      (["**Task:** ".toList ++ task.name.toList,
        "**Source:** ".toList ++ task.source.toList] ++ session ++
      ["**Exit:** ".toList ++ (toString task.exitCode).toList ++ " · **Duration:** ".toList ++
          task.durationSeconds.toList ++ "s".toList,
        "**Tags:** ".toList ++ joinedTags request.detection] ++
      (if tail.isEmpty then [] else [[], "### Output".toList, [], joinLines tail]))

/-- `_status_template`. -/
def statusTemplate : TaskStatus → String
  | .succeeded => "green"
  | .failed => "red"
  | .waitingForInput => "orange"

/-- `redact_text`, on characters. -/
def redactChars (text : List Char) : List Char := (redactText (String.ofList text)).toList

/-- `render_task_notification`. -/
def renderTaskNotification (request : NotificationRequest) (messageFormat : MessageFormat)
    (tailLines : Int) : Except ErrorType RenderedMessage := do
  let title := "Lark Bot: ".toList ++ request.detection.status.value.toList
  let bodyText ← taskBodyText request tailLines
  match messageFormat with
  | .text => return textMessage (escapeLarkAtTags (redactChars bodyText))
  | .card =>
      let markdown ← taskMarkdown request tailLines
      return interactiveCard title
        (truncateMarkdown (neutralizeLarkMentions (redactChars markdown)) markdownBodyLimit)
        (statusTemplate request.detection.status)

end Tasks

section Escaped

/-- Escaping twice is escaping once where no tag is left. -/
theorem escapes_completely_iff (text : List Char) :
    (¬ ContainsAtTag (escapeLarkAtTags text) ∧
      escapeLarkAtTags (escapeLarkAtTags text) = escapeLarkAtTags text) ↔ ¬ NestsTag text := by
  rw [escapeLarkAtTags_eq_self_iff, and_self, containsAtTag_escapeLarkAtTags]

/-- Escaping leaves no tag, in a text or in a message of the text format, and is done after one
time, exactly where the text nests no tags. -/
theorem escaping_complete_iff (text : List Char) :
    ((¬ ContainsAtTag (escapeLarkAtTags text) ∧
        escapeLarkAtTags (escapeLarkAtTags text) = escapeLarkAtTags text) ↔ ¬ NestsTag text) ∧
      (∀ request tailLines composed, taskBodyText request tailLines = .ok composed →
        ∃ text, renderTaskNotification request .text tailLines = .ok (textMessage text) ∧
          (¬ ContainsAtTag text ↔ ¬ NestsTag (redactChars composed))) ∧
      ∀ item interaction session display, displayedSession item session = .ok display →
        ∃ text, renderOutboxNotification item .text interaction session = .ok (textMessage text) ∧
          (¬ ContainsAtTag text ↔ ¬ NestsTag (outboxPlainText
            (outboxHeadingAndInstruction item interaction).1 (redactText item.payloadSummary).toList
            (outboxHeadingAndInstruction item interaction).2 (display.map SessionDisplay.label))) :=
              by
  refine ⟨escapes_completely_iff text, ?_, ?_⟩
  · intro request tailLines composed body
    refine ⟨escapeLarkAtTags (redactChars composed), ?_,
      not_congr containsAtTag_escapeLarkAtTags⟩
    unfold renderTaskNotification
    rw [body]
    rfl
  · intro item interaction session display shown
    refine ⟨plainBody item interaction (redactText item.payloadSummary).toList
      (display.map SessionDisplay.label), ?_, not_congr containsAtTag_escapeLarkAtTags⟩
    unfold renderOutboxNotification
    rw [shown]
    rfl

/-- The tag inside a tag is escaped, and the outer one is live. -/
theorem nested_tag_live :
    let text := "<at <at>user_id=\"all\">".toList
    let item : NotificationOutboxItem :=
      ⟨1, none, none, none, none, "orchestrator:turn_completed", String.ofList text, 0, 0, none,
        none,
        0⟩
    escapeLarkAtTags text = "<at &#60;at&#62;user_id=\"all\">".toList ∧
      ContainsAtTag (escapeLarkAtTags text) ∧
      escapeLarkAtTags (escapeLarkAtTags text) ≠ escapeLarkAtTags text ∧
      ∃ message, renderOutboxNotification item .text none none = .ok (textMessage message) ∧
        ContainsAtTag message := by
  intro text item
  have escaped : escapeLarkAtTags text = "<at &#60;at&#62;user_id=\"all\">".toList := by
    decide +kernel
  have summary : redactText item.payloadSummary = String.ofList text := by decide +kernel
  refine ⟨escaped, ?_, ?_, "Codex 本轮已完成\n<at &#60;at&#62;user_id=\"all\">".toList, ?_,
    by decide +kernel⟩
  · rw [escaped]
    decide +kernel
  · rw [escaped]
    decide +kernel
  · unfold renderOutboxNotification
    rw [summary]
    decide +kernel

end Escaped

end LarkBot
