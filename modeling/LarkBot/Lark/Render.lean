import Mathlib.Data.List.Infix
import LarkBot.Codex.Model
import LarkBot.Core.Masking
import LarkBot.Lark.Mentions
import LarkBot.Notification.Model

/-! # Rendered notifications

`render_outbox_notification` composes a message from the heading of an outbox row, its redacted
summary, the label of its session and an instruction. The name in the label is composed as it
is: a message shows of its parts only what redaction leaves when redaction leaves the name of
its session alone (`LarkBot.rendered_redacted`).
-/

namespace LarkBot

open Foundation

section Displays

structure SessionDisplay where
  sessionId : String
  sessionName : String
  agent : AgentKind
  sessionId_nonempty : sessionId ≠ ""
  sessionName_nonempty : sessionName ≠ ""

namespace SessionDisplay

def shortId (display : SessionDisplay) : List Char := display.sessionId.toList.take 8

/-- The label of a session, if it had this name. -/
def labelNamed (display : SessionDisplay) (name : List Char) : List Char :=
  display.agent.value.toList ++ (" / ".toList ++ (name ++ (" [".toList ++
    (display.shortId ++ "]".toList))))

def label (display : SessionDisplay) : List Char := display.labelNamed display.sessionName.toList

/-- The display of the redacted name. -/
def redacted (display : SessionDisplay) : SessionDisplay :=
  { display with
    sessionName := redactText display.sessionName
    sessionName_nonempty := redactText_ne_empty display.sessionName_nonempty }

/-- The label of a redacted display is that of its redacted name. -/
theorem redacted_label (display : SessionDisplay) :
    display.redacted.label = display.labelNamed (redactText display.sessionName).toList := rfl

end SessionDisplay

/-- `_session_display_from_item`. -/
def sessionDisplayFromItem (item : NotificationOutboxItem) :
    Except ErrorType (Option SessionDisplay) :=
  match item.sessionId, item.sessionName, item.agent with
  | some sessionId, some sessionName, some agent =>
      if named : sessionId ≠ "" ∧ sessionName ≠ "" ∧ agent ≠ "" then
        match AgentKind.ofValue? agent with
        | some agent => .ok (some ⟨sessionId, sessionName, agent, named.1, named.2.1⟩)
        | none => .error .valueError
      else .ok none
  | _, _, _ => .ok none

/-- The session that a message about an outbox row displays. -/
def displayedSession (item : NotificationOutboxItem) (session : Option SessionDisplay) :
    Except ErrorType (Option SessionDisplay) :=
  match session with
  | some display => .ok (some display)
  | none => sessionDisplayFromItem item

end Displays

section Messages

inductive MessageFormat where
  | card
  | text
  deriving DecidableEq, Repr

structure RenderedMessage where
  msgType : String
  content : JsonObject
  deriving DecidableEq

def textMessage (text : List Char) : RenderedMessage :=
  ⟨"text", [("text", .str (String.ofList text))]⟩

def interactiveCard (title markdown : List Char) (template : String) : RenderedMessage :=
  ⟨"interactive",
    [("schema", .str "2.0"),
      ("config", .obj [("wide_screen_mode", .bool true)]),
      ("header", .obj [
        ("title", .obj [("tag", .str "plain_text"),
          ("content", .str (String.ofList (title.take 100)))]),
        ("template", .str template)]),
      ("body", .obj [
        ("elements", .arr [.obj [("tag", .str "markdown"),
          ("content", .str (String.ofList markdown))]])])]⟩

/-- `text.replace(old, new)`. -/
def replaceText (old new text : List Char) : List Char :=
  subMatches (fun text => if old.isPrefixOf text then some old.length else none) (fun _ => new) 0
    text

def outboxHeadings : List (String × String) :=
  [("orchestrator:session_completed", "Codex 会话已完成"),
    ("orchestrator:session_interrupted", "Codex 会话已中断"),
    ("orchestrator:turn_completed", "Codex 本轮已完成"),
    ("orchestrator:turn_interrupted", "Codex 本轮已中断")]

/-- `notification_type.endswith("interaction_requested")`. -/
def requestsInteraction (notificationType : List Char) : Bool :=
  "interaction_requested".toList.isSuffixOf notificationType

def interactionKindIs (interaction : Option PendingInteraction) (expected : InteractionKind) :
    Bool :=
  interaction.any fun interaction => interaction.kind == expected

/-- `_outbox_heading_and_instruction`. -/
def outboxHeadingAndInstruction (item : NotificationOutboxItem)
    (interaction : Option PendingInteraction) : List Char × Option (List Char) :=
  if requestsInteraction item.notificationType.toList then
    if interactionKindIs interaction .userInput then
      ("Codex 请求输入".toList,
        some "请回复本消息并 @机器人。若有多个问题，请每行使用 `1: 回答` 的格式。".toList)
    else
      ("Codex 请求审批".toList,
        some ("请长按本消息并选择“回复”：输入 yes 或 y 表示允许，" ++
          "输入 no 或 n 表示拒绝。也可使用 👍 / 👎。").toList)
  else
    match outboxHeadings.lookup item.notificationType with
    | some heading => (heading.toList, none)
    | none =>
        (replaceText ['_'] [' ']
          (replaceText "orchestrator:".toList "Codex ".toList item.notificationType.toList), none)

/-- The text, if there is any: a list of no or of one part. -/
def presentText (text : Option (List Char)) : List (List Char) :=
  (text.filter fun text => !text.isEmpty).toList

/-- `"\n".join`. -/
def joinLines (parts : List (List Char)) : List Char := ['\n'].intercalate parts

/-- `_outbox_plain_text`. -/
def outboxPlainText (heading summary : List Char) (instruction sessionLabel : Option (List Char)) :
    List Char :=
  joinLines (heading ::
    ((presentText sessionLabel).map ("Session: ".toList ++ ·) ++
      (presentText (some summary) ++ presentText instruction)))

/-- `_outbox_markdown`. -/
def outboxMarkdown (summary : List Char) (instruction sessionLabel : Option (List Char)) :
    List Char :=
  let parts := ((presentText sessionLabel).flatMap fun label =>
    ["**Session:** ".toList ++ label, []])
    ++ presentText (some summary)
  joinLines (parts ++ (presentText instruction).flatMap fun instruction =>
    (if parts.isEmpty then [] else [[], "---".toList, []]) ++ [instruction])

/-- `_outbox_template`. -/
def outboxTemplate (notificationType : List Char) (interaction : Option PendingInteraction) :
    String :=
  let lowered := notificationType.flatMap foldChar
  if requestsInteraction lowered then "orange"
  else if ["failed", "interrupted", "degraded", "error"].any fun token =>
      decide (token.toList <:+: lowered) then "red"
  else if ["completed", "succeeded", "resolved"].any fun token =>
      decide (token.toList <:+: lowered) then "green"
  else if interactionKindIs interaction .userInput then "orange"
  else "blue"

def markdownBodyLimit : Nat := 4000

/-- The text of a plain message about an outbox row with this summary and session label. -/
def plainBody (item : NotificationOutboxItem) (interaction : Option PendingInteraction)
    (summary : List Char) (label : Option (List Char)) : List Char :=
  let (heading, instruction) := outboxHeadingAndInstruction item interaction
  escapeLarkAtTags (outboxPlainText heading summary instruction label)

/-- The Markdown of a card about an outbox row with this summary and session label. -/
def markdownBody (item : NotificationOutboxItem) (interaction : Option PendingInteraction)
    (summary : List Char) (label : Option (List Char)) : List Char :=
  neutralizeLarkMentions (outboxMarkdown summary (outboxHeadingAndInstruction item interaction).2
    label)

/-- The message about an outbox row with this summary and session label. -/
def composeNotification (item : NotificationOutboxItem) (messageFormat : MessageFormat)
    (interaction : Option PendingInteraction) (summary : List Char) (label : Option (List Char)) :
    RenderedMessage :=
  match messageFormat with
  | .text => textMessage (plainBody item interaction summary label)
  | .card =>
      interactiveCard (outboxHeadingAndInstruction item interaction).1
        (truncateMarkdown (markdownBody item interaction summary label) markdownBodyLimit)
        (outboxTemplate item.notificationType.toList interaction)

/-- `render_outbox_notification`. -/
def renderOutboxNotification (item : NotificationOutboxItem) (messageFormat : MessageFormat)
    (interaction : Option PendingInteraction) (session : Option SessionDisplay) :
    Except ErrorType RenderedMessage :=
  (displayedSession item session).map fun display =>
    composeNotification item messageFormat interaction (redactText item.payloadSummary).toList
      (display.map SessionDisplay.label)

end Messages

section Images

/-- A character that ends a value is no bracket, so it stands for itself. -/
theorem bracketEntity_plain {char : Char} (plain : isSecretChar char = false) :
    bracketEntity char = [char] := by
  unfold bracketEntity
  have opening : char ≠ '<' := by
    rintro rfl
    exact absurd plain (by decide)
  have closing : char ≠ '>' := by
    rintro rfl
    exact absurd plain (by decide)
  rw [if_neg opening, if_neg closing]

/-- A value that ends in a text ends in its escape as well. -/
theorem EndsValue.escapeBrackets {text rest : List Char} (ends : EndsValue text)
    (stops : EndsValue rest) : EndsValue (escapeBrackets text ++ rest) := by
  cases text with
  | nil => exact stops
  | cons char text =>
      have plain := ends char rfl
      unfold LarkBot.escapeBrackets
      rw [List.flatMap_cons, bracketEntity_plain plain]
      intro first head
      cases head
      exact plain

/-- The image of a value that reads like a mark is the mark. -/
theorem value_eq_mark {value mark rest tail : List Char}
    (secret : ∀ char ∈ value, isSecretChar char)
    (pieces : ∀ char ∈ mark, char ∈ redactedMarker) (ends : EndsValue rest) (stops : EndsValue tail)
    (same : escapeBrackets value ++ rest = mark ++ tail) : value = mark ∧ rest = tail := by
  induction value generalizing mark with
  | nil =>
      cases mark with
      | nil => exact ⟨rfl, same⟩
      | cons char mark =>
          have head : EndsValue (char :: (mark ++ tail)) := by
            rw [← List.cons_append, ← same]
            exact ends
          exact (head.cons_of_secret (marker_secret (pieces char List.mem_cons_self))).elim
  | cons char value ih =>
      have hidden := secret char List.mem_cons_self
      have ampersand : '&' ∉ redactedMarker := by decide
      unfold escapeBrackets at same
      rw [List.flatMap_cons, List.append_assoc] at same
      cases mark with
      | nil =>
          rw [List.nil_append] at same
          rw [← same] at stops
          rcases bracketEntity_cases char with image | ⟨entity, image⟩
          · rw [image] at stops
            exact (stops.cons_of_secret hidden).elim
          · rw [image] at stops
            exact (stops.cons_of_secret (by decide)).elim
      | cons letter mark =>
          rcases bracketEntity_cases char with image | ⟨entity, image⟩
          · rw [image] at same
            obtain ⟨rfl, following⟩ := List.cons.inj same
            obtain ⟨rfl, rfl⟩ := ih (fun char member => secret char (List.mem_cons_of_mem _ member))
              (fun char member => pieces char (List.mem_cons_of_mem _ member)) following
            exact ⟨rfl, rfl⟩
          · rw [image] at same
            obtain ⟨rfl, _⟩ := List.cons.inj same
            exact (ampersand (pieces _ List.mem_cons_self)).elim

/-- The marker of a redacted value has no bracket to escape. -/
theorem escapeBrackets_marker {mark : List Char} (pieces : ∀ char ∈ mark, char ∈ redactedMarker) :
    escapeBrackets mark = mark := by
  have every : redactedMarker.all (fun char => bracketEntity char == [char]) = true := by decide
  have kept : ∀ char ∈ redactedMarker, bracketEntity char = [char] := fun char member =>
    beq_iff_eq.mp (List.all_eq_true.mp every char member)
  unfold escapeBrackets
  induction mark with
  | nil => rfl
  | cons char mark ih =>
      rw [List.flatMap_cons, kept char (pieces char List.mem_cons_self),
        ih fun char member => pieces char (List.mem_cons_of_mem _ member)]
      rfl

/-- A masked text that reads like the text, up to the entities of brackets, is the text. -/
theorem Masked.eq_of_escapeBrackets {before after rest : List Char} (masked : Masked before after)
    (ends : EndsValue rest) (same : escapeBrackets before ++ rest = escapeBrackets after ++ rest) :
    before = after := by
  induction masked with
  | nil => rfl
  | keep char _ ih =>
      unfold escapeBrackets at same
      rw [List.flatMap_cons, List.flatMap_cons, List.append_assoc, List.append_assoc] at same
      rw [ih (List.append_cancel_left same)]
  | @mask before after value mark _ secret _ pieces stops masked ih =>
      have unescaped := escapeBrackets_marker pieces
      rw [escapeBrackets_append, escapeBrackets_append, unescaped, List.append_assoc,
        List.append_assoc] at same
      obtain ⟨rfl, following⟩ := value_eq_mark secret pieces (stops.escapeBrackets ends)
        ((masked.endsValue stops).escapeBrackets ends) same
      rw [ih following]

end Images

section Redaction

/-- The first of several lines is followed by its end and the rest. -/
theorem joinLines_cons_cons (first second : List Char) (rest : List (List Char)) :
    joinLines (first :: second :: rest) = first ++ '\n' :: joinLines (second :: rest) := rfl

/-- The lines after the first follow it. -/
theorem joinLines_cons (rest : List (List Char)) :
    ∃ tail, ∀ line, joinLines (line :: rest) = line ++ tail := by
  cases rest with
  | nil =>
      refine ⟨[], fun line => ?_⟩
      simp only [joinLines, List.intercalate_singleton, List.append_nil]
  | cons next rest => exact ⟨_, fun line => joinLines_cons_cons line next rest⟩

/-- A text shows a name between a start and an end that does not continue it. -/
def ShowsName (text : List Char → List Char) : Prop :=
  ∃ start rest, EndsValue rest ∧ ∀ name, text name = start ++ (name ++ rest)

/-- A text that shows a name still does with something before it. -/
theorem ShowsName.append_left {text : List Char → List Char} (shows : ShowsName text)
    (start : List Char) : ShowsName fun name => start ++ text name := by
  obtain ⟨before, rest, ends, reads⟩ := shows
  refine ⟨start ++ before, rest, ends, fun name => ?_⟩
  rw [List.append_assoc]
  exact congrArg _ (reads name)

/-- The label of a session shows its name, whatever comes after it. -/
theorem labelNamed_showsName (display : SessionDisplay) (tail : List Char) :
    ShowsName fun name => display.labelNamed name ++ tail := by
  refine ⟨display.agent.value.toList ++ " / ".toList,
    " [".toList ++ (display.shortId ++ ("]".toList ++ tail)), ?_, fun name => ?_⟩
  · intro char head
    cases head
    decide
  · unfold SessionDisplay.labelNamed
    simp only [List.append_assoc]

/-- A label is never empty, so it is always present. -/
theorem presentText_label (display : SessionDisplay) (name : List Char) :
    presentText (some (display.labelNamed name)) = [display.labelNamed name] := by
  unfold presentText SessionDisplay.labelNamed
  cases display.agent <;> rfl

/-- The plain text of an outbox row shows the name of its session. -/
theorem outboxPlainText_showsName (display : SessionDisplay) (heading summary : List Char)
    (instruction : Option (List Char)) :
    ShowsName fun name =>
      outboxPlainText heading summary instruction (some (display.labelNamed name)) := by
  obtain ⟨tail, lines⟩ := joinLines_cons (presentText (some summary) ++ presentText instruction)
  have shows := (labelNamed_showsName display tail).append_left
    (heading ++ '\n' :: "Session: ".toList)
  refine cast (congrArg ShowsName (funext fun name => ?_)) shows
  unfold outboxPlainText
  rw [presentText_label, List.map_singleton, List.singleton_append, joinLines_cons_cons, lines,
    List.append_assoc, List.append_assoc]
  rfl

/-- The Markdown of an outbox row shows the name of its session. -/
theorem outboxMarkdown_showsName (display : SessionDisplay) (summary : List Char)
    (instruction : Option (List Char)) :
    ShowsName fun name => outboxMarkdown summary instruction (some (display.labelNamed name)) := by
  obtain ⟨tail, lines⟩ := joinLines_cons ([] :: (presentText (some summary) ++
    (presentText instruction).flatMap fun instruction => [[], "---".toList, []] ++ [instruction]))
  have shows := (labelNamed_showsName display tail).append_left "**Session:** ".toList
  refine cast (congrArg ShowsName (funext fun name => ?_)) shows
  rw [← List.append_assoc, ← lines]
  unfold outboxMarkdown
  rw [presentText_label]
  rfl

/-- Texts that show a name and its masking and are escaped to one text show one name. -/
theorem ShowsName.masked_eq {text : List Char → List Char} (shows : ShowsName text)
    {name masked before after : List Char} (masks : Masked name masked)
    (first : Rewritten EscapesTag (text name) before)
    (second : Rewritten EscapesTag (text masked) after) (same : before = after) :
    name = masked := by
  obtain ⟨start, rest, ends, reads⟩ := shows
  subst same
  have images := (escapeBrackets_rewritten first).symm.trans (escapeBrackets_rewritten second)
  rw [reads, reads, escapeBrackets_append, escapeBrackets_append, escapeBrackets_append,
    escapeBrackets_append] at images
  have stops : EndsValue (escapeBrackets rest ++ []) :=
    ends.escapeBrackets fun _ absent => by cases absent
  rw [List.append_nil] at stops
  exact masks.eq_of_escapeBrackets stops (List.append_cancel_left images)

/-- A message of the summary and of the name of the session only shows what redaction leaves. -/
def RendersRedacted (item : NotificationOutboxItem) (messageFormat : MessageFormat)
    (interaction : Option PendingInteraction) (session : Option SessionDisplay) : Prop :=
  renderOutboxNotification item messageFormat interaction session =
    (displayedSession item session).map fun display =>
      composeNotification item messageFormat interaction (redactText item.payloadSummary).toList
        (display.map fun display => display.redacted.label)

/-- Redaction leaves the name of the displayed session alone. -/
def NameUnchanged (item : NotificationOutboxItem) (session : Option SessionDisplay) : Prop :=
  ∀ display, displayedSession item session = .ok (some display) →
    redactText display.sessionName = display.sessionName

/-- A card is cut: its Markdown, with the name as it is or redacted, exceeds the limit. -/
def CutOff (item : NotificationOutboxItem) (messageFormat : MessageFormat)
    (interaction : Option PendingInteraction) (session : Option SessionDisplay) : Prop :=
  messageFormat = .card ∧ ∃ display, displayedSession item session = .ok (some display) ∧
    ∃ label ∈ [display.label, display.redacted.label], markdownBodyLimit <
      (markdownBody item interaction (redactText item.payloadSummary).toList (some label)).length

/-- A text within the limit is not cut. -/
theorem truncateMarkdown_fits {text : List Char} {limit : Nat} (fits : text.length ≤ limit) :
    truncateMarkdown text limit = text := by
  unfold truncateMarkdown
  rw [if_pos fits]

/-- Two texts whose messages are the same are the same. -/
theorem textMessage_inj {first second : List Char} (same : textMessage first = textMessage second) :
    first = second := by
  unfold textMessage at same
  simp only [RenderedMessage.mk.injEq, List.cons.injEq, Prod.mk.injEq, Json.str.injEq, true_and,
    and_true] at same
  exact String.ofList_injective same

/-- Two texts whose cards are the same are the same. -/
theorem interactiveCard_inj {title first second : List Char} {template : String}
    (same : interactiveCard title first template = interactiveCard title second template) :
    first = second := by
  unfold interactiveCard at same
  simp only [RenderedMessage.mk.injEq, List.cons.injEq, Prod.mk.injEq, Json.str.injEq,
    Json.obj.injEq, Json.arr.injEq, true_and, and_true] at same
  exact String.ofList_injective same

variable {item : NotificationOutboxItem} {messageFormat : MessageFormat}
  {interaction : Option PendingInteraction} {session : Option SessionDisplay}

/-- Messages that fit and differ in the name at most show one name. -/
theorem composeNotification_name {display : SessionDisplay} {summary : List Char}
    (fits : messageFormat = .card → ∀ label ∈ [display.label, display.redacted.label],
      (markdownBody item interaction summary (some label)).length ≤ markdownBodyLimit)
    (same : composeNotification item messageFormat interaction summary (some display.label) =
      composeNotification item messageFormat interaction summary (some display.redacted.label)) :
    redactText display.sessionName = display.sessionName := by
  have masked := redactText_masked display.sessionName
  refine (String.toList_inj.mp ?_).symm
  cases messageFormat with
  | text =>
      have shows := outboxPlainText_showsName display
        (outboxHeadingAndInstruction item interaction).1 summary
        (outboxHeadingAndInstruction item interaction).2
      exact shows.masked_eq masked (escapeLarkAtTags_rewrites _) (escapeLarkAtTags_rewrites _)
        (textMessage_inj same)
  | card =>
      have shows := outboxMarkdown_showsName display summary
        (outboxHeadingAndInstruction item interaction).2
      have whole := interactiveCard_inj same
      rw [truncateMarkdown_fits (fits rfl _ List.mem_cons_self),
        truncateMarkdown_fits (fits rfl _ (List.mem_cons_of_mem _ List.mem_cons_self))] at whole
      exact shows.masked_eq masked (neutralizeLarkMentions_rewrites _)
        (neutralizeLarkMentions_rewrites _) whole

/-- A message shows of its parts only what redaction leaves when redaction leaves the name of its
session alone, and otherwise only where a card is cut. -/
theorem rendered_redacted (item : NotificationOutboxItem) (messageFormat : MessageFormat)
    (interaction : Option PendingInteraction) (session : Option SessionDisplay) :
    (NameUnchanged item session → RendersRedacted item messageFormat interaction session) ∧
      (RendersRedacted item messageFormat interaction session →
        NameUnchanged item session ∨ CutOff item messageFormat interaction session) := by
  unfold RendersRedacted renderOutboxNotification
  constructor
  · intro unchanged
    cases shown : displayedSession item session with
    | error => simp only [Except.map]
    | ok display =>
        cases display with
        | none => simp only [Except.map, Option.map_none]
        | some display =>
            have same : display.redacted.label = display.label := by
              rw [SessionDisplay.redacted_label, unchanged display shown]
              rfl
            simp only [Except.map, Option.map_some, same]
  · intro redacted
    by_cases cut : CutOff item messageFormat interaction session
    · exact .inr cut
    · refine .inl fun display shown => ?_
      rw [shown] at redacted
      refine composeNotification_name (fun carded label member => ?_) (Except.ok.inj redacted)
      exact Nat.not_lt.mp fun exceeds => cut ⟨carded, display, shown, label, member, exceeds⟩

/-- The name of a session is shown with the secret in it. -/
theorem named_secret_shown :
    let item : NotificationOutboxItem :=
      ⟨1, some "session-1", none, none, none, "orchestrator:turn_completed", "done", 0, 0, none,
        none,
        0⟩
    let session : SessionDisplay :=
      ⟨"session-1", "token=abc123", .codex, by decide, by decide⟩
    renderOutboxNotification item .text none (some session) =
        .ok (textMessage "Codex 本轮已完成\nSession: codex / token=abc123 [session-]\ndone".toList) ∧
      redactText session.sessionName = "token=[REDACTED]" ∧
      ¬ RendersRedacted item .text none (some session) ∧
      ¬ RendersRedacted item .card none (some session) := by
  intro item session
  have redacts : redactText session.sessionName = "token=[REDACTED]" := by decide +kernel
  have renamed : redactText session.sessionName ≠ session.sessionName := by
    rw [redacts]
    decide
  have summary : redactText item.payloadSummary = "done" := by decide +kernel
  refine ⟨?_, redacts, ?_, ?_⟩
  · unfold renderOutboxNotification
    rw [summary]
    decide +kernel
  · intro same
    exact renamed (composeNotification_name (fun carded => by cases carded) (Except.ok.inj same))
  · intro same
    refine renamed (composeNotification_name (fun _ => ?_) (Except.ok.inj same))
    rw [summary, SessionDisplay.redacted_label, redacts]
    decide +kernel

end Redaction

end LarkBot
