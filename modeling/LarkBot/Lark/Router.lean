import LarkBot.Codex.Orchestrator.Handlers
import LarkBot.Core.Text

/-! # Control through Lark

`LarkControlRouter.route` looks up the interaction that a reaction or a reply is
about and reads the answer. It ends with a result, or awaits
`resolve_interaction` (`LarkBot.RouteStep`); what raises in it reaches the caller.
-/

namespace LarkBot

open Foundation

structure LarkReactionEvent where
  eventId : String
  messageId : String
  actorId : String
  emojiType : String
  deriving DecidableEq, Repr

structure LarkMessageEvent where
  eventId : String
  messageId : String
  parentId : Option String
  rootId : Option String
  chatId : String
  chatType : String
  actorId : String
  text : String
  mentionedBot : Bool
  deriving DecidableEq, Repr

inductive LarkControlEvent where
  | reaction (event : LarkReactionEvent)
  | message (event : LarkMessageEvent)
  deriving DecidableEq, Repr

def LarkControlEvent.eventId : LarkControlEvent → String
  | .reaction event => event.eventId
  | .message event => event.eventId

def LarkControlEvent.actorId : LarkControlEvent → String
  | .reaction event => event.actorId
  | .message event => event.actorId

structure LarkControlResult where
  handled : Bool
  reason : String
  interactionId : Option String
  deriving DecidableEq, Repr

/-- The first pending row with this message id, in the order of the table. -/
def CodexTables.getPendingInteractionByLarkMessageId (tables : CodexTables) (messageId : String) :
    Option PendingInteraction :=
  if messageId = "" then none
  else tables.interactions.find? fun row => row.larkMessageId == some messageId && row.isPending

section Replies

def mentionPrefix : List Char := "@_user_".toList

/-- The length of the mention that a text starts with: `@_user_\d+\b`. -/
def mentionLength (text : List Char) : Option Nat :=
  if mentionPrefix.isPrefixOf text then
    let digits := (text.drop mentionPrefix.length).takeWhile isDecimalChar
    let rest := text.drop (mentionPrefix.length + digits.length)
    if digits.isEmpty || rest.head?.any isWordChar then none
    else some (mentionPrefix.length + digits.length)
  else none

/-- `_MENTION_RE.sub` away from the start of the text; so many characters belong to
the mention before. -/
def replaceMentions : Nat → List Char → List Char
  | _, [] => []
  | skipped + 1, _ :: rest => replaceMentions skipped rest
  | 0, char :: rest =>
      if isSpaceChar char then
        match mentionLength rest with
        | some length => ' ' :: replaceMentions length rest
        | none => char :: replaceMentions 0 rest
      else char :: replaceMentions 0 rest

/-- `_strip_mentions`. -/
def stripMentions (text : List Char) : List Char :=
  strip (match mentionLength text with
    | some length => ' ' :: replaceMentions length text
    | none => replaceMentions 0 text)

/-- `_parse_approval_answer`. -/
def parseApprovalAnswer (text : List Char) : Option Bool :=
  let answer := strip text
  if foldsTo answer "yes" || foldsTo answer "y" then some true
  else if foldsTo answer "no" || foldsTo answer "n" then some false
  else none

/-- `key.isdigit() and 1 <= int(key) <= len(question_ids)`, with the question. -/
def numberedQuestion (questionIds : List String) (key : List Char) :
    Except PyError (Option String) :=
  if isDigit key then
    (parseInt key).map fun number => if 1 ≤ number then questionIds[number - 1]? else none
  else .ok none

/-- The question that a key names. -/
def keyQuestion (questionIds : List String) (key : List Char) : Except PyError (Option String) :=
  (numberedQuestion questionIds key).map fun numbered =>
    match numbered with
    | some questionId => some questionId
    | none =>
        if String.ofList key ∈ questionIds then some (String.ofList key) else none

/-- The key and the answer of a line. -/
def lineParts (line : List Char) : Option (List Char × String) :=
  (splitColon line).map fun parts => (strip parts.1, String.ofList (strip parts.2))

/-- The loop of `_parse_answers`. -/
def parseLines (questionIds : List String) :
    List (String × String) → List (List Char) → Except PyError (Option (List (String × String)))
  | answers, [] => .ok (some answers)
  | answers, line :: lines =>
      match lineParts line with
      | none => .ok none
      | some (key, answer) =>
          match keyQuestion questionIds key with
          | .error error => .error error
          | .ok none => .ok none
          | .ok (some questionId) =>
              if answer = "" ∨ questionId ∈ answers.map Prod.fst then .ok none
              else parseLines questionIds (answers ++ [(questionId, answer)]) lines

/-- `set(answers) == set(question_ids)`. -/
def answersAll (questionIds : List String) (answers : List (String × String)) : Bool :=
  questionIds.all (answers.map Prod.fst).contains &&
    (answers.map Prod.fst).all questionIds.contains

/-- `_parse_answers`. -/
def parseAnswers (text : List Char) (questionIds : List String) :
    Except PyError (Option (List (String × String))) :=
  if text = [] then .ok none
  else
    match questionIds with
    | [] => .ok none
    | [questionId] => .ok (some [(questionId, String.ofList text)])
    | questionIds =>
        (parseLines questionIds [] (splitLines text)).map fun parsed =>
          parsed.filter (answersAll questionIds)

end Replies

/-- How far `route` gets before it awaits: a result, or `resolve_interaction`. -/
inductive RouteStep where
  | done (result : LarkControlResult)
  | resolve (interactionId actorId : String) (allow : Option Bool)
      (answers : Option (List (String × String)))
  deriving DecidableEq, Repr

/-- `_route_reaction`. -/
def routeReaction (tables : CodexTables) (event : LarkReactionEvent) : RouteStep :=
  match tables.getPendingInteractionByLarkMessageId event.messageId with
  | none => .done ⟨false, "not_pending", none⟩
  | some interaction =>
      if interaction.kind = .userInput then
        .done ⟨false, "wrong_interaction_kind", some interaction.id⟩
      else
        let emoji := event.emojiType.toList
        if foldsTo emoji "thumbsup" || foldsTo emoji "+1" then
          .resolve interaction.id event.actorId (some true) none
        else if foldsTo emoji "thumbsdown" || foldsTo emoji "-1" then
          .resolve interaction.id event.actorId (some false) none
        else .done ⟨false, "unsupported_emoji", some interaction.id⟩

/-- `event.parent_id or event.root_id`. -/
def LarkMessageEvent.correlationId (event : LarkMessageEvent) : String :=
  match event.parentId with
  | some parentId => if parentId = "" then event.rootId.getD "" else parentId
  | none => event.rootId.getD ""

/-- `_route_message`; an interaction that is no approval asks for user input. -/
def routeMessage (self : CodexOrchestrator) (event : LarkMessageEvent) :
    Except PyError RouteStep :=
  if event.correlationId = "" then .ok (.done ⟨false, "not_a_reply", none⟩)
  else
    match self.store.tables.getPendingInteractionByLarkMessageId event.correlationId with
    | none => .ok (.done ⟨false, "not_pending", none⟩)
    | some interaction =>
        let text := stripMentions event.text.toList
        if interaction.kind ≠ .userInput then
          match parseApprovalAnswer text with
          | none => .ok (.done ⟨false, "invalid_approval_answer", some interaction.id⟩)
          | some allow => .ok (.resolve interaction.id event.actorId (some allow) none)
        else if !foldsTo event.chatType.toList "p2p" && !event.mentionedBot then
          .ok (.done ⟨false, "bot_not_mentioned", some interaction.id⟩)
        else
          (parseAnswers text (getUserInputQuestionIds self.live interaction.id)).map fun parsed =>
            match parsed with
            | none => .done ⟨false, "invalid_answers", some interaction.id⟩
            | some answers => .resolve interaction.id event.actorId none (some answers)

/-- `route` on an event that was not recorded before. -/
def routeRecorded (self : CodexOrchestrator) (event : LarkControlEvent) :
    Except PyError RouteStep :=
  if event.actorId = "" then .ok (.done ⟨false, "missing_actor", none⟩)
  else
    match event with
    | .reaction event => .ok (routeReaction self.store.tables event)
    | .message event => routeMessage self event

/-- The result of `route` once `resolve_interaction` returned. -/
def resolvedResult (interactionId : String) (won : Bool) : LarkControlResult :=
  ⟨won, if won then "resolved" else "already_resolved", some interactionId⟩

end LarkBot
