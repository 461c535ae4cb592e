import LarkBot.Lark.Router

/-! # Control events of Lark

The child of the long connection normalizes what the SDK calls it with and puts the event as a dict
into a queue between the processes; the daemon reads the dict as an event again
(`LarkBot.decodeChildEvent_payload`).
-/

namespace LarkBot

open Foundation

section Callbacks

/-- The open id and the user id of a Lark user. -/
structure LarkUserId where
  openId : Option String
  userId : Option String
  deriving DecidableEq, Repr

/-- `P2ImMessageReactionCreatedV1`, as far as it is read; every attribute may be missing. -/
structure ReactionCreated where
  eventId : Option String
  messageId : Option String
  emojiType : Option String
  userId : Option LarkUserId
  deriving DecidableEq, Repr

/-- `P2ImMessageReceiveV1`, as far as it is read, with the keys of the mentions. -/
structure MessageReceived where
  eventId : Option String
  messageId : Option String
  parentId : Option String
  rootId : Option String
  chatId : Option String
  chatType : Option String
  messageType : Option String
  content : Option String
  senderId : Option LarkUserId
  mentions : Option (List String)
  deriving DecidableEq, Repr

/-- What the SDK calls in the child. -/
inductive LarkCallback where
  | onReaction (event : ReactionCreated)
  | onMessage (event : MessageReceived)
  deriving DecidableEq, Repr

/-- `first or second`, of texts or `None`. -/
def orText (first second : Option String) : Option String :=
  if first.getD "" ≠ "" then first else second

/-- `value or None`. -/
def orNone (value : Option String) : Option String := orText value none

def requiredString (value : Option String) (field : String) : Except PyError String :=
  match value with
  | none => .error (valueError ("missing " ++ field))
  | some value => if value = "" then .error (valueError ("missing " ++ field)) else .ok value

/-- `_actor_id`. -/
def larkActorId (userId : Option LarkUserId) : Except PyError String :=
  requiredString (orText (userId.bind LarkUserId.openId) (userId.bind LarkUserId.userId)) "actor_id"

def normalizeReactionEvent (event : ReactionCreated) : Except PyError LarkReactionEvent := do
  let eventId ← requiredString event.eventId "event_id"
  let messageId ← requiredString event.messageId "message_id"
  let actorId ← larkActorId event.userId
  let emojiType ← requiredString event.emojiType "emoji_type"
  pure { eventId, messageId, actorId, emojiType }

/-- `json.loads(content)`, where a missing content is a `TypeError`. -/
def parsedContent (loads : String → Option Json) (content : Option String) :
    Except PyError JsonObject :=
  match content.bind loads with
  | some (.obj fields) => .ok fields
  | _ => .error (valueError "malformed message content")

/-- The text at a key of a dict; another value counts as missing. -/
def textAt (object : JsonObject) (key : String) : Option String :=
  match dictGet object key with
  | some (.str value) => some value
  | _ => none

def normalizeMessageEvent (loads : String → Option Json) (event : MessageReceived) :
    Except PyError LarkMessageEvent :=
  if event.messageType ≠ some "text" then .error (valueError "unsupported message type")
  else do
    let parsed ← parsedContent loads event.content
    let eventId ← requiredString event.eventId "event_id"
    let messageId ← requiredString event.messageId "message_id"
    let chatId ← requiredString event.chatId "chat_id"
    let chatType ← requiredString event.chatType "chat_type"
    let actorId ← larkActorId event.senderId
    let text ← requiredString (textAt parsed "text") "text"
    pure {
      eventId
      messageId
      parentId := orNone event.parentId
      rootId := orNone event.rootId
      chatId
      chatType
      actorId
      text
      mentionedBot := !(event.mentions.getD []).isEmpty }

/-- `on_message` and `on_reaction`, up to the queue. -/
def LarkCallback.normalize (loads : String → Option Json) :
    LarkCallback → Except PyError LarkControlEvent
  | .onReaction event => (normalizeReactionEvent event).map .reaction
  | .onMessage event => (normalizeMessageEvent loads event).map .message

end Callbacks

section Payloads

/-- `None` or a text. -/
def optionalText : Option String → Json
  | none => .null
  | some value => .str value

/-- `dataclasses.asdict`. -/
def LarkControlEvent.asdict : LarkControlEvent → JsonObject
  | .reaction event => [("event_id", .str event.eventId), ("message_id", .str event.messageId),
      ("actor_id", .str event.actorId), ("emoji_type", .str event.emojiType)]
  | .message event => [("event_id", .str event.eventId), ("message_id", .str event.messageId),
      ("parent_id", optionalText event.parentId), ("root_id", optionalText event.rootId),
      ("chat_id", .str event.chatId), ("chat_type", .str event.chatType),
      ("actor_id", .str event.actorId), ("text", .str event.text),
      ("mentioned_bot", .bool event.mentionedBot)]

/-- The payload that `_safe_child_put` puts. -/
def LarkControlEvent.payload (event : LarkControlEvent) : JsonObject :=
  ("type", .str (match event with | .reaction _ => "reaction" | .message _ => "message")) ::
    event.asdict

/-- The two dataclasses of a control event. -/
inductive LarkEventClass where
  | reaction
  | message
  deriving DecidableEq, Repr

/-- The parameters of the constructor; none has a default. -/
def LarkEventClass.parameters : LarkEventClass → List String
  | .reaction => ["event_id", "message_id", "actor_id", "emoji_type"]
  | .message => ["event_id", "message_id", "parent_id", "root_id", "chat_id", "chat_type",
      "actor_id", "text", "mentioned_bot"]

/-- An instance of one of the dataclasses, which check no type. -/
structure LarkEventInstance where
  cls : LarkEventClass
  fields : JsonObject
  deriving DecidableEq, Repr

/-- `cls(**arguments)`. -/
def LarkEventClass.construct (cls : LarkEventClass) (arguments : JsonObject) :
    Except PyError LarkEventInstance :=
  if (∀ argument ∈ arguments, argument.1 ∈ cls.parameters) ∧
      ∀ parameter ∈ cls.parameters, (dictGet arguments parameter).isSome then
    .ok ⟨cls, cls.parameters.filterMap fun parameter =>
      (dictGet arguments parameter).map fun value => (parameter, value)⟩
  else .error ⟨.typeError, "malformed arguments"⟩

def decodeChildEvent (payload : Json) : Except PyError LarkEventInstance :=
  match payload with
  | .obj fields =>
      let decode (cls : LarkEventClass) :=
        match cls.construct (fields.filter fun field => field.1 != "type") with
        | .ok decoded => .ok decoded
        | .error _ => .error (valueError "malformed child event")
      match dictGet fields "type" with
      | some (.str "reaction") => decode .reaction
      | some (.str "message") => decode .message
      | _ => .error (valueError "unknown child event type")
  | _ => .error (valueError "malformed child event")

/-- An optional text, of a value with the annotated type. -/
def optionalText? : Json → Option (Option String)
  | .null => some none
  | .str value => some (some value)
  | _ => none

/-- The control event that an instance is, if its fields have the annotated types. -/
def LarkEventInstance.event? : LarkEventInstance → Option LarkControlEvent
  | ⟨.reaction, [(_, .str eventId), (_, .str messageId), (_, .str actorId),
      (_, .str emojiType)]⟩ => some (.reaction ⟨eventId, messageId, actorId, emojiType⟩)
  | ⟨.message, [(_, .str eventId), (_, .str messageId), (_, parentId), (_, rootId),
      (_, .str chatId), (_, .str chatType), (_, .str actorId), (_, .str text),
      (_, .bool mentionedBot)]⟩ => do
      let parentId ← optionalText? parentId
      let rootId ← optionalText? rootId
      some (.message ⟨eventId, messageId, parentId, rootId, chatId, chatType, actorId, text,
        mentionedBot⟩)
  | _ => none

/-- The pump reads every payload of the child as the event that was put. -/
theorem decodeChildEvent_payload (event : LarkControlEvent) :
    ∃ decoded, decodeChildEvent (.obj event.payload) = .ok decoded ∧
      decoded.event? = some event := by
  cases event with
  | reaction event => exact ⟨⟨.reaction, (LarkControlEvent.reaction event).asdict⟩, rfl, rfl⟩
  | message event =>
      refine ⟨⟨.message, (LarkControlEvent.message event).asdict⟩, rfl, ?_⟩
      obtain ⟨eventId, messageId, parentId, rootId, _, _, _, _, _⟩ := event
      cases parentId <;> cases rootId <;> rfl

end Payloads

section Names

/-- A required text is not empty. -/
theorem requiredString_ok {value : Option String} {field text : String}
    (required : requiredString value field = .ok text) : text ≠ "" := by
  unfold requiredString at required
  split at required
  next => cases required
  next given =>
    split at required
    next => cases required
    next filled =>
      cases required
      exact filled

/-- A normalized event names itself and its actor. -/
theorem LarkCallback.normalize_named {loads : String → Option Json} {callback : LarkCallback}
    {event : LarkControlEvent} (normalized : callback.normalize loads = .ok event) :
    event.eventId ≠ "" ∧ event.actorId ≠ "" := by
  cases callback with
  | onReaction created =>
      obtain ⟨reaction, normalizes, rfl⟩ := map_eq_ok.mp normalized
      obtain ⟨eventId, named, normalized⟩ := bind_eq_ok.mp normalizes
      obtain ⟨messageId, _, normalized⟩ := bind_eq_ok.mp normalized
      obtain ⟨actorId, acts, normalized⟩ := bind_eq_ok.mp normalized
      obtain ⟨emojiType, _, normalized⟩ := bind_eq_ok.mp normalized
      cases normalized
      exact ⟨requiredString_ok named, requiredString_ok acts⟩
  | onMessage received =>
      obtain ⟨message, normalizes, rfl⟩ := map_eq_ok.mp normalized
      unfold normalizeMessageEvent at normalizes
      split at normalizes
      next => cases normalizes
      next =>
        obtain ⟨parsed, _, normalized⟩ := bind_eq_ok.mp normalizes
        obtain ⟨eventId, named, normalized⟩ := bind_eq_ok.mp normalized
        obtain ⟨messageId, _, normalized⟩ := bind_eq_ok.mp normalized
        obtain ⟨chatId, _, normalized⟩ := bind_eq_ok.mp normalized
        obtain ⟨chatType, _, normalized⟩ := bind_eq_ok.mp normalized
        obtain ⟨actorId, acts, normalized⟩ := bind_eq_ok.mp normalized
        obtain ⟨text, _, normalized⟩ := bind_eq_ok.mp normalized
        cases normalized
        exact ⟨requiredString_ok named, requiredString_ok acts⟩

end Names

end LarkBot
