import LarkBot.Codex.Model

/-! # JSON-RPC messages of the gateway

What `CodexGateway` reads of a text frame: the parsed object, the id of a request
or of a response, and the turn that a notification names.
-/

namespace LarkBot

/-- `INTERCEPTED_SERVER_METHODS`. -/
def interceptedServerMethods : List String :=
  ["item/commandExecution/requestApproval", "item/fileChange/requestApproval",
    "item/permissions/requestApproval", "item/tool/requestUserInput"]

/-- A text frame: its text, and what `json.loads` makes of it unless it raises. -/
structure RawMessage where
  text : String
  loaded : Option Json
  deriving DecidableEq, Repr

/-- `_parse_message`. -/
def parseMessage (rawMessage : RawMessage) : Option JsonObject :=
  match rawMessage.loaded with
  | some (.obj message) =>
      match dictGet message "jsonrpc" with
      | none => some message
      | some version => if version = .str "2.0" then some message else none
  | _ => none

/-- `key in message`. -/
def hasKey (message : JsonObject) (key : String) : Bool := (dictGet message key).isSome

/-- `message.get("method")`, when it is a text. -/
def messageMethod (message : JsonObject) : Option String :=
  match dictGet message "method" with
  | some (.str method) => some method
  | _ => none

/-- `message.get(key)`, when it is a valid id. -/
def validId (message : JsonObject) (key : String) : Option RequestId :=
  (dictGet message key).bind Json.requestId?

/-- `_request_id`. -/
def requestIdOf (message : JsonObject) : Option RequestId :=
  if (messageMethod message).isSome then validId message "id" else none

/-- A request names its method. -/
theorem method_of_requestId {message : JsonObject} {requestId : RequestId}
    (identified : requestIdOf message = some requestId) :
    ∃ method, messageMethod message = some method := by
  unfold requestIdOf at identified
  split at identified
  next named => exact Option.isSome_iff_exists.mp named
  next => cases identified

/-- `_response_id`. -/
def responseIdOf (message : JsonObject) : Option RequestId :=
  if hasKey message "method" || (!hasKey message "result" && !hasKey message "error") then none
  else validId message "id"

/-- `_response_payload`. -/
def responsePayload (message : JsonObject) : JsonObject :=
  match dictGet message "result" with
  | some result => [("result", result)]
  | none => [("error", (dictGet message "error").getD .null)]

/-- `message.get("params")`, when it is an object. -/
def messageParams (message : JsonObject) : Option JsonObject :=
  match dictGet message "params" with
  | some (.obj params) => some params
  | _ => none

/-- The request that the gateway intercepts: its id and method. -/
def interceptedRequest (message : JsonObject) : Option (RequestId × String) :=
  match requestIdOf message, messageMethod message with
  | some requestId, some method =>
      if method ∈ interceptedServerMethods then some (requestId, method) else none
  | _, _ => none

/-- The id that `serverRequest/resolved` announces. -/
def resolvedRequest (message : JsonObject) : Option RequestId :=
  if messageMethod message = some "serverRequest/resolved" then
    (messageParams message).bind (validId · "requestId")
  else none

/-- The thread and turn of a notification with this method. -/
def notifiedTurn (method : String) (message : JsonObject) : Option (String × String) :=
  if requestIdOf message = none ∧ messageMethod message = some method then
    match messageParams message with
    | some params =>
        match dictGet params "threadId", dictGet params "turn" with
        | some (.str threadId), some (.obj turn) =>
            match dictGet turn "id" with
            | some (.str turnId) => some (threadId, turnId)
            | _ => none
        | _, _ => none
    | none => none
  else none

/-- The notification that is observed: a text method without a request id. -/
def observedNotification (message : JsonObject) : Option ServerNotification :=
  match requestIdOf message, messageMethod message with
  | none, some method => some ⟨method, (messageParams message).getD []⟩
  | _, _ => none

end LarkBot
