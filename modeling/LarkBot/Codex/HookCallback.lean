import LarkBot.Codex.NotifyOverride
import LarkBot.Server.Daemon.Spool

/-! # Hook callbacks

Codex starts `codex-hook` with the event of a session as its last argument or on its standard input.
What the command makes of it names an event and at most two ids, cut to two hundred characters, and
nothing else of the callback. The daemon takes it from a request and from the spool alike, so of a
spool that only callbacks filled the next start leaves nothing but files that were not written to
their end (`LarkBot.callbacks_drained`). The command that an existing configuration named is
started once, and starts none again.
-/

namespace LarkBot

open Foundation

/-- The bytes of a text in UTF-8. -/
def utf8Length : List Char → Nat
  | [] => 0
  | char :: text => char.utf8Size + utf8Length text

section Callback

variable (loads : String → Except PyError Json)

/-- `parse_bounded_json_object`, on what `json.loads` gives or raises. -/
def parseBoundedJsonObject (raw : String) : Except PyError (Option JsonObject) :=
  if maxHookBytes < utf8Length raw.toList then .ok none
  else
    match loads raw with
    | .ok (.obj fields) => .ok (some fields)
    | .ok _ => .ok none
    | .error error =>
        if error.errorType = .other "JSONDecodeError" then .ok none else .error error

/-- The first candidate that is a bounded object. -/
def firstObject : List String → Except PyError (Option JsonObject)
  | [] => .ok none
  | raw :: rest =>
      match parseBoundedJsonObject loads raw with
      | .ok none => firstObject rest
      | found => found

/-- `read_callback_stdin`, on the text that waits on the standard input. -/
def readCallbackStdin (argv : List String) (stdin : String) : Except PyError String :=
  match argv.getLast? with
  | none => .ok (String.ofList (stdin.toList.take (maxHookBytes + 1)))
  | some last => (parseBoundedJsonObject loads last).map fun
      | some _ => ""
      | none => String.ofList (stdin.toList.take (maxHookBytes + 1))

/-- `isinstance(value, str) and value`. -/
def filledText (payload : JsonObject) (key : String) : Option String :=
  match dictGet payload key with
  | some (.str value) => if value = "" then none else some value
  | _ => none

/-- `value[:200]`. -/
def shortText (value : String) : String := String.ofList (value.toList.take 200)

/-- A `dict[str, str]`. -/
abbrev SafeCallback := List (String × String)

/-- The dict as a JSON object. -/
def SafeCallback.toObject (safe : SafeCallback) : JsonObject :=
  safe.map fun entry => (entry.1, .str entry.2)

/-- What is kept of an id, under its key. -/
def keptId (key : String) (value : Option String) : SafeCallback :=
  value.toList.map fun value => (key, shortText value)

/-- The callback of a finished turn. -/
def normalizeTurn (payload : JsonObject) : Option SafeCallback :=
  (filledText payload "turn-id").map fun turnId =>
    [("hook_event_name", "Stop"), ("event_id", shortText turnId),
      ("callback_type", "agent-turn-complete")] ++
    keptId "thread_id" (filledText payload "thread-id")

/-- The callback of a hook. -/
def normalizeHook (payload : JsonObject) : Option SafeCallback :=
  match requestedName payload with
  | some name =>
      if name ∈ hookEvents then
        some (("hook_event_name", name) :: keptId "event_id" (filledText payload "event_id"))
      else none
  | none => none

def normalizePayload (payload : JsonObject) : Option SafeCallback :=
  if dictGet payload "type" = some (.str "agent-turn-complete") then normalizeTurn payload
  else normalizeHook payload

def normalizeCallback (argv : List String) (stdin : String) :
    Except PyError (Option SafeCallback) :=
  (firstObject loads (argv.getLast?.toList ++ if stdin = "" then [] else [stdin])).map
  fun payload =>
    payload.bind normalizePayload

/-- `forward_existing_notify`, up to `Popen`: the command and the environment that it starts. -/
def forwardExistingNotify (argv : List String) (stdin : String) (environ : Dict String String) :
    Except PyError (Option (List String × Dict String String)) :=
  if environ.get? "LARK_BOT_CODEX_NOTIFY_CHAIN_ACTIVE" = some "1" then .ok none
  else
    match environ.get? "LARK_BOT_CODEX_NOTIFY_CHAIN" with
    | none => .ok none
    | some rawChain =>
        if rawChain = "" then .ok none
        else
          match loads rawChain with
          | .error error =>
              if error.errorType = .other "JSONDecodeError" then .ok none else .error error
          | .ok (.arr parts) =>
              match parts.mapM fun part => match part with
                | .str text => if text = "" then none else some text
                | _ => none with
              | none => .ok none
              | some chain =>
                  if chain = [] then .ok none
                  else do
                    let last ← (argv.getLast?.map (parseBoundedJsonObject loads)).getD (.ok none)
                    let rawPayload := if last.isSome then argv.getLast?.getD "" else stdin
                    if rawPayload = "" then pure none
                    else
                      let payload ← parseBoundedJsonObject loads rawPayload
                      pure (payload.map fun _ => (chain ++ [rawPayload],
                        (environ.set "LARK_BOT_CODEX_NOTIFY_CHAIN_ACTIVE" "1").pop
                          "LARK_BOT_CODEX_NOTIFY_CHAIN"))
          | .ok _ => .ok none

end Callback

/-- What a callback starts is told so, and a callback that is told so starts nothing: a
configuration whose notify command is this one ends after one more callback. -/
theorem forward_ends {loads : String → Except PyError Json} {argv command : List String}
    {stdin : String} {environ child : Dict String String}
    (forwarded : forwardExistingNotify loads argv stdin environ = .ok (some (command, child)))
    {descendant : Dict String String}
    (inherits : descendant.get? "LARK_BOT_CODEX_NOTIFY_CHAIN_ACTIVE" =
      child.get? "LARK_BOT_CODEX_NOTIFY_CHAIN_ACTIVE") (later : List String) (input : String) :
    forwardExistingNotify loads later input descendant = .ok none := by
  have told : child.get? "LARK_BOT_CODEX_NOTIFY_CHAIN_ACTIVE" = some "1" := by
    unfold forwardExistingNotify at forwarded
    split at forwarded
    next => cases forwarded
    next =>
      split at forwarded
      next => cases forwarded
      next =>
        split at forwarded
        next => cases forwarded
        next =>
          split at forwarded
          next =>
            split at forwarded
            all_goals cases forwarded
          next =>
            split at forwarded
            next => cases forwarded
            next =>
              split at forwarded
              next => cases forwarded
              next =>
                obtain ⟨last, _, started⟩ := bind_eq_ok.mp forwarded
                dsimp only at started
                generalize (if last.isSome then argv.getLast?.getD "" else stdin) = raw at started
                split at started
                next => cases started
                next =>
                  obtain ⟨payload, _, started⟩ := bind_eq_ok.mp started
                  obtain ⟨_, _, same⟩ := Option.map_eq_some_iff.mp (Except.ok.inj started)
                  cases same
                  rw [Dict.get?_pop, if_neg (by decide), Dict.get?_set, if_pos rfl]
          next => cases forwarded
  unfold forwardExistingNotify
  rw [if_pos (inherits.trans told)]

/-- `json.dumps`, with `ensure_ascii=False`, of a dict of texts. -/
def dumpsCallback (safe : SafeCallback) : List Char :=
  '{' :: [',', ' '].intercalate (safe.map fun entry =>
    dumpsText entry.1 ++ ':' :: ' ' :: dumpsText entry.2) ++ ['}']

/-! ## What is kept of a callback -/

section Sanitized

variable {payload : JsonObject} {safe : SafeCallback}

/-- An entry says what happened, or is the start of an id of the callback. -/
inductive SafeEntry (payload : JsonObject) : String × String → Prop
  | event {name : String} (known : name ∈ hookEvents) :
      SafeEntry payload ("hook_event_name", name)
  | callback : SafeEntry payload ("callback_type", "agent-turn-complete")
  | id {key source value : String}
      (named : (key, source) ∈ [("event_id", "turn-id"), ("event_id", "event_id"),
        ("thread_id", "thread-id")])
      (given : filledText payload source = some value) : SafeEntry payload (key, shortText value)

/-- The shapes of what is kept: an event with at most an id, or a turn. -/
inductive Kept (payload : JsonObject) : SafeCallback → Prop
  | turn {turnId : String} (given : filledText payload "turn-id" = some turnId) :
      Kept payload ([("hook_event_name", "Stop"), ("event_id", shortText turnId),
        ("callback_type", "agent-turn-complete")] ++
          keptId "thread_id" (filledText payload "thread-id"))
  | hook {name : String} (known : name ∈ hookEvents) :
      Kept payload (("hook_event_name", name) ::
        keptId "event_id" (filledText payload "event_id"))

/-- What the payload of a hook is normalized to keeps an event and at most two ids of it. -/
theorem kept_of_normalizePayload (normalized : normalizePayload payload = some safe) :
    Kept payload safe := by
  unfold normalizePayload at normalized
  split at normalized
  next =>
    obtain ⟨turnId, given, rfl⟩ := Option.map_eq_some_iff.mp normalized
    exact .turn given
  next =>
    unfold normalizeHook at normalized
    split at normalized
    next name named =>
      split at normalized
      next known =>
        cases normalized
        exact .hook known
      next => cases normalized
    next => cases normalized

/-- Every entry that is kept is a short text of the callback, or the event. -/
theorem Kept.entries (kept : Kept payload safe) : ∀ entry ∈ safe, SafeEntry payload entry := by
  have ids : ∀ key source, (key, source) ∈ [("event_id", "turn-id"), ("event_id", "event_id"),
      ("thread_id", "thread-id")] → ∀ entry ∈ keptId key (filledText payload source),
        SafeEntry payload entry := by
    intro key source named entry member
    obtain ⟨value, given, rfl⟩ := List.mem_map.mp member
    exact .id named (Option.mem_toList.mp given)
  intro entry member
  cases kept with
  | turn given =>
      rcases List.mem_append.mp member with fixed | thread
      · simp only [List.mem_cons, List.not_mem_nil, or_false] at fixed
        rcases fixed with rfl | rfl | rfl
        · exact .event (by decide)
        · exact .id (by decide) given
        · exact .callback
      · exact ids _ _ (by decide) entry thread
  | hook known =>
      rcases List.mem_cons.mp member with rfl | id
      · exact .event known
      · exact ids _ _ (by decide) entry id

end Sanitized

/-! ## What the daemon makes of it -/

section Accepted

variable {payload : JsonObject} {safe : SafeCallback}

/-- The request that a kept callback is. -/
def SafeCallback.request (safe : SafeCallback) : HookRequest where
  key := (safe.lookup "event_id").map hookKey
  name := (safe.lookup "hook_event_name").getD ""

/-- A text that was found filled is not empty. -/
theorem filledText_ne_empty {key value : String} (given : filledText payload key = some value) :
    value ≠ "" := by
  unfold filledText at given
  split at given
  next =>
    split at given
    next => cases given
    next filled =>
      cases given
      exact filled
  next => cases given

/-- Cutting a filled text leaves it filled. -/
theorem shortText_ne_empty {value : String} (filled : value ≠ "") : shortText value ≠ "" := by
  intro empty
  have letters := congrArg String.toList empty
  unfold shortText at letters
  rw [String.toList_ofList, String.toList_empty, List.take_eq_nil_iff] at letters
  rcases letters with impossible | none
  · cases impossible
  · exact filled (String.toList_eq_nil_iff.mp none)

/-- An object that names an event under its first key is read as that event on both ways. -/
theorem requests_of_event {object : JsonObject} {name : String} {eventId : Option String}
    (named : dictGet object "hook_event_name" = some (.str name)) (known : name ∈ hookEvents)
    (identified : eventIdOf object = eventId) :
    (HookBody.json (.obj object)).request = .ok ⟨eventId.map hookKey, name⟩ ∧
      spooledRequest object = .ok (some ⟨eventId.map hookKey, name⟩) := by
  have requested : requestedName object = some name := by
    unfold requestedName
    rw [List.findSome?_cons, named]
  constructor
  · unfold HookBody.request
    simp only [requested, identified]
    rw [if_pos known]
  · unfold spooledRequest
    simp only [named, identified]
    rw [if_pos known]

/-- A request with a kept callback, and a file with it, are read as one event. -/
theorem Kept.accepted (kept : Kept payload safe) :
    (HookBody.json (.obj safe.toObject)).request = .ok safe.request ∧
      spooledRequest safe.toObject = .ok (some safe.request) := by
  cases kept with
  | @turn turnId given =>
      have known : "Stop" ∈ hookEvents := by decide
      apply requests_of_event rfl known
      have filled := shortText_ne_empty (filledText_ne_empty given)
      exact if_neg filled
  | @hook name known =>
      cases identified : filledText payload "event_id" with
      | none => exact requests_of_event rfl known rfl
      | some eventId =>
          apply requests_of_event rfl known
          have filled := shortText_ne_empty (filledText_ne_empty identified)
          exact if_neg filled

end Accepted

section Size

/-- The bytes of a text are those of its first character and of its rest. -/
theorem utf8Length_cons (char : Char) (text : List Char) :
    utf8Length (char :: text) = char.utf8Size + utf8Length text := rfl

/-- The bytes of two texts add up. -/
theorem utf8Length_append (first second : List Char) :
    utf8Length (first ++ second) = utf8Length first + utf8Length second := by
  induction first with
  | nil => exact (Nat.zero_add _).symm
  | cons char text ih =>
      rw [List.cons_append, utf8Length_cons, ih, utf8Length_cons, Nat.add_assoc]

/-- The escape of a control character takes at most six bytes. -/
theorem utf8Length_control : ∀ code < 0x20, utf8Length
    [backslash, 'u', '0', '0', hexDigit (code / 16), hexDigit (code % 16)] ≤ 6 := by
  decide

/-- A character takes at most six bytes in a JSON text. -/
theorem utf8Length_encodeChar (char : Char) : utf8Length (encodeChar char) ≤ 6 := by
  unfold encodeChar
  repeat' split
  case isTrue => decide
  case isFalse.isTrue => decide
  case isFalse.isFalse.isTrue => decide
  case isFalse.isFalse.isFalse.isTrue => decide
  case isFalse.isFalse.isFalse.isFalse.isTrue => decide
  case isFalse.isFalse.isFalse.isFalse.isFalse.isTrue => decide
  case isFalse.isFalse.isFalse.isFalse.isFalse.isFalse.isTrue => decide
  next control => exact utf8Length_control char.toNat control
  next =>
    rw [utf8Length_cons]
    exact Nat.le_trans (Char.utf8Size_le_four char) (by decide)

/-- An escaped text takes at most six bytes for each character. -/
theorem utf8Length_flatMap_encodeChar (text : List Char) :
    utf8Length (text.flatMap encodeChar) ≤ 6 * text.length := by
  induction text with
  | nil => exact Nat.le_refl _
  | cons char text ih =>
      rw [List.flatMap_cons, utf8Length_append, List.length_cons]
      have first := utf8Length_encodeChar char
      omega

/-- A text is written with its two quotation marks and at most six bytes for each
character. -/
theorem utf8Length_dumpsText (text : String) :
    utf8Length (dumpsText text) ≤ 6 * text.toList.length + 2 := by
  unfold dumpsText
  rw [List.cons_append, utf8Length_cons, utf8Length_append]
  have letters := utf8Length_flatMap_encodeChar text.toList
  have mark : quotationMark.utf8Size = 1 ∧ utf8Length [quotationMark] = 1 := by decide
  omega

/-- The bytes of a dict of texts, from those of its entries. -/
theorem utf8Length_intercalate {bound : Nat} {items : List (List Char)}
    (short : ∀ item ∈ items, utf8Length item ≤ bound) :
    utf8Length ([',', ' '].intercalate items) ≤ items.length * (bound + 2) := by
  induction items with
  | nil => exact Nat.zero_le _
  | cons item items ih =>
      have first := short item List.mem_cons_self
      have others := ih fun other member => short other (List.mem_cons_of_mem _ member)
      cases items with
      | nil =>
          rw [List.intercalate_singleton, List.length_singleton]
          omega
      | cons next rest =>
          have separator : utf8Length [',', ' '] = 2 := by decide
          rw [List.intercalate_cons_cons, utf8Length_append, utf8Length_append, separator,
            List.length_cons, Nat.succ_mul]
          omega

/-- At most four entries of a callback are kept. -/
theorem Kept.length_le {payload : JsonObject} {safe : SafeCallback} (kept : Kept payload safe) :
    safe.length ≤ 4 := by
  have ids : ∀ key value, (keptId key value).length ≤ 1 := by
    intro key value
    cases value with
    | none => exact Nat.zero_le _
    | some => exact Nat.le_refl _
  cases kept with
  | turn => exact Nat.add_le_add_right (ids _ _) 3
  | hook => exact Nat.le_trans (Nat.succ_le_succ (ids _ _)) (by decide)

/-- Every entry of a kept callback is short. -/
theorem SafeEntry.short {payload : JsonObject} {entry : String × String}
    (safe : SafeEntry payload entry) : entry.1.toList.length ≤ 15 ∧ entry.2.toList.length ≤
    200 := by
  cases safe with
  | event known =>
      have key : "hook_event_name".toList.length ≤ 15 := by decide
      refine ⟨key, ?_⟩
      simp only [hookEvents, List.mem_cons, List.not_mem_nil, or_false] at known
      rcases known with rfl | rfl | rfl
      all_goals decide
  | callback => decide
  | id named given =>
      simp only [List.mem_cons, List.not_mem_nil, or_false, Prod.mk.injEq] at named
      constructor
      · rcases named with ⟨rfl, _⟩ | ⟨rfl, _⟩ | ⟨rfl, _⟩
        all_goals
          dsimp only
          decide
      · unfold shortText
        dsimp only
        rw [String.toList_ofList]
        exact List.length_take_le _ _

/-- The text of a kept callback is not too large for the spool. -/
theorem Kept.size {payload : JsonObject} {safe : SafeCallback} (kept : Kept payload safe) :
    utf8Length (dumpsCallback safe) ≤ maxHookBytes := by
  have items : ∀ item ∈ safe.map (fun entry : String × String =>
      dumpsText entry.1 ++ ':' :: ' ' :: dumpsText entry.2), utf8Length item ≤ 1296 := by
    intro item member
    obtain ⟨entry, listed, rfl⟩ := List.mem_map.mp member
    obtain ⟨key, value⟩ := (kept.entries entry listed).short
    have separator : utf8Length [':', ' '] = 2 := by decide
    have whole : dumpsText entry.1 ++ ':' :: ' ' :: dumpsText entry.2 =
        dumpsText entry.1 ++ ([':', ' '] ++ dumpsText entry.2) := rfl
    rw [whole, utf8Length_append, utf8Length_append, separator]
    have first := utf8Length_dumpsText entry.1
    have second := utf8Length_dumpsText entry.2
    omega
  have joined := utf8Length_intercalate items
  rw [List.length_map] at joined
  have count := kept.length_le
  unfold dumpsCallback maxHookBytes
  rw [List.cons_append, utf8Length_cons, utf8Length_append]
  have braces : '{'.utf8Size = 1 ∧ utf8Length ['}'] = 1 := by decide
  omega

end Size

/-! ## Runs of hook processes -/

/-- A payload is what was kept of a callback. -/
def KeptPayload (object : JsonObject) : Prop :=
  ∃ callback safe, Kept callback safe ∧ object = SafeCallback.toObject safe

/-- A file holds what was kept of a callback, and the daemon reads it. -/
structure KeptFile (file : SpoolFile) : Prop where
  plain : file.isSymlink = false
  short : file.size ≤ maxHookBytes
  content : ∃ callback safe, Kept callback safe ∧ file.content = .json (.obj safe.toObject)

/-- Hook processes send what they keep of callbacks, and spool it as a JSON text. -/
def FromCallbacks (loads : String → Except PyError Json) (_ : HookState) : HookEvent → Prop
  | .send payload => ∃ argv stdin safe,
      normalizeCallback loads argv stdin = .ok (some safe) ∧ payload = safe.toObject
  | .spool payload _ size => ∀ safe : SafeCallback, payload = safe.toObject →
      size = utf8Length (dumpsCallback safe)
  | _ => True

/-- What the command makes of its argument or its standard input is kept of one callback. -/
theorem kept_of_normalizeCallback {loads : String → Except PyError Json} {argv : List String}
    {stdin : String} {safe : SafeCallback}
    (normalized : normalizeCallback loads argv stdin = .ok (some safe)) :
    ∃ callback, Kept callback safe := by
  obtain ⟨found, _, kept⟩ := map_eq_ok.mp normalized
  obtain ⟨callback, _, normal⟩ := Option.bind_eq_some_iff.mp kept
  exact ⟨callback, kept_of_normalizePayload normal⟩

/-- What is sent and what is spooled comes from callbacks, but for files that are torn. -/
structure HookState.Callbacks (state : HookState) : Prop where
  sent : ∀ payload ∈ state.sent, KeptPayload payload
  spool : ∀ file ∈ state.spool, file.content.isTorn = false → KeptFile file

namespace HookState

variable {loads : String → Except PyError Json} {delay : Instant} {state after : HookState}

/-- The daemon sends and spools nothing, and only removes files. -/
structure OnlyRemoves (state after : HookState) : Prop where
  sent : after.sent = state.sent
  spool : after.spool ⊆ state.spool

/-- A step that only removes files leaves those that remain made by the command. -/
theorem OnlyRemoves.callbacks (removes : OnlyRemoves state after) (callbacks : state.Callbacks) :
    after.Callbacks where
  sent := removes.sent ▸ callbacks.sent
  spool := fun file member => callbacks.spool file (removes.spool member)

/-- An error that is logged removes nothing. -/
theorem onlyRemoves_fail (error : PyError) : OnlyRemoves state (state.fail error) := by
  unfold fail
  split
  · split
    all_goals exact ⟨rfl, List.Subset.refl _⟩
  · exact ⟨rfl, List.Subset.refl _⟩
  · exact ⟨rfl, List.Subset.refl _⟩

/-- What the store does for an event leaves the files of the spool. -/
theorem onlyRemoves_operate (ingestion : HookIngestion) (now : Instant)
    (faults : List (Option PyError)) :
    OnlyRemoves state (state.operate delay ingestion now faults) := by
  have writes : ∀ database error, OnlyRemoves state ({ state with database }.fail error) := by
    intro database error
    obtain ⟨sent, spool⟩ := @onlyRemoves_fail { state with database } error
    exact ⟨sent, spool⟩
  unfold operate
  split
  next =>
    split
    · exact ⟨rfl, List.Subset.refl _⟩
    · exact ⟨rfl, List.Subset.refl _⟩
    · exact writes _ _
  next =>
    split
    · exact ⟨rfl, List.Subset.refl _⟩
    · exact writes _ _
  next =>
    split
    · exact onlyRemoves_fail _
    · exact ⟨rfl, List.filter_subset_self _⟩

/-- Every event of a run leaves in the spool only files that the command made. -/
theorem Callbacks.step (callbacks : state.Callbacks) {event : HookEvent}
    (allowed : FromCallbacks loads state event) (stepped : state.step delay event = some after) :
    after.Callbacks := by
  cases event with
  | send payload =>
      obtain ⟨argv, stdin, safe, normalized, rfl⟩ := allowed
      obtain ⟨callback, kept⟩ := kept_of_normalizeCallback normalized
      cases stepped
      refine ⟨fun other member => ?_, callbacks.spool⟩
      rcases List.mem_append.mp member with old | new
      · exact callbacks.sent other old
      · exact List.mem_singleton.mp new ▸ ⟨callback, safe, kept, rfl⟩
  | answered payload =>
      simp only [HookState.step] at stepped
      split at stepped
      next =>
        cases stepped
        exact ⟨fun other member => callbacks.sent other (List.mem_of_mem_erase member),
          callbacks.spool⟩
      next => cases stepped
  | lose payload =>
      simp only [HookState.step] at stepped
      split at stepped
      next =>
        cases stepped
        exact ⟨fun other member => callbacks.sent other (List.mem_of_mem_erase member),
          callbacks.spool⟩
      next => cases stepped
  | spool payload name size =>
      simp only [HookState.step] at stepped
      split at stepped
      next inHand =>
        obtain ⟨callback, safe, kept, rfl⟩ := callbacks.sent payload inHand.1
        cases stepped
        refine ⟨fun other member => callbacks.sent other (List.mem_of_mem_erase member), ?_⟩
        intro file member
        rcases List.mem_append.mp member with old | new
        · exact callbacks.spool file old
        · rw [List.mem_singleton.mp new]
          intro _
          refine ⟨rfl, ?_, callback, safe, kept, rfl⟩
          rw [allowed safe rfl]
          exact kept.size
      next => cases stepped
  | tear name size content =>
      simp only [HookState.step] at stepped
      split at stepped
      next torn =>
        cases stepped
        refine ⟨callbacks.sent, fun file member whole => ?_⟩
        rcases List.mem_append.mp member with old | new
        · exact callbacks.spool file old whole
        · rw [List.mem_singleton.mp new] at whole
          cases torn.1.symm.trans whole
      next => cases stepped
  | request body =>
      simp only [HookState.step] at stepped
      split at stepped
      next =>
        split at stepped
        all_goals
          cases stepped
          exact { callbacks with }
      next => cases stepped
  | proceed now faults =>
      obtain ⟨ingestion, _, rfl⟩ := Option.map_eq_some_iff.mp stepped
      exact (onlyRemoves_operate ingestion now faults).callbacks callbacks
  | drainNext fault =>
      simp only [HookState.step] at stepped
      split at stepped
      next =>
        cases stepped
        exact { callbacks with }
      next file rest draining =>
        have read : ({ state with phase := .draining none rest } : HookState).Callbacks :=
          ⟨callbacks.sent, callbacks.spool⟩
        split at stepped
        next =>
          cases stepped
          exact (onlyRemoves_fail _).callbacks read
        next =>
          cases stepped
          exact (onlyRemoves_fail _).callbacks read
        next =>
          cases stepped
          exact read
        next =>
          cases stepped
          exact ⟨read.sent, read.spool⟩
      next => cases stepped
  | start =>
      simp only [HookState.step] at stepped
      split at stepped
      next =>
        cases stepped
        exact ⟨callbacks.sent, callbacks.spool⟩
      next => cases stepped
  | stop =>
      cases stepped
      exact ⟨callbacks.sent, callbacks.spool⟩
  | other operation faults =>
      simp only [HookState.step] at stepped
      split at stepped
      next =>
        cases stepped
        exact ⟨callbacks.sent, callbacks.spool⟩
      next => cases stepped

end HookState

/-- A kept file is read as the event that a request with it would be. -/
theorem KeptFile.request {file : SpoolFile} (kept : KeptFile file) :
    ∃ callback safe, Kept callback safe ∧ file.content = .json (.obj safe.toObject) ∧
      file.request = .ok (some safe.request) := by
  obtain ⟨callback, safe, keeps, content⟩ := kept.content
  refine ⟨callback, safe, keeps, content, ?_⟩
  unfold SpoolFile.request
  rw [if_neg, content]
  · exact keeps.accepted.2
  · rw [not_or, kept.plain]
    exact ⟨Bool.false_ne_true, Nat.not_lt.mpr kept.short⟩

/-- A torn file raises what the drain catches, or nothing. -/
theorem Spool.caught_of_torn {entry : SpoolEntry} (readable : entry.fault = none)
    (torn : entry.file.content.isTorn = true) : Spool.Caught entry ∧ entry.event = none := by
  have none : Spool.fields? entry = none := by
    unfold Spool.fields?
    split
    next =>
      generalize entry.file.content = content at torn
      cases content <;> first | rfl | cases torn
    next => rfl
  unfold Spool.Caught SpoolEntry.event
  rcases Spool.request_of_fields_none readable none with eventless | ⟨error, raised, inside⟩
  · rw [eventless]
    refine ⟨fun error impossible => ?_, rfl⟩
    cases impossible
  · rw [raised]
    refine ⟨fun error same => ?_, rfl⟩
    cases same
    exact inside

/-- In every run in which hook processes send and spool what they keep of callbacks, the daemon
accepts each payload, and it reads each file of the spool that was written to its end as the same
event. A drain of such files goes through all of them, records their ids, and leaves none but those
that are torn. -/
theorem callbacks_drained {loads : String → Except PyError Json} {delay : Instant}
    {database : Database} {state : HookState}
    (reached : (hookSystem delay).ReachesVia (FromCallbacks loads)
      ⟨database, [], [], .stopped, [], []⟩ state) {spool : Spool}
    (files : ∀ entry ∈ spool.entries, entry.file ∈ state.spool)
    (readable : ∀ entry ∈ spool.entries, entry.fault = none) :
    (∀ payload ∈ state.sent, ∃ callback safe, Kept callback safe ∧ payload = safe.toObject ∧
      (HookBody.json (.obj payload)).request = .ok safe.request) ∧
    (spool.drainSpool delay).1 = .ok () ∧
    (∀ entry, entry ∈ (spool.drainSpool delay).2.entries ↔
      entry ∈ spool.entries ∧ entry.file.content.isTorn = true) ∧
    ∀ entry ∈ spool.entries, entry.file.content.isTorn = false →
      ∃ callback safe, Kept callback safe ∧ entry.file.content = .json (.obj safe.toObject) ∧
        (HookBody.json (.obj safe.toObject)).request = .ok safe.request ∧
        ∀ key ∈ safe.request.key, (spool.drainSpool delay).2.database.Recorded key := by
  have callbacks : state.Callbacks := by
    refine reached.invariant HookState.Callbacks ?_ fun _ _ _ held allowed stepped =>
      held.step allowed stepped
    constructor
    all_goals
      intro _ absent
      cases absent
  have read : ∀ entry ∈ spool.entries, entry.file.content.isTorn = false →
      ∃ callback safe, Kept callback safe ∧ entry.file.content = .json (.obj safe.toObject) ∧
        entry.event = some safe.request := by
    intro entry member whole
    obtain ⟨callback, safe, kept, content, request⟩ :=
      (callbacks.spool _ (files entry member) whole).request
    refine ⟨callback, safe, kept, content, ?_⟩
    unfold SpoolEntry.event SpoolEntry.request
    simp only [readable entry member, request]
  let before (first second : SpoolEntry) : Prop := first.file.name ≤ second.file.name
  have sorted : ∀ entry, entry ∈ spool.entries.insertionSort before ↔ entry ∈ spool.entries :=
    fun entry => (List.perm_insertionSort before spool.entries).mem_iff
  obtain ⟨after, ended, taken⟩ := Spool.drain_of_caught delay spool fun entry member => by
    have inside := (sorted entry).mp member
    cases torn : entry.file.content.isTorn with
    | true => exact (Spool.caught_of_torn (readable entry inside) torn).1
    | false =>
        obtain ⟨_, safe, _, _, event⟩ := read entry inside torn
        intro error raised
        rw [Spool.request_of_event event] at raised
        cases raised
  have drained : spool.drainSpool delay = (.ok (), after) := ended
  rw [drained]
  refine ⟨?_, rfl, ?_, ?_⟩
  · intro payload member
    obtain ⟨callback, safe, kept, rfl⟩ := callbacks.sent payload member
    exact ⟨callback, safe, kept, rfl, kept.accepted.1⟩
  · intro other
    refine (taken.left other).trans (and_congr_right fun inside => ?_)
    constructor
    · intro kept
      by_contra whole
      obtain ⟨_, safe, _, _, event⟩ := read other inside (Bool.eq_false_iff.mpr whole)
      refine kept other ((sorted other).mpr inside) ⟨?_, rfl⟩
      rw [event]
      exact Option.some_ne_none _
    · intro torn entry member ⟨event, same⟩
      have names := List.inj_on_of_nodup_map spool.names ((sorted entry).mp member) inside same
      rw [names] at event
      exact event (Spool.caught_of_torn (readable other inside) torn).2
  · intro entry member whole
    obtain ⟨callback, safe, kept, content, event⟩ := read entry member whole
    refine ⟨callback, safe, kept, content, kept.accepted.1, fun key named => ?_⟩
    refine (taken.recorded key).mpr (Or.inr (List.mem_filterMap.mpr ⟨safe.request, ?_, named⟩))
    exact List.mem_filterMap.mpr ⟨entry, (sorted entry).mpr member, event⟩

/-- The callback of a finished turn, with the answer of the assistant. -/
def turnCallback : JsonObject :=
  [("type", .str "agent-turn-complete"), ("turn-id", .str "turn-1"),
    ("last-assistant-message", .str "the answer")]

/-- What is kept of it. -/
def keptTurn : SafeCallback :=
  [("hook_event_name", "Stop"), ("event_id", "turn-1"), ("callback_type", "agent-turn-complete")]

/-- `json.loads` of the one text that Codex wrote. -/
def loadsTurn (raw : String) : Except PyError Json :=
  if raw = "turn" then .ok (.obj turnCallback) else .error ⟨.other "JSONDecodeError", ""⟩

/-- Two callbacks with the same JSON object are the same. -/
theorem SafeCallback.toObject_injective : Function.Injective SafeCallback.toObject := by
  apply List.map_injective_iff.mpr
  intro first second same
  obtain ⟨key, value⟩ := Prod.mk.inj same
  exact Prod.ext key (Json.str.inj value)

/-- The file of the turn in the spool. -/
def turnEntry : SpoolEntry :=
  ⟨⟨"hook-1.json", false, utf8Length (dumpsCallback keptTurn), .json (.obj keptTurn.toObject)⟩,
    none,
    5, 6⟩

/-- The file of a turn when the disk is full. -/
def tornEntry : SpoolEntry := ⟨⟨"hook-2.json", false, 0, .noJson⟩, none, 7, 8⟩

/-- The daemon is not there when a turn ends, and the disk is full when the next one does. The start
drains the spool, and leaves the file that was not written. -/
theorem spooled_turn_drained : ∃ spool : Spool, spool.entries = [turnEntry, tornEntry] ∧
    (spool.drainSpool 0).1 = .ok () ∧
    (∀ entry, entry ∈ (spool.drainSpool 0).2.entries ↔ entry = tornEntry) ∧
    (spool.drainSpool 0).2.database.Recorded "hook:turn-1" := by
  let spooled : HookState := ⟨.empty, [turnEntry.file, tornEntry.file], [], .stopped, [], []⟩
  have reached : (hookSystem 0).ReachesVia (FromCallbacks loadsTurn)
      ⟨.empty, [], [], .stopped, [], []⟩ spooled := by
    refine .step (.tear "hook-2.json" 0 .noJson)
      (.step (.spool keptTurn.toObject "hook-1.json" (utf8Length (dumpsCallback keptTurn)))
        (.step (.send keptTurn.toObject) .refl ⟨["codex-hook", "turn"], "", keptTurn, rfl, rfl⟩ rfl)
        ?_ rfl) trivial rfl
    intro safe same
    rw [SafeCallback.toObject_injective same]
  let spool : Spool := ⟨.empty, [turnEntry, tornEntry], by decide⟩
  obtain ⟨_, quiet, left, recorded⟩ := @callbacks_drained loadsTurn 0 .empty spooled reached spool
    (by decide) (by decide)
  refine ⟨spool, rfl, quiet, fun entry => ?_, ?_⟩
  · rw [left]
    constructor
    · rintro ⟨member, torn⟩
      rcases List.mem_cons.mp member with rfl | last
      · cases torn
      · exact List.mem_singleton.mp last
    · rintro rfl
      exact ⟨List.mem_cons_of_mem _ List.mem_cons_self, rfl⟩
  obtain ⟨_, safe, _, content, _, keys⟩ := recorded turnEntry List.mem_cons_self rfl
  apply keys _
  have same : keptTurn = safe :=
    SafeCallback.toObject_injective (Json.obj.inj (SpoolContent.json.inj content))
  rw [← same]
  exact rfl

end LarkBot
