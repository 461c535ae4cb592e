import LarkBot.Codex.AppServer.Correlation

/-! # The handshake and the closing of the client

The startup task writes `initialize` and `initialized` before anybody else writes a frame
(`LarkBot.ClientCore.Written`), and a client that closes writes none. A request that is
unfinished when the terminal error is recorded raises it, unless it is interrupted or its own
write fails (`LarkBot.ClientCore.Told`).
-/

namespace LarkBot

open Foundation Relation

/-- The frames of the handshake. -/
def handshake (config : ClientConfig) : List JsonObject :=
  [requestMessage 1 "initialize" (initializeParams config.version), initializedMessage]

/-- Whether the frame of a call was written, unless its write failed. -/
def CallPhase.wrote : CallPhase → Option Bool
  | .writing .created | .writing .queued => some false
  | .writing (.done (some _)) => none
  | _ => some true

/-- The handshake is about to write its frame of this number, or wrote it. -/
def FrameProgress (config : ClientConfig) (phase : CallPhase) (number : Nat)
    (frames : List JsonObject) : Prop :=
  frames = (handshake config).take number ∧ phase.wrote ≠ some true ∨
    frames = (handshake config).take (number + 1) ∧ phase.wrote ≠ some false

/-- Either list continues the other. -/
def Continues (frames other : List JsonObject) : Prop := frames <+: other ∨ other <+: frames

namespace ClientCore

variable {config : ClientConfig} {core after : ClientCore}

/-- The frames are as far as the startup task is. -/
def Written (config : ClientConfig) (core : ClientCore) : Prop :=
  match core.startup with
  | none | some .spawning | some .spawned => core.frames = []
  | some .initializing => ∃ call, core.calls.get? .startup = some call ∧
      FrameProgress config call.phase 0 core.frames
  | some .initialized => core.frames = (handshake config).take 1
  | some .announcing => ∃ call, core.calls.get? .startup = some call ∧
      FrameProgress config call.phase 1 core.frames
  | some .announced => core.frames = handshake config
  | some (.failing _) | some (.ended (some _)) => core.frames <+: handshake config
  | some (.ended none) => handshake config <+: core.frames

/-- A frame of the handshake is written, or a later one. -/
theorem Written.continues (written : core.Written config) :
    Continues core.frames (handshake config) := by
  have begun : ∀ {phase : CallPhase} {number : Nat}, FrameProgress config phase number core.frames →
      core.frames <+: handshake config := by
    rintro phase number (⟨same, -⟩ | ⟨same, -⟩)
    · rw [same]
      exact List.take_prefix _ _
    · rw [same]
      exact List.take_prefix _ _
  unfold Written at written
  split at written
  · exact .inl (written ▸ List.nil_prefix)
  · exact .inl (written ▸ List.nil_prefix)
  · exact .inl (written ▸ List.nil_prefix)
  · obtain ⟨_, -, progress⟩ := written
    exact .inl (begun progress)
  · exact .inl (written ▸ List.take_prefix _ _)
  · obtain ⟨_, -, progress⟩ := written
    exact .inl (begun progress)
  · exact .inl (written ▸ List.prefix_rfl)
  · exact .inl written
  · exact .inl written
  · exact .inr written

/-- A change that touches neither the startup task nor its call nor the frames. -/
theorem Written.frame (written : core.Written config) (startup : after.startup = core.startup)
    (calls : ∀ call, core.calls.get? .startup = some call → ∃ next,
      after.calls.get? .startup = some next ∧
        (next.phase.wrote = none ∨ next.phase.wrote = call.phase.wrote))
    (frames : after.frames = core.frames) : after.Written config := by
  have progress : ∀ {phase next : CallPhase} {number : Nat},
      FrameProgress config phase number core.frames → next.wrote = none ∨ next.wrote = phase.wrote →
      FrameProgress config next number core.frames := by
    rintro phase next number (⟨same, notWrote⟩ | ⟨same, wrote⟩) (failed | kept)
    · exact .inl ⟨same, by rw [failed]; exact fun impossible => by cases impossible⟩
    · exact .inl ⟨same, by rw [kept]; exact notWrote⟩
    · exact .inr ⟨same, by rw [failed]; exact fun impossible => by cases impossible⟩
    · exact .inr ⟨same, by rw [kept]; exact wrote⟩
  unfold Written at written ⊢
  rw [startup, frames]
  split at written
  · exact written
  · exact written
  · exact written
  · obtain ⟨call, present, progressed⟩ := written
    obtain ⟨next, located, kept⟩ := calls call present
    exact ⟨next, located, progress progressed kept⟩
  · exact written
  · obtain ⟨call, present, progressed⟩ := written
    obtain ⟨next, located, kept⟩ := calls call present
    exact ⟨next, located, progress progressed kept⟩
  · exact written
  · exact written
  · exact written
  · exact written

/-- A request that is over has left `_pending`. -/
def Left (core : ClientCore) : Prop :=
  ∀ outcome ∈ core.outcomes, ∀ requestId, outcome.requestId = some requestId →
    requestId ∈ core.issued ∧ requestId ∉ core.pending.keys

/-- A request that was unfinished when the terminal error was recorded raises it, unless it was
interrupted or its own write failed. -/
structure Told (core : ClientCore) (requestId : Int) (error : ClientError) : Prop where
  future : ∀ future, core.pending.get? requestId = some future → future = .exception error
  outcomes : ∀ outcome ∈ core.outcomes, outcome.requestId = some requestId →
    outcome.result = .error error ∨ outcome.ended = .interrupted ∨ outcome.ended = .writing

/-- The terminal error is told to the requests that were unfinished. -/
def ToldAll (core : ClientCore) : Prop :=
  ∀ requestId ∈ core.failedRequests, ∃ error, core.terminalError = some error ∧
    core.Told requestId error

/-- What `wait_closed` raised, once the client was closed, is the terminal error. -/
def Waited (core : ClientCore) : Prop :=
  (core.closedEvent = true → core.lifecycle = .closed) ∧
    ∀ raised ∈ core.closedWaits, core.closedEvent = true ∧ raised = core.terminalError

/-- How a call goes on by itself writes no frame. -/
theorem CallMove.wrote {call next : Call} (moved : core.CallMove call next) :
    next.phase.wrote = none ∨ next.phase.wrote = call.phase.wrote := by
  cases moved with
  | queue created => exact .inr (by rw [created]; rfl)
  | fail => exact .inl rfl
  | drain drains =>
    rcases drains with draining | cancelled
    · exact .inr (by rw [draining]; rfl)
    · exact .inr (by rw [cancelled]; rfl)
  | await written => exact .inr (by rw [written]; rfl)
  | interrupt => exact .inr rfl

end ClientCore

namespace ClientMove

open ClientCore

variable {config : ClientConfig} {core after : ClientCore}

/-- A change of a user's call leaves the call of the startup task. -/
theorem get?_startup_set {calls : Dict ClientCaller Call} {task : Nat} {next : Call} :
    (calls.set (.user task) next).get? .startup = calls.get? .startup := by
  rw [Dict.get?_set, if_neg (fun same => by cases same)]

/-- Nothing that the frames depend on changes. -/
theorem written_of_kept (written : core.Written config) (startup : after.startup = core.startup)
    (calls : after.calls.get? .startup = core.calls.get? .startup)
    (frames : after.frames = core.frames) : after.Written config :=
  written.frame startup (fun call present => ⟨call, calls.trans present, .inr rfl⟩) frames

/-- The frame of the call that the startup task awaits. -/
theorem handshake_progress (written : core.Written config) (owned : core.Owned config)
    {call : Call} (present : core.calls.get? .startup = some call) :
    core.startup = some .initializing ∧ call.requestId = some 1 ∧
        (handshake config).take 1 = [call.message] ∧
        FrameProgress config call.phase 0 core.frames ∨
      core.startup = some .announcing ∧ call.requestId = none ∧
        handshake config = (handshake config).take 1 ++ [call.message] ∧
        FrameProgress config call.phase 1 core.frames := by
  unfold Written at written
  rcases owned.handshake call present with ⟨stage, taken, message⟩ | ⟨stage, untaken, message⟩
  · rw [stage] at written
    obtain ⟨found, located, progress⟩ := written
    obtain rfl := Option.some.inj (present.symm.trans located)
    exact .inl ⟨stage, taken, by rw [message]; rfl, progress⟩
  · rw [stage] at written
    obtain ⟨found, located, progress⟩ := written
    obtain rfl := Option.some.inj (present.symm.trans located)
    exact .inr ⟨stage, untaken, by rw [message]; rfl, progress⟩

/-- The startup task writes the frame of its call. -/
theorem written_of_frame (written : core.Written config) (owned : core.Owned config) {call : Call}
    (present : core.calls.get? .startup = some call)
    (waits : call.phase = .writing .created ∨ call.phase = .writing .queued) :
    ClientCore.Written config { core with
      calls := core.calls.set .startup { call with phase := .writing .draining }
      frames := core.frames ++ [call.message] } := by
  have unwritten : call.phase.wrote = some false := by
    rcases waits with created | queued
    · rw [created]
      rfl
    · rw [queued]
      rfl
  unfold Written
  rcases handshake_progress written owned present with
    ⟨stage, -, message, progress⟩ | ⟨stage, -, message, progress⟩
  · have frames := (progress.resolve_right fun wrote => wrote.2 unwritten).1
    rw [stage]
    refine ⟨_, by rw [Dict.get?_set, if_pos rfl], .inr ⟨?_, fun same => by cases same⟩⟩
    rw [frames, message]
    rfl
  · have frames := (progress.resolve_right fun wrote => wrote.2 unwritten).1
    rw [stage]
    refine ⟨_, by rw [Dict.get?_set, if_pos rfl], .inr ⟨?_, fun same => by cases same⟩⟩
    rw [frames, ← message]
    rfl

/-- A call that returns has written its frame. -/
theorem wrote_of_ends {call : Call} {ended : RequestEnd} {value : Json}
    (ends : core.CallEnd call ended (.ok value)) : call.phase.wrote = some true := by
  cases ends with
  | written done _ =>
    rw [done]
    rfl
  | result _ awaits _ =>
    rw [awaits]
    rfl

/-- The call of the startup task ends. -/
theorem written_of_finished (written : core.Written config) (owned : core.Owned config)
    {call : Call} {ended : RequestEnd} {result : Except ClientError Json}
    (present : core.calls.get? .startup = some call) (ends : core.CallEnd call ended result) :
    ClientCore.Written config { core with
      calls := core.calls.pop .startup
      pending := core.pendingAfter call.requestId
      startup := core.startupAfter .startup call.requestId result
      outcomes := core.outcomesAfter .startup call.requestId ended result } := by
  have begun := handshake_progress written owned present
  cases result with
  | error error =>
    -- the startup task fails, and has written a beginning of the handshake
    change core.frames <+: handshake config
    rcases begun with ⟨-, -, -, progress⟩ | ⟨-, -, -, progress⟩
    · rcases progress with ⟨frames, -⟩ | ⟨frames, -⟩ <;> exact frames ▸ List.take_prefix _ _
    · rcases progress with ⟨frames, -⟩ | ⟨frames, -⟩ <;> exact frames ▸ List.take_prefix _ _
  | ok value =>
    have wrote := wrote_of_ends ends
    unfold Written
    rcases begun with ⟨-, taken, -, progress⟩ | ⟨-, untaken, -, progress⟩
    · rw [taken]
      exact (progress.resolve_left fun unwritten => unwritten.2 wrote).1
    · rw [untaken]
      exact (progress.resolve_left fun unwritten => unwritten.2 wrote).1

/-- A move writes the next frame of the handshake, or one after both. -/
theorem written (move : ClientMove config core after) (staged : core.Staged)
    (owned : core.Owned config) (written : core.Written config) : after.Written config := by
  cases move with
  | start early fresh =>
    unfold Written at written
    rw [fresh] at written
    exact written
  | fail => exact written_of_kept written rfl rfl rfl
  | failAgain => exact written_of_kept written rfl rfl rfl
  | close => exact written_of_kept written rfl rfl rfl
  | cleanUp => exact written_of_kept written rfl rfl rfl
  | markClosed => exact written_of_kept written rfl rfl rfl
  | spawn stage =>
    unfold Written at written
    rw [stage] at written
    exact written
  | sendInitialize stage may =>
    unfold Written at written
    rw [stage] at written
    refine ⟨_, by rw [Dict.get?_set, if_pos rfl], .inl ⟨written, fun same => ?_⟩⟩
    cases same
  | announce stage notClosing =>
    unfold Written at written
    rw [stage] at written
    refine ⟨_, by rw [Dict.get?_set, if_pos rfl], .inl ⟨written, fun same => ?_⟩⟩
    cases same
  | run stage notClosing =>
    unfold Written at written
    rw [stage] at written
    exact written ▸ List.prefix_rfl
  | abort phase error stage free past =>
    unfold Written at written
    rw [stage] at written
    cases phase with
    | spawning => exact written ▸ List.nil_prefix
    | initialized => exact written ▸ List.take_prefix _ _
    | announced => exact written ▸ List.prefix_rfl
    | failing => exact written
    | _ => exact free.elim
  | refuse => exact written_of_kept written rfl rfl rfl
  | refuseStartup error stage raised =>
    unfold Written at written
    rw [stage] at written
    exact written ▸ List.nil_prefix
  | take => exact written_of_kept written rfl get?_startup_set rfl
  | waste => exact written_of_kept written rfl rfl rfl
  | respond => exact written_of_kept written rfl get?_startup_set rfl
  | @call caller call next present moved =>
    cases caller with
    | user task => exact written_of_kept written rfl get?_startup_set rfl
    | startup =>
      refine written.frame rfl (fun found located => ⟨next, ?_, ?_⟩) rfl
      · rw [Dict.get?_set, if_pos rfl]
      · obtain rfl := Option.some.inj (present.symm.trans located)
        exact moved.wrote
  | @write caller call present waits may =>
    cases caller with
    | user task =>
      have ended : core.startup = some (.ended none) :=
        staged.ended_of_running (may.resolve_right fun ⟨_, impossible⟩ => by cases impossible)
      unfold Written at written ⊢
      rw [ended] at written ⊢
      exact written.trans (List.prefix_append _ _)
    | startup => exact written_of_frame written owned present waits
  | cancelDrains =>
    refine written.frame rfl (fun found located =>
      ⟨_, Dict.get?_mapValues.trans (congrArg _ located), .inr ?_⟩) rfl
    dsimp only
    by_cases draining : found.phase = .writing .draining
    · rw [if_pos draining, draining]
      rfl
    · rw [if_neg draining]
  | cancelFuture => exact written_of_kept written rfl rfl rfl
  | settle => exact written_of_kept written rfl rfl rfl
  | @finish caller call ended result present ends =>
    cases caller with
    | user task =>
      refine written_of_kept written rfl ?_ rfl
      rw [Dict.get?_pop, if_neg (fun same => by cases same)]
    | startup => exact written_of_finished written owned present ends
  | endWait => exact written_of_kept written rfl rfl rfl

/-- A request that is listed as unfinished waits for its reply. -/
theorem mem_unfinishedRequests {pending : Dict Int PendingFuture} {requestId : Int}
    (member : requestId ∈ unfinishedRequests pending) :
    pending.get? requestId = some .unfinished := by
  obtain ⟨⟨_, future⟩, kept, rfl⟩ := List.mem_map.mp member
  obtain ⟨inside, unfinished⟩ := List.mem_filter.mp kept
  rw [Dict.get?_eq_some]
  cases future with
  | unfinished => exact inside
  | _ => cases unfinished

/-- A move ends a request only as it takes it out of `_pending`. -/
theorem left (move : ClientMove config core after) (registered : core.Registered)
    (left : core.Left) : after.Left := by
  have frame : ∀ {changed : ClientCore}, changed.outcomes = core.outcomes →
      changed.issued = core.issued →
      (∀ requestId ∈ changed.pending.keys, requestId ∈ core.pending.keys) → changed.Left := by
    intro changed outcomes issued pending outcome member requestId taken
    obtain ⟨known, gone⟩ := left outcome (outcomes ▸ member) requestId taken
    exact ⟨issued ▸ known, fun inside => gone (pending requestId inside)⟩
  -- a request takes an id that no outcome has
  have takes : ∀ {changed : ClientCore}, changed.outcomes = core.outcomes →
      changed.issued = core.issued ++ [core.nextRequestId] →
      changed.pending = core.pending.set core.nextRequestId .unfinished → changed.Left := by
    intro changed outcomes issued pending outcome member requestId taken
    obtain ⟨known, gone⟩ := left outcome (outcomes ▸ member) requestId taken
    rw [issued, pending, Dict.mem_keys_set]
    refine ⟨List.mem_append_left _ known, fun inside => ?_⟩
    rcases inside with rfl | inside
    · exact absurd (registered.below _ known) (Int.lt_irrefl _)
    · exact gone inside
  have refuses : ∀ {changed : ClientCore} {caller : ClientCaller} {error : ClientError},
      changed.outcomes = core.outcomes ++ [⟨caller, none, .refused, .error error⟩] →
      changed.issued = core.issued → changed.pending = core.pending → changed.Left := by
    intro changed caller error outcomes issued pending outcome member requestId taken
    rw [issued, pending]
    rw [outcomes] at member
    rcases List.mem_append.mp member with old | new
    · exact left outcome old requestId taken
    · rw [List.mem_singleton.mp new] at taken
      cases taken
  cases move with
  | start => exact frame rfl rfl fun _ => id
  | fail => exact frame rfl rfl fun _ member => keys_failFutures ▸ member
  | failAgain => exact frame rfl rfl fun _ => id
  | close => exact frame rfl rfl fun _ member => keys_failFutures ▸ member
  | cleanUp => exact frame rfl rfl fun _ => id
  | markClosed => exact frame rfl rfl fun _ => id
  | spawn => exact frame rfl rfl fun _ => id
  | sendInitialize => exact takes rfl rfl rfl
  | announce => exact frame rfl rfl fun _ => id
  | run => exact frame rfl rfl fun _ => id
  | abort => exact frame rfl rfl fun _ => id
  | refuse => exact refuses rfl rfl rfl
  | refuseStartup => exact refuses rfl rfl rfl
  | take => exact takes rfl rfl rfl
  | waste task error running =>
    intro outcome member requestId taken
    rcases List.mem_append.mp member with old | new
    · obtain ⟨known, gone⟩ := left outcome old requestId taken
      exact ⟨List.mem_append_left _ known, gone⟩
    · rw [List.mem_singleton.mp new] at taken
      obtain rfl := Option.some.inj taken
      refine ⟨List.mem_append_right _ (List.mem_singleton_self _), fun inside => ?_⟩
      exact absurd (registered.below _ (registered.issued _ inside)) (Int.lt_irrefl _)
  | respond => exact frame rfl rfl fun _ => id
  | call => exact frame rfl rfl fun _ => id
  | write => exact frame rfl rfl fun _ => id
  | cancelDrains => exact frame rfl rfl fun _ => id
  | cancelFuture requestId waits => exact frame rfl rfl fun _ => (keys_set_of_some waits).mp
  | settle requestId response waits => exact frame rfl rfl fun _ => (keys_set_of_some waits).mp
  | @finish caller call ended result present ends =>
    intro outcome member requestId taken
    unfold outcomesAfter at member
    unfold pendingAfter
    cases took : call.requestId with
    | none =>
      rw [took] at member
      exact left outcome member requestId taken
    | some ownId =>
      rw [took] at member
      rw [Dict.mem_keys_pop]
      rcases List.mem_append.mp member with old | new
      · obtain ⟨known, gone⟩ := left outcome old requestId taken
        exact ⟨known, fun inside => gone inside.1⟩
      · rw [List.mem_singleton.mp new] at taken
        obtain rfl := Option.some.inj taken
        have inside := (registered.ids ownId).mpr ⟨caller, (takenBy_of_some present).trans took⟩
        exact ⟨registered.issued ownId inside, fun stays => stays.2 rfl⟩
  | endWait => exact frame rfl rfl fun _ => id

/-- What failed stays failed, and no new request with an id ends. -/
theorem toldAll_of_kept (told : core.ToldAll) (failed : after.failedRequests = core.failedRequests)
    (terminal : after.terminalError = core.terminalError)
    (pending : ∀ requestId future, after.pending.get? requestId = some future →
      core.pending.get? requestId = some future ∨ core.pending.get? requestId = some .unfinished)
    (outcomes : ∀ outcome ∈ after.outcomes, outcome ∈ core.outcomes ∨ outcome.requestId = none) :
    after.ToldAll := by
  intro requestId member
  obtain ⟨error, recorded, told⟩ := told requestId (failed ▸ member)
  refine ⟨error, terminal.trans recorded, fun future located => ?_, fun outcome among taken => ?_⟩
  · rcases pending requestId future located with before | before
    · exact told.future future before
    · cases told.future _ before
  · rcases outcomes outcome among with old | untaken
    · exact told.outcomes outcome old taken
    · rw [untaken] at taken
      cases taken

/-- An open client has no terminal error. -/
theorem toldAll_of_open (told : core.ToldAll) (opened : core.IsOpen)
    (failed : after.failedRequests = core.failedRequests) : after.ToldAll := by
  intro requestId member
  obtain ⟨error, recorded, -⟩ := told requestId (failed ▸ member)
  rw [opened.terminalError] at recorded
  cases recorded

/-- A request that is refused has no id. -/
theorem outcomes_of_refused {outcomes : List RequestOutcome} {caller : ClientCaller}
    {error : ClientError} : ∀ outcome ∈ outcomes ++ [⟨caller, none, .refused, .error error⟩],
      outcome ∈ outcomes ∨ outcome.requestId = none := by
  intro outcome member
  rcases List.mem_append.mp member with old | new
  · exact .inl old
  · exact .inr (by rw [List.mem_singleton.mp new])

/-- A request that waits, and is told the terminal error, raises it or its own failure. -/
theorem told_of_ends {call : Call} {ended : RequestEnd} {result : Except ClientError Json}
    {requestId : Int} {error : ClientError} (taken : call.requestId = some requestId)
    (told : core.Told requestId error) (ends : core.CallEnd call ended result) :
    result = .error error ∨ ended = .interrupted ∨ ended = .writing := by
  have future : core.futureOf call = core.pending.get? requestId := by
    unfold futureOf
    rw [taken]
    rfl
  cases ends with
  | interrupted => exact .inr (.inl rfl)
  | failed => exact .inr (.inr rfl)
  | written _ untaken =>
    rw [taken] at untaken
    cases untaken
  | result value _ located => cases told.future _ (future ▸ located)
  | exception raised _ located =>
    cases told.future _ (future ▸ located)
    exact .inl rfl
  | cancelled _ located => cases told.future _ (future ▸ located)

/-- A call ends, and its future is gone. -/
theorem toldAll_of_finished (told : core.ToldAll) {caller : ClientCaller} {call : Call}
    {ended : RequestEnd} {result : Except ClientError Json}
    (ends : core.CallEnd call ended result) : ClientCore.ToldAll { core with
      calls := core.calls.pop caller
      pending := core.pendingAfter call.requestId
      startup := core.startupAfter caller call.requestId result
      outcomes := core.outcomesAfter caller call.requestId ended result } := by
  intro requestId member
  obtain ⟨error, recorded, told⟩ := told requestId member
  refine ⟨error, recorded, fun future located => ?_, fun outcome among taken => ?_⟩
  · unfold pendingAfter at located
    cases took : call.requestId with
    | none =>
      rw [took] at located
      exact told.future future located
    | some ownId =>
      rw [took] at located
      dsimp only at located
      rw [Dict.get?_pop] at located
      split at located
      · cases located
      · exact told.future future located
  · unfold outcomesAfter at among
    cases took : call.requestId with
    | none =>
      rw [took] at among
      exact told.outcomes outcome among taken
    | some ownId =>
      rw [took] at among
      rcases List.mem_append.mp among with old | new
      · exact told.outcomes outcome old taken
      · obtain rfl := List.mem_singleton.mp new
        obtain rfl := Option.some.inj taken
        exact told_of_ends took told ends

/-- A move tells the terminal error to every request that was unfinished. -/
theorem toldAll (move : ClientMove config core after) (staged : core.Staged) (left : core.Left)
    (told : core.ToldAll) : after.ToldAll := by
  cases move with
  | start => exact toldAll_of_kept told rfl rfl (fun _ _ => .inl) fun _ => .inl
  | fail error implicit notClosed first =>
    intro requestId member
    have waits := mem_unfinishedRequests member
    refine ⟨error, rfl, fun future located => ?_, fun outcome among taken => ?_⟩
    · rcases get?_failFutures located with ⟨done, before | ⟨-, same⟩⟩
      · obtain rfl := Option.some.inj (waits.symm.trans before)
        cases done
      · exact same
    · exact ((left outcome among requestId taken).2
        (Dict.mem_keys_iff_get?.mpr ⟨_, waits⟩)).elim
  | failAgain => exact toldAll_of_kept told rfl rfl (fun _ _ => .inl) fun _ => .inl
  | close =>
    exact toldAll_of_kept told rfl rfl (fun _ _ located => (get?_failFutures located).2.imp_right
      And.left)
      fun _ => .inl
  | cleanUp => exact toldAll_of_kept told rfl rfl (fun _ _ => .inl) fun _ => .inl
  | markClosed => exact toldAll_of_kept told rfl rfl (fun _ _ => .inl) fun _ => .inl
  | spawn => exact toldAll_of_kept told rfl rfl (fun _ _ => .inl) fun _ => .inl
  | sendInitialize stage may => exact toldAll_of_open told (staged.open_of_mayWrite may) rfl
  | announce => exact toldAll_of_kept told rfl rfl (fun _ _ => .inl) fun _ => .inl
  | run => exact toldAll_of_kept told rfl rfl (fun _ _ => .inl) fun _ => .inl
  | abort => exact toldAll_of_kept told rfl rfl (fun _ _ => .inl) fun _ => .inl
  | refuse => exact toldAll_of_kept told rfl rfl (fun _ _ => .inl) outcomes_of_refused
  | refuseStartup => exact toldAll_of_kept told rfl rfl (fun _ _ => .inl) outcomes_of_refused
  | take task message timed running fresh =>
      exact toldAll_of_open told (staged.open_of_running running) rfl
  | waste task error running => exact toldAll_of_open told (staged.open_of_running running) rfl
  | respond => exact toldAll_of_kept told rfl rfl (fun _ _ => .inl) fun _ => .inl
  | call => exact toldAll_of_kept told rfl rfl (fun _ _ => .inl) fun _ => .inl
  | write => exact toldAll_of_kept told rfl rfl (fun _ _ => .inl) fun _ => .inl
  | cancelDrains => exact toldAll_of_kept told rfl rfl (fun _ _ => .inl) fun _ => .inl
  | cancelFuture requestId waits =>
    refine toldAll_of_kept told rfl rfl (fun taken future located => ?_) fun _ => .inl
    rw [Dict.get?_set] at located
    split at located
    next same => exact .inr (same ▸ waits)
    next => exact .inl located
  | settle requestId response waits =>
    refine toldAll_of_kept told rfl rfl (fun taken future located => ?_) fun _ => .inl
    rw [Dict.get?_set] at located
    split at located
    next same => exact .inr (same ▸ waits)
    next => exact .inl located
  | finish caller present ends => exact toldAll_of_finished told ends
  | endWait => exact toldAll_of_kept told rfl rfl (fun _ _ => .inl) fun _ => .inl

/-- A move lets nobody return from `wait_closed` before the client is closed. -/
theorem waited (move : ClientMove config core after) (staged : core.Staged)
    (waited : core.Waited) : after.Waited := by
  have notYet : core.lifecycle ≠ .closed → ∀ {changed : ClientCore},
      changed.closedEvent = core.closedEvent → changed.closedWaits = core.closedWaits →
      changed.Waited := by
    intro notClosed changed closedEvent closedWaits
    refine ⟨fun closed => (notClosed (waited.1 (closedEvent ▸ closed))).elim,
      fun raised member => ?_⟩
    exact (notClosed (waited.1 (waited.2 raised (closedWaits ▸ member)).1)).elim
  cases move with
  | start early fresh =>
    refine notYet (fun closed => ?_) rfl rfl
    rcases early with stage | stage
    · exact absurd (stage.symm.trans closed) (by decide)
    · exact absurd (stage.symm.trans closed) (by decide)
  | fail error implicit notClosed => exact notYet notClosed rfl rfl
  | failAgain implicit notClosed => exact notYet notClosed rfl rfl
  | close error notClosed => exact notYet notClosed rfl rfl
  | markClosed => exact ⟨fun _ => rfl, fun raised member => ⟨rfl, (waited.2 raised member).2⟩⟩
  | run stage notClosing =>
    refine notYet (fun closed => ?_) rfl rfl
    rcases staged.of_startup (by rw [stage]; rfl) with ⟨starting, -⟩ | ⟨-, closing, -⟩
    · exact absurd (starting.symm.trans closed) (by decide)
    · exact absurd (closing.symm.trans closed) (by decide)
  | endWait closed =>
    refine ⟨waited.1, fun raised member => ?_⟩
    rcases List.mem_append.mp member with old | new
    · exact waited.2 raised old
    · exact ⟨closed, List.mem_singleton.mp new⟩
  | _ => exact waited

/-- A client that closes writes no frame, and keeps its terminal error. -/
theorem over_frames (move : ClientMove config core after) (past : core.lifecycle.IsOver) :
    after.frames = core.frames := by
  cases move with
  | write caller present waits may =>
    rcases may with running | ⟨starting, -⟩
    · rw [running] at past
      exact past.elim
    · rw [starting] at past
      exact past.elim
  | _ => rfl

/-- A terminal error stays. -/
theorem terminalError_stays (move : ClientMove config core after) {error : ClientError}
    (recorded : core.terminalError = some error) : after.terminalError = some error := by
  cases move with
  | fail other implicit notClosed first =>
    rw [recorded] at first
    cases first
  | _ => exact recorded

end ClientMove

/-- What holds of the frames and the errors in every run. -/
structure ClientCore.Orderly (config : ClientConfig) (core : ClientCore) : Prop where
  correlated : core.Correlated config
  written : core.Written config
  left : core.Left
  toldAll : core.ToldAll
  waited : core.Waited

namespace ClientCore.Orderly

variable {config : ClientConfig} {core after : ClientCore}

/-- A move keeps the client orderly. -/
theorem move (orderly : core.Orderly config) (moved : ClientMove config core after) :
    after.Orderly config where
  correlated := orderly.correlated.move moved
  written := moved.written orderly.correlated.staged orderly.correlated.owned orderly.written
  left := moved.left orderly.correlated.registered orderly.left
  toldAll := moved.toldAll orderly.correlated.staged orderly.left orderly.toldAll
  waited := moved.waited orderly.correlated.staged orderly.waited

/-- Moves one after the other keep the client orderly. -/
theorem moves (orderly : core.Orderly config) (moved : ClientMoves config core after) :
    after.Orderly config := by
  induction moved with
  | refl => exact orderly
  | tail _ moved ih => exact ih.move moved

/-- A client that has done nothing is orderly. -/
theorem init : AppServerClient.init.core.Orderly config where
  correlated := .init
  written := rfl
  left := fun _ member => by cases member
  toldAll := fun _ member => by cases member
  waited := ⟨fun closed => (by cases closed), fun _ member => (by cases member)⟩

end ClientCore.Orderly

/-- What stays from a state to every later one. -/
structure ClientCore.Stays (core later : ClientCore) : Prop where
  forward : core.lifecycle.rank ≤ later.lifecycle.rank
  past : core.lifecycle.IsOver → later.lifecycle.IsOver ∧ later.frames = core.frames
  terminal : ∀ error, core.terminalError = some error → later.terminalError = some error

/-- A client stays where it is. -/
theorem ClientCore.Stays.refl (core : ClientCore) : core.Stays core :=
  ⟨Nat.le_refl _, fun past => ⟨past, rfl⟩, fun _ => id⟩

/-- What stays over two steps stays over both. -/
theorem ClientCore.Stays.trans {first second third : ClientCore} (early : first.Stays second)
    (late : second.Stays third) : first.Stays third where
  forward := Nat.le_trans early.forward late.forward
  past past :=
    have between := early.past past
    have ended := late.past between.1
    ⟨ended.1, ended.2.trans between.2⟩
  terminal error recorded := late.terminal error (early.terminal error recorded)

/-- What an orderly client has reached stays over its moves. -/
theorem ClientCore.Orderly.stays {config : ClientConfig} {core after : ClientCore}
    (orderly : core.Orderly config) (moved : ClientMoves config core after) : core.Stays after := by
  induction moved with
  | refl => exact .refl core
  | tail before moved ih =>
    have staged := (orderly.moves before).correlated.staged
    refine ih.trans ⟨moved.forward staged, fun past => ⟨(moved.past staged past).1, ?_⟩, ?_⟩
    · exact moved.over_frames past
    · exact fun error recorded => moved.terminalError_stays recorded

/-- Every reachable client is orderly. -/
theorem orderly_of_reachable {config : ClientConfig} {client : AppServerClient}
    (reachable : (appServerSystem config).Reachable client) : client.core.Orderly config := by
  refine reachable.invariant (fun client => client.core.Orderly config) ?_
    fun before event after orderly _ stepped => orderly.moves (AppServerClient.step_moves stepped)
  rintro _ rfl
  exact .init

/-- What a reachable client has reached stays in every later state. -/
theorem stays_of_reaches {config : ClientConfig} {client later : AppServerClient}
    (reachable : (appServerSystem config).Reachable client)
    (reached : (appServerSystem config).Reaches client later) :
    client.core.Stays later.core := by
  have both : client.core.Stays later.core ∧ later.core.Orderly config := by
    refine reached.invariant (fun later => client.core.Stays later.core ∧ later.core.Orderly config)
      ⟨.refl _, orderly_of_reachable reachable⟩ fun before event after stays _ stepped => ?_
    have moved := AppServerClient.step_moves stepped
    exact ⟨stays.1.trans (stays.2.stays moved), stays.2.moves moved⟩
  exact both.1

/-- The lifecycle of a client moves forward only; its frames begin with the handshake; a client
that closes writes no frame; the terminal error that was recorded first stays, it is what
`wait_closed` raises, and what a request raises that was unfinished when it was recorded, unless
the request was interrupted or its own write failed. -/
theorem client_orderly {config : ClientConfig} {client : AppServerClient}
    (reachable : (appServerSystem config).Reachable client) :
    Continues client.frames (handshake config) ∧
    (∀ raised ∈ client.closedWaits, raised = client.terminalError) ∧
    (∀ requestId ∈ client.failedRequests, ∃ error, client.terminalError = some error ∧
      ∀ outcome ∈ client.outcomes, outcome.requestId = some requestId →
        outcome.result = .error error ∨ outcome.ended = .interrupted ∨
          outcome.ended = .writing) ∧
    ∀ later, (appServerSystem config).Reaches client later →
      client.lifecycle.rank ≤ later.lifecycle.rank ∧
      (client.lifecycle.IsOver → later.frames = client.frames) ∧
      ∀ error, client.terminalError = some error → later.terminalError = some error := by
  have orderly := orderly_of_reachable reachable
  refine ⟨orderly.written.continues, fun raised member => (orderly.waited.2 raised member).2,
    fun requestId member => ?_, fun later reached => ?_⟩
  · obtain ⟨error, recorded, told⟩ := orderly.toldAll requestId member
    exact ⟨error, recorded, told.outcomes⟩
  · have stays := stays_of_reaches reachable reached
    exact ⟨stays.forward, fun past => (stays.past past).2, stays.terminal⟩

section Scenarios

/-- The output is malformed while the drain of a request fails; the request raises the failure of
its own write. -/
theorem broken_write_raised : ∃ client, (appServerSystem testConfig).Reachable client ∧
    2 ∈ client.failedRequests ∧
    client.terminalError = some (.protocol "app-server emitted malformed JSON") ∧
    ∃ outcome ∈ client.outcomes, outcome.requestId = some 2 ∧
      outcome.result = .error (.processExited none none) :=
  client_of_scenario (fun _ _ => true)
    (clientRuns ++ [.request 0 "first" [] true none, .runOperation (.user 0), .line .malformed,
      .endDrain (.user 0) .disconnected, .resume (.user 0)])
    (fun _ _ _ => trivial) (by decide)

/-- A request that waits for its response raises the terminal error. -/
theorem malformed_output_raised : ∃ client, (appServerSystem testConfig).Reachable client ∧
    ∃ outcome ∈ client.outcomes, outcome.requestId = some 2 ∧
      ∃ error, client.terminalError = some error ∧ (outcome.result = .error error ∨
        outcome.ended = .interrupted ∨ outcome.ended = .writing) := by
  have reached : ∃ client, (appServerSystem testConfig).Reachable client ∧
      2 ∈ client.failedRequests ∧ ∃ outcome ∈ client.outcomes, outcome.requestId = some 2 :=
    client_of_scenario (fun _ _ => true)
      (clientRuns ++ [.request 0 "first" [] true none, .runOperation (.user 0),
        .endDrain (.user 0) .drained, .resume (.user 0), .line .malformed, .resume (.user 0)])
      (fun _ _ _ => trivial) (by decide)
  obtain ⟨client, reachable, failed, outcome, member, taken⟩ := reached
  obtain ⟨error, recorded, told⟩ := (client_orderly reachable).2.2.1 2 failed
  exact ⟨client, reachable, outcome, member, taken, error, recorded, told outcome member taken⟩

end Scenarios

end LarkBot
