import LarkBot.Codex.AppServer.Lifecycle

/-! # Requests and their responses

Every request takes a new id, and `_pending` has the ids of the requests that are not over
(`LarkBot.ClientCore.Registered`). What a request returns, and every `ServerRpcError`, comes
from a response (`LarkBot.ClientCore.Answered`), and a client that closes has no unfinished
future (`LarkBot.ClientCore.Failed`).
-/

namespace LarkBot

open Foundation Relation

namespace ClientCore

variable {config : ClientConfig} {core after : ClientCore}

/-- The id that the call of a caller took. -/
def takenBy (core : ClientCore) (caller : ClientCaller) : Option Int :=
  (core.calls.get? caller).bind Call.requestId

/-- `_pending` has the ids of the calls, and every id was taken once. -/
structure Registered (core : ClientCore) : Prop where
  ids : ∀ requestId, requestId ∈ core.pending.keys ↔ ∃ caller, core.takenBy caller = some requestId
  distinct : ∀ first second requestId, core.takenBy first = some requestId →
    core.takenBy second = some requestId → first = second
  below : ∀ requestId ∈ core.issued, requestId < core.nextRequestId
  nodup : core.issued.Nodup
  issued : ∀ requestId ∈ core.pending.keys, requestId ∈ core.issued

namespace Registered

/-- A change that keeps the ids. -/
theorem frame (registered : core.Registered)
    (pending : ∀ requestId, requestId ∈ after.pending.keys ↔ requestId ∈ core.pending.keys)
    (taken : ∀ caller, after.takenBy caller = core.takenBy caller)
    (nextRequestId : after.nextRequestId = core.nextRequestId)
    (issued : after.issued = core.issued) : after.Registered := by
  refine ⟨fun requestId => ?_, fun first second requestId firstTook secondTook => ?_,
    fun requestId member => ?_, ?_, fun requestId member => ?_⟩
  · rw [pending, registered.ids]
    exact exists_congr fun caller => by rw [taken]
  · rw [taken] at firstTook secondTook
    exact registered.distinct first second requestId firstTook secondTook
  · rw [issued] at member
    rw [nextRequestId]
    exact registered.below requestId member
  · rw [issued]
    exact registered.nodup
  · rw [issued]
    exact registered.issued requestId ((pending requestId).mp member)

/-- The next id was not taken before. -/
theorem next_issued (registered : core.Registered) :
    (∀ requestId ∈ core.issued ++ [core.nextRequestId], requestId < core.nextRequestId + 1) ∧
      (core.issued ++ [core.nextRequestId]).Nodup := by
  refine ⟨fun requestId member => ?_, ?_⟩
  · rcases List.mem_append.mp member with before | new
    · exact Int.lt_trans (registered.below requestId before) (Int.lt_succ _)
    · rw [List.mem_singleton.mp new]
      exact Int.lt_succ _
  · refine List.nodup_append.mpr ⟨registered.nodup, List.nodup_singleton _, ?_⟩
    intro before beforeMem new newMem same
    obtain rfl := List.mem_singleton.mp newMem
    exact absurd (registered.below before beforeMem) (same ▸ Int.lt_irrefl _)

/-- Taking an id, whatever becomes of it. -/
theorem waste (registered : core.Registered)
    (pending : ∀ requestId, requestId ∈ after.pending.keys ↔ requestId ∈ core.pending.keys)
    (taken : ∀ caller, after.takenBy caller = core.takenBy caller)
    (nextRequestId : after.nextRequestId = core.nextRequestId + 1)
    (issued : after.issued = core.issued ++ [core.nextRequestId]) : after.Registered := by
  refine ⟨fun requestId => ?_, fun first second requestId firstTook secondTook => ?_,
    fun requestId member => ?_, ?_, fun requestId member => ?_⟩
  · rw [pending, registered.ids]
    exact exists_congr fun caller => by rw [taken]
  · rw [taken] at firstTook secondTook
    exact registered.distinct first second requestId firstTook secondTook
  · rw [issued] at member
    rw [nextRequestId]
    exact registered.next_issued.1 requestId member
  · rw [issued]
    exact registered.next_issued.2
  · rw [issued]
    exact List.mem_append_left _ (registered.issued requestId ((pending requestId).mp member))

/-- A request takes an id. -/
theorem take (registered : core.Registered) {caller : ClientCaller}
    (absent : core.calls.get? caller = none)
    (pending : after.pending = core.pending.set core.nextRequestId .unfinished)
    (took : after.takenBy caller = some core.nextRequestId)
    (others : ∀ other, other ≠ caller → after.takenBy other = core.takenBy other)
    (nextRequestId : after.nextRequestId = core.nextRequestId + 1)
    (issued : after.issued = core.issued ++ [core.nextRequestId]) : after.Registered := by
  have none : core.takenBy caller = none := by
    unfold takenBy
    rw [absent]
    rfl
  have old : ∀ other requestId, core.takenBy other = some requestId →
      requestId ≠ core.nextRequestId := by
    intro other requestId taken same
    have known := registered.issued requestId ((registered.ids requestId).mpr ⟨other, taken⟩)
    exact absurd (registered.below requestId known) (same ▸ Int.lt_irrefl _)
  have taken : ∀ other requestId, after.takenBy other = some requestId →
      other = caller ∧ requestId = core.nextRequestId ∨
        other ≠ caller ∧ core.takenBy other = some requestId := by
    intro other requestId located
    by_cases same : other = caller
    · rw [same, took] at located
      exact .inl ⟨same, (Option.some.inj located).symm⟩
    · rw [others other same] at located
      exact .inr ⟨same, located⟩
  refine ⟨fun requestId => ?_, fun first second requestId firstTook secondTook => ?_,
    fun requestId member => ?_, ?_, fun requestId member => ?_⟩
  · rw [pending, Dict.mem_keys_set, registered.ids]
    constructor
    · rintro (rfl | ⟨other, located⟩)
      · exact ⟨caller, took⟩
      · refine ⟨other, (others other fun same => ?_).trans located⟩
        rw [same, none] at located
        cases located
    · rintro ⟨other, located⟩
      rcases taken other requestId located with ⟨-, same⟩ | ⟨-, before⟩
      · exact .inl same
      · exact .inr ⟨other, before⟩
  · rcases taken first requestId firstTook with ⟨firstSame, here⟩ | ⟨firstOther, firstBefore⟩
    · rcases taken second requestId secondTook with ⟨secondSame, -⟩ | ⟨-, secondBefore⟩
      · exact firstSame.trans secondSame.symm
      · exact (old second requestId secondBefore here).elim
    · rcases taken second requestId secondTook with ⟨-, here⟩ | ⟨-, secondBefore⟩
      · exact (old first requestId firstBefore here).elim
      · exact registered.distinct first second requestId firstBefore secondBefore
  · rw [issued] at member
    rw [nextRequestId]
    exact registered.next_issued.1 requestId member
  · rw [issued]
    exact registered.next_issued.2
  · rw [issued]
    rw [pending, Dict.mem_keys_set] at member
    rcases member with rfl | before
    · exact List.mem_append_right _ (List.mem_singleton_self _)
    · exact List.mem_append_left _ (registered.issued requestId before)

/-- A call ends. -/
theorem finish (registered : core.Registered) (caller : ClientCaller)
    (pending : after.pending = core.pendingAfter (core.takenBy caller))
    (ended : after.takenBy caller = none)
    (others : ∀ other, other ≠ caller → after.takenBy other = core.takenBy other)
    (nextRequestId : after.nextRequestId = core.nextRequestId)
    (issued : after.issued = core.issued) : after.Registered := by
  have keys : ∀ requestId, requestId ∈ after.pending.keys ↔
      requestId ∈ core.pending.keys ∧ core.takenBy caller ≠ some requestId := by
    intro requestId
    rw [pending]
    unfold pendingAfter
    cases core.takenBy caller with
    | none => exact (and_iff_left (Option.some_ne_none _).symm).symm
    | some taken =>
      rw [Dict.mem_keys_pop]
      refine and_congr_right fun _ => not_congr ?_
      rw [Option.some.injEq]
      exact eq_comm
  have taken : ∀ other requestId, after.takenBy other = some requestId →
      other ≠ caller ∧ core.takenBy other = some requestId := by
    intro other requestId located
    by_cases same : other = caller
    · rw [same, ended] at located
      cases located
    · exact ⟨same, (others other same) ▸ located⟩
  refine ⟨fun requestId => ?_, fun first second requestId firstTook secondTook => ?_,
    fun requestId member => ?_, ?_, fun requestId member => ?_⟩
  · rw [keys, registered.ids]
    constructor
    · rintro ⟨⟨other, located⟩, notHere⟩
      refine ⟨other, (others other fun same => ?_).trans located⟩
      exact notHere (same ▸ located)
    · rintro ⟨other, located⟩
      obtain ⟨elsewhere, before⟩ := taken other requestId located
      exact ⟨⟨other, before⟩, fun here =>
        elsewhere (registered.distinct other caller requestId before here)⟩
  · exact registered.distinct first second requestId (taken first requestId firstTook).2
      (taken second requestId secondTook).2
  · rw [issued] at member
    rw [nextRequestId]
    exact registered.below requestId member
  · rw [issued]
    exact registered.nodup
  · rw [issued]
    exact registered.issued requestId ((keys requestId).mp member).1

end Registered

/-- What a caller took depends on its call only. -/
theorem takenBy_of_some {caller : ClientCaller} {call : Call}
    (present : core.calls.get? caller = some call) : core.takenBy caller = call.requestId := by
  unfold takenBy
  rw [present]
  rfl

/-- A caller without a call has taken no id. -/
theorem takenBy_of_none {caller : ClientCaller} (absent : core.calls.get? caller = none) :
    core.takenBy caller = none := by
  unfold takenBy
  rw [absent]
  rfl

/-- Writing a call changes what its caller took only. -/
theorem takenBy_set {caller other : ClientCaller} {call : Call}
    (calls : after.calls = core.calls.set caller call) :
    after.takenBy other = if other = caller then call.requestId else core.takenBy other := by
  unfold takenBy
  rw [calls, Dict.get?_set]
  split
  · rfl
  · rfl

/-- A call that is over has no id any more, and the others keep theirs. -/
theorem takenBy_pop {caller other : ClientCaller} (calls : after.calls = core.calls.pop caller) :
    after.takenBy other = if other = caller then none else core.takenBy other := by
  unfold takenBy
  rw [calls, Dict.get?_pop]
  split
  · rfl
  · rfl

/-- A rewritten call keeps its id. -/
theorem takenBy_rewrite {caller : ClientCaller} {call next : Call}
    (present : core.calls.get? caller = some call) (same : next.requestId = call.requestId)
    (calls : after.calls = core.calls.set caller next) (other : ClientCaller) :
    after.takenBy other = core.takenBy other := by
  rw [takenBy_set calls]
  by_cases here : other = caller
  · rw [if_pos here, here, takenBy_of_some present, same]
  · rw [if_neg here]

/-- A new call without an id. -/
theorem takenBy_respond {caller : ClientCaller} {call : Call}
    (absent : core.calls.get? caller = none) (untaken : call.requestId = none)
    (calls : after.calls = core.calls.set caller call) (other : ClientCaller) :
    after.takenBy other = core.takenBy other := by
  rw [takenBy_set calls]
  by_cases here : other = caller
  · rw [if_pos here, here, takenBy_of_none absent, untaken]
  · rw [if_neg here]

/-- Failing the futures leaves the requests that they belong to. -/
theorem keys_failFutures {pending : Dict Int PendingFuture} {error : ClientError} :
    (failFutures pending error).keys = pending.keys :=
  Dict.keys_mapValues

/-- What failing the unfinished futures makes of them. -/
theorem get?_failFutures {pending : Dict Int PendingFuture} {error : ClientError} {requestId : Int}
    {future : PendingFuture} (located : (failFutures pending error).get? requestId = some future) :
    future.isDone ∧ (pending.get? requestId = some future ∨
      pending.get? requestId = some .unfinished ∧ future = .exception error) := by
  unfold failFutures at located
  rw [Dict.get?_mapValues] at located
  obtain ⟨old, present, rfl⟩ := Option.map_eq_some_iff.mp located
  by_cases done : old.isDone
  · rw [if_pos done]
    exact ⟨done, .inl present⟩
  · rw [if_neg done]
    cases old with
    | unfinished => exact ⟨rfl, .inr ⟨present, rfl⟩⟩
    | _ => exact (done rfl).elim

/-- Settling a future keeps the ids. -/
theorem keys_set_of_some {pending : Dict Int PendingFuture} {requestId other : Int}
    {old future : PendingFuture} (present : pending.get? requestId = some old) :
    other ∈ (pending.set requestId future).keys ↔ other ∈ pending.keys := by
  rw [Dict.mem_keys_set]
  apply or_iff_right_of_imp
  intro same
  rw [same]
  exact Dict.mem_keys_iff_get?.mpr ⟨old, present⟩

/-- A result of `request` comes from the response that carries its id, and so does a
`ServerRpcError`, unless the request was refused after the response to `initialize` was one. -/
structure Explained (core : ClientCore) (outcome : RequestOutcome) : Prop where
  result : ∀ value, outcome.result = .ok value → ∃ requestId,
    outcome.requestId = some requestId ∧ (requestId, .ok value) ∈ core.settled
  error : ∀ error, outcome.result = .error (.rpc error) →
    (∃ requestId, outcome.requestId = some requestId ∧ (requestId, .error error) ∈ core.settled) ∨
      outcome.requestId = none ∧ outcome.ended = .refused ∧
        (1, .error error) ∈ core.settled ∧ core.terminalError = some (.rpc error)

/-- Results and `ServerRpcError`s come from responses. -/
structure Answered (core : ClientCore) : Prop where
  results : ∀ requestId value, core.pending.get? requestId = some (.result value) →
    (requestId, .ok value) ∈ core.settled
  errors : ∀ requestId error, core.pending.get? requestId = some (.exception (.rpc error)) →
    (requestId, .error error) ∈ core.settled
  failing : ∀ error, core.startup = some (.failing (.rpc error)) → (1, .error error) ∈ core.settled
  terminal : ∀ error, core.terminalError = some (.rpc error) →
    (1, .error error) ∈ core.settled ∧ ∀ caller, core.calls.get? caller = none
  operations : ∀ caller call error, core.calls.get? caller = some call →
    call.phase ≠ .writing (.done (some (.rpc error)))
  outcomes : ∀ outcome ∈ core.outcomes, core.Explained outcome

/-- Once the client closes, every future is done. -/
def Failed (core : ClientCore) : Prop :=
  core.lifecycle.IsOver → ∀ requestId future, core.pending.get? requestId = some future →
    future.isDone

/-- An outcome that was explained stays so as more is settled. -/
theorem Explained.later {outcome : RequestOutcome} (explained : core.Explained outcome)
    (settled : ∀ entry ∈ core.settled, entry ∈ after.settled)
    (terminal : ∀ error, core.terminalError = some (.rpc error) →
      after.terminalError = some (.rpc error)) : after.Explained outcome := by
  refine ⟨fun value returned => ?_, fun error raised => ?_⟩
  · obtain ⟨requestId, took, known⟩ := explained.result value returned
    exact ⟨requestId, took, settled _ known⟩
  · rcases explained.error error raised with
      ⟨requestId, took, known⟩ | ⟨untaken, refused, known, same⟩
    · exact .inl ⟨requestId, took, settled _ known⟩
    · exact .inr ⟨untaken, refused, settled _ known, terminal error same⟩

/-- A request that ends with neither a result nor a `ServerRpcError`. -/
theorem Explained.of_error {outcome : RequestOutcome} {error : ClientError}
    (raised : outcome.result = .error error) (notRpc : ¬ error.IsRpc) : core.Explained outcome := by
  refine ⟨fun value returned => ?_, fun response same => ?_⟩
  · rw [raised] at returned
    cases returned
  · rw [raised] at same
    cases same
    exact (notRpc trivial).elim

namespace Answered

/-- A `ServerRpcError` that is raised because the client closes is the terminal error. -/
theorem terminal_of_raises (staged : core.Staged) {error : RpcError}
    (raised : core.Raises (.rpc error)) : core.terminalError = some (.rpc error) := by
  rcases raised with notRpc | closing | terminal
  · exact (notRpc trivial).elim
  · rcases staged.open_or_closing with ⟨opened, -⟩ | ⟨⟨other, same, recorded⟩, -⟩
    · rw [opened.closingError] at closing
      cases closing
    · obtain rfl := Option.some.inj (same.symm.trans closing)
      exact recorded.resolve_right fun explicit => explicit.2.2 trivial
  · exact terminal

/-- Once the response to `initialize` was an error, no call is left. -/
theorem no_pending (answered : core.Answered) (registered : core.Registered) {error : RpcError}
    (terminal : core.terminalError = some (.rpc error)) (requestId : Int) :
    core.pending.get? requestId = none := by
  refine Dict.get?_eq_none.mpr fun member => ?_
  obtain ⟨caller, taken⟩ := (registered.ids requestId).mp member
  rw [takenBy_of_none ((answered.terminal error terminal).2 caller)] at taken
  cases taken

/-- A change of the futures that settles none with a response. -/
theorem frame (answered : core.Answered)
    (pending : ∀ requestId future, after.pending.get? requestId = some future →
      core.pending.get? requestId = some future ∨
        ∀ value error, future ≠ .result value ∧ future ≠ .exception (.rpc error))
    (startup : ∀ error, after.startup = some (.failing (.rpc error)) →
      (1, .error error) ∈ core.settled)
    (terminal : ∀ error, after.terminalError = some (.rpc error) ↔
      core.terminalError = some (.rpc error))
    (calls : ∀ error, core.terminalError = some (.rpc error) → ∀ caller,
      core.calls.get? caller = none → after.calls.get? caller = none)
    (operations : ∀ caller call, after.calls.get? caller = some call → ∀ error,
      call.phase ≠ .writing (.done (some (.rpc error))))
    (settled : after.settled = core.settled)
    (outcomes : ∀ outcome ∈ after.outcomes, outcome ∈ core.outcomes ∨ after.Explained outcome) :
    after.Answered := by
  refine ⟨fun requestId value known => ?_, fun requestId error known => ?_, fun error stage => ?_,
    fun error recorded => ?_, fun caller call error present => operations caller call present error,
    fun outcome member => ?_⟩
  · rw [settled]
    rcases pending requestId _ known with before | other
    · exact answered.results requestId value before
    · exact ((other value ⟨0, "", .null⟩).1 rfl).elim
  · rw [settled]
    rcases pending requestId _ known with before | other
    · exact answered.errors requestId error before
    · exact ((other .null error).2 rfl).elim
  · rw [settled]
    exact startup error stage
  · rw [settled]
    have before := answered.terminal error ((terminal error).mp recorded)
    exact ⟨before.1, fun caller => calls error ((terminal error).mp recorded) caller
      (before.2 caller)⟩
  · rcases outcomes outcome member with old | explained
    · refine (answered.outcomes outcome old).later (fun entry known => settled ▸ known) ?_
      exact fun error => (terminal error).mpr
    · exact explained

end Answered

end ClientCore

namespace ClientMove

open ClientCore

variable {config : ClientConfig} {core after : ClientCore}

/-- A move registers a request under an id that no other has. -/
theorem registered (move : ClientMove config core after) (owned : core.Owned config)
    (registered : core.Registered) : after.Registered := by
  have frame : ∀ {changed : ClientCore},
      (∀ requestId, requestId ∈ changed.pending.keys ↔ requestId ∈ core.pending.keys) →
      changed.calls = core.calls → changed.nextRequestId = core.nextRequestId →
      changed.issued = core.issued → changed.Registered := by
    intro changed pending calls
    apply registered.frame pending
    intro caller
    unfold takenBy
    rw [calls]
  cases move with
  | start => exact frame (fun _ => Iff.rfl) rfl rfl rfl
  | fail => exact frame (fun _ => iff_of_eq (congrArg _ keys_failFutures)) rfl rfl rfl
  | failAgain => exact frame (fun _ => Iff.rfl) rfl rfl rfl
  | close => exact frame (fun _ => iff_of_eq (congrArg _ keys_failFutures)) rfl rfl rfl
  | cleanUp => exact frame (fun _ => Iff.rfl) rfl rfl rfl
  | markClosed => exact frame (fun _ => Iff.rfl) rfl rfl rfl
  | spawn => exact frame (fun _ => Iff.rfl) rfl rfl rfl
  | sendInitialize stage may =>
    refine registered.take (owned.no_call ?_ ?_) rfl ?_ ?_ rfl rfl
    · exact fun same => by rw [stage] at same; cases same
    · exact fun same => by rw [stage] at same; cases same
    · rw [takenBy_set rfl, if_pos rfl]
      rfl
    · intro other elsewhere
      rw [takenBy_set rfl, if_neg elsewhere]
  | announce stage notClosing =>
    refine registered.frame (fun _ => Iff.rfl) ?_ rfl rfl
    refine takenBy_respond (owned.no_call ?_ ?_) rfl rfl
    · exact fun same => by rw [stage] at same; cases same
    · exact fun same => by rw [stage] at same; cases same
  | run => exact frame (fun _ => Iff.rfl) rfl rfl rfl
  | abort => exact frame (fun _ => Iff.rfl) rfl rfl rfl
  | refuse => exact frame (fun _ => Iff.rfl) rfl rfl rfl
  | refuseStartup => exact frame (fun _ => Iff.rfl) rfl rfl rfl
  | take task message timed running fresh =>
    refine registered.take fresh rfl ?_ ?_ rfl rfl
    · rw [takenBy_set rfl, if_pos rfl]
      rfl
    · intro other elsewhere
      rw [takenBy_set rfl, if_neg elsewhere]
  | waste => exact registered.waste (fun _ => Iff.rfl) (fun _ => rfl) rfl rfl
  | respond task message running fresh =>
    exact registered.frame (fun _ => Iff.rfl) (takenBy_respond fresh rfl rfl) rfl rfl
  | call caller present moved =>
    exact registered.frame (fun _ => Iff.rfl) (takenBy_rewrite present moved.keeps.1 rfl) rfl rfl
  | write caller present =>
    refine registered.frame (fun _ => Iff.rfl) (takenBy_rewrite present ?_ rfl) rfl rfl
    rfl
  | cancelDrains =>
    refine registered.frame (fun _ => Iff.rfl) (fun caller => ?_) rfl rfl
    unfold takenBy
    rw [Dict.get?_mapValues]
    cases core.calls.get? caller with
    | none => rfl
    | some call =>
      dsimp only [Option.map_some, Option.bind_some]
      split
      · rfl
      · rfl
  | cancelFuture requestId waits =>
    exact frame (fun _ => keys_set_of_some waits) rfl rfl rfl
  | settle requestId response waits =>
    exact frame (fun _ => keys_set_of_some waits) rfl rfl rfl
  | finish caller present ends =>
    refine registered.finish caller ?_ ?_ ?_ rfl rfl
    · rw [takenBy_of_some present]
    · rw [takenBy_pop rfl, if_pos rfl]
    · intro other elsewhere
      rw [takenBy_pop rfl, if_neg elsewhere]
  | endWait => exact frame (fun _ => Iff.rfl) rfl rfl rfl

/-- Failing the unfinished futures with an error that no response carried settles none. -/
theorem settles_failFutures {error : ClientError} (notRpc : ¬ error.IsRpc) {requestId : Int}
    {future : PendingFuture}
    (located : (failFutures core.pending error).get? requestId = some future) :
    core.pending.get? requestId = some future ∨
      ∀ value response, future ≠ .result value ∧ future ≠ .exception (.rpc response) := by
  rcases (get?_failFutures located).2 with before | ⟨-, rfl⟩
  · exact .inl before
  · refine .inr fun value response => ⟨fun same => (by cases same), fun same => ?_⟩
    cases same
    exact notRpc trivial

/-- A message that is newly written carries no error. -/
theorem newCall_phase {requestId : Option Int} {message : JsonObject} {timed : Bool}
    (error : RpcError) :
    (newCall requestId message timed).phase ≠ .writing (.done (some (.rpc error))) :=
  fun same => by cases same

/-- A call goes on without a `ServerRpcError`. -/
theorem callMove_phase (staged : core.Staged) (answered : core.Answered) {caller : ClientCaller}
    {call next : Call} (present : core.calls.get? caller = some call)
    (moved : core.CallMove call next) (error : RpcError) :
    next.phase ≠ .writing (.done (some (.rpc error))) := by
  cases moved with
  | queue => exact fun same => by cases same
  | fail failure _ _ raised =>
    intro same
    cases same
    have empty := (answered.terminal error (Answered.terminal_of_raises staged raised)).2 caller
    rw [present] at empty
    cases empty
  | drain => exact fun same => by cases same
  | await => exact fun same => by cases same
  | interrupt => exact answered.operations caller call error present

/-- What a call of `request` returns or raises is explained. -/
theorem explained_of_callEnd (answered : core.Answered) {caller : ClientCaller} {call : Call}
    {ended : RequestEnd} {result : Except ClientError Json} {requestId : Int}
    (present : core.calls.get? caller = some call) (taken : call.requestId = some requestId)
    (ends : core.CallEnd call ended result) :
    core.Explained ⟨caller, some requestId, ended, result⟩ := by
  have future : core.futureOf call = core.pending.get? requestId := by
    unfold futureOf
    rw [taken]
    rfl
  cases ends with
  | interrupted interruption _ =>
    refine .of_error rfl ?_
    cases interruption with
    | timedOut => exact id
    | cancelled => exact id
  | failed error failed =>
    refine ⟨fun value same => (by cases same), fun response same => ?_⟩
    cases same
    exact (answered.operations caller call response present failed).elim
  | written _ untaken =>
    rw [taken] at untaken
    cases untaken
  | result value _ located =>
    refine ⟨fun other same => ?_, fun error same => (by cases same)⟩
    cases same
    exact ⟨requestId, rfl, answered.results requestId value (future ▸ located)⟩
  | exception error _ located =>
    refine ⟨fun value same => (by cases same), fun response same => ?_⟩
    cases same
    exact .inl ⟨requestId, rfl, answered.errors requestId response (future ▸ located)⟩
  | cancelled => exact .of_error rfl id

/-- A request that is refused raises the terminal error, or what no response carried. -/
theorem explained_of_raises (staged : core.Staged) (answered : core.Answered)
    {caller : ClientCaller}
    {error : ClientError} {refused : ClientCore} (raised : core.Raises error)
    (settled : refused.settled = core.settled)
    (terminal : refused.terminalError = core.terminalError) :
    refused.Explained ⟨caller, none, .refused, .error error⟩ := by
  refine ⟨fun value same => (by cases same), fun response same => ?_⟩
  cases same
  have recorded := Answered.terminal_of_raises staged raised
  exact .inr ⟨rfl, rfl, settled ▸ (answered.terminal response recorded).1, terminal.trans recorded⟩

/-- A `ServerRpcError` that ends a call of the startup task is the response to `initialize`. -/
theorem handshake_answered (owned : core.Owned config) (answered : core.Answered) {call : Call}
    {ended : RequestEnd} {result : Except ClientError Json} {error : RpcError}
    (present : core.calls.get? .startup = some call) (ends : core.CallEnd call ended result)
    (raised : result = .error (.rpc error)) : (1, .error error) ∈ core.settled := by
  rcases owned.handshake call present with ⟨-, taken, -⟩ | ⟨-, untaken, -⟩
  · rcases (explained_of_callEnd answered present taken ends).error error raised with
      ⟨requestId, same, known⟩ | ⟨impossible, -⟩
    · cases same
      exact known
    · cases impossible
  · have noFuture : core.futureOf call = none := by
      unfold futureOf
      rw [untaken]
      rfl
    cases ends with
    | interrupted interruption _ =>
      cases interruption with
      | timedOut => cases raised
      | cancelled => cases raised
    | failed failure failed =>
      cases raised
      exact (answered.operations .startup call error present failed).elim
    | written => cases raised
    | result => cases raised
    | exception failure _ located =>
      rw [noFuture] at located
      cases located
    | cancelled => cases raised

/-- The futures and the calls stay. -/
theorem answered_of_kept (answered : core.Answered) (pending : after.pending = core.pending)
    (startup : ∀ error, after.startup = some (.failing (.rpc error)) →
      (1, .error error) ∈ core.settled)
    (terminal : after.terminalError = core.terminalError) (calls : after.calls = core.calls)
    (settled : after.settled = core.settled)
    (outcomes : ∀ outcome ∈ after.outcomes, outcome ∈ core.outcomes ∨ after.Explained outcome) :
    after.Answered := by
  refine answered.frame (fun _ _ known => .inl (pending ▸ known)) startup
    (fun _ => by rw [terminal]) (fun _ _ _ absent => calls ▸ absent) ?_ settled outcomes
  rw [calls]
  exact fun caller call present error => answered.operations caller call error present

/-- One call goes on. -/
theorem answered_of_rewritten (answered : core.Answered) {caller : ClientCaller} {call next : Call}
    (present : core.calls.get? caller = some call)
    (phase : ∀ error, next.phase ≠ .writing (.done (some (.rpc error))))
    (calls : after.calls = core.calls.set caller next) (pending : after.pending = core.pending)
    (startup : after.startup = core.startup) (terminal : after.terminalError = core.terminalError)
    (settled : after.settled = core.settled) (outcomes : after.outcomes = core.outcomes) :
    after.Answered := by
  refine answered.frame (fun _ _ known => .inl (pending ▸ known))
    (fun error stage => answered.failing error (startup ▸ stage))
    (fun _ => by rw [terminal]) (fun _ _ other absent => ?_) (fun other found located => ?_)
    settled fun _ member => .inl (outcomes ▸ member)
  · rw [calls, Dict.get?_set, if_neg (fun same => ?_)]
    · exact absent
    · rw [same, present] at absent
      cases absent
  · rw [calls, Dict.get?_set] at located
    by_cases same : other = caller
    · rw [if_pos same] at located
      exact Option.some.inj located ▸ phase
    · rw [if_neg same] at located
      exact fun error => answered.operations other found error located

/-- A future that waits for its response. -/
theorem get?_set_unfinished {pending : Dict Int PendingFuture} {requestId taken : Int}
    {future : PendingFuture}
    (located : (pending.set requestId .unfinished).get? taken = some future) :
    pending.get? taken = some future ∨ future = .unfinished := by
  rw [Dict.get?_set] at located
  split at located
  · exact .inr (Option.some.inj located).symm
  · exact .inl located

/-- An open client has a new call. -/
theorem answered_of_added (answered : core.Answered) (opened : core.IsOpen)
    {caller : ClientCaller} {requestId : Option Int} {message : JsonObject} {timed : Bool}
    (calls : after.calls = core.calls.set caller (newCall requestId message timed))
    (pending : ∀ taken future, after.pending.get? taken = some future →
      core.pending.get? taken = some future ∨ future = .unfinished)
    (startup : ∀ error, after.startup = some (.failing (.rpc error)) →
      (1, .error error) ∈ core.settled)
    (terminal : after.terminalError = core.terminalError) (settled : after.settled = core.settled)
    (outcomes : after.outcomes = core.outcomes) : after.Answered := by
  refine answered.frame (fun taken future known => ?_) startup (fun _ => by rw [terminal])
    (fun error recorded => ?_) (fun other found located => ?_) settled
    fun _ member => .inl (outcomes ▸ member)
  · rcases pending taken future known with before | rfl
    · exact .inl before
    · exact .inr fun value error => ⟨fun same => (by cases same), fun same => (by cases same)⟩
  · rw [opened.terminalError] at recorded
    cases recorded
  · rw [calls, Dict.get?_set] at located
    by_cases same : other = caller
    · rw [if_pos same] at located
      exact Option.some.inj located ▸ newCall_phase
    · rw [if_neg same] at located
      exact fun error => answered.operations other found error located

/-- One more request ends. -/
theorem outcomes_of_concat {outcomes : List RequestOutcome} {outcome : RequestOutcome}
    (explained : after.Explained outcome) : ∀ ended ∈ outcomes ++ [outcome],
      ended ∈ outcomes ∨ after.Explained ended := by
  intro ended member
  rcases List.mem_append.mp member with old | new
  · exact .inl old
  · obtain rfl := List.mem_singleton.mp new
    exact .inr explained

/-- The response to `initialize` was an error, and the startup task records it. -/
theorem answered_of_refused (owned : core.Owned config) (registered : core.Registered)
    (answered : core.Answered) {response : RpcError}
    (stage : core.startup = some (.failing (.rpc response))) (first : core.terminalError = none)
    (pending : after.pending = failFutures core.pending (.rpc response))
    (startup : after.startup = core.startup) (terminal : after.terminalError = some (.rpc response))
    (calls : after.calls = core.calls) (settled : after.settled = core.settled)
    (outcomes : after.outcomes = core.outcomes) : after.Answered := by
  have idle : ∀ caller, core.calls.get? caller = none := by
    refine owned.idle ?_ ?_ ?_
    all_goals exact fun same => by rw [stage] at same; cases same
  have noFuture : ∀ requestId future, after.pending.get? requestId ≠ some future := by
    intro requestId future located
    have member : requestId ∈ (failFutures core.pending (.rpc response)).keys :=
      Dict.mem_keys_iff_get?.mpr ⟨future, pending ▸ located⟩
    rw [keys_failFutures, registered.ids] at member
    obtain ⟨caller, taken⟩ := member
    rw [takenBy_of_none (idle caller)] at taken
    cases taken
  refine ⟨fun requestId value known => (noFuture requestId _ known).elim,
    fun requestId error known => (noFuture requestId _ known).elim, fun error failing => ?_,
    fun error recorded => ?_, fun caller call error present => ?_, fun outcome member => ?_⟩
  · rw [settled]
    exact answered.failing error (startup ▸ failing)
  · rw [terminal] at recorded
    cases recorded
    rw [settled, calls]
    exact ⟨answered.failing response stage, idle⟩
  · rw [calls, idle caller] at present
    cases present
  · refine (answered.outcomes outcome (outcomes ▸ member)).later (fun _ known => settled ▸ known)
      fun error same => ?_
    rw [first] at same
    cases same

/-- A response settles its request. -/
theorem answered_of_settled (answered : core.Answered) {requestId : Int} {future : PendingFuture}
    {response : Except RpcError Json}
    (results : ∀ value, future = .result value → response = .ok value)
    (errors : ∀ error, future = .exception (.rpc error) → response = .error error)
    (pending : after.pending = core.pending.set requestId future)
    (startup : after.startup = core.startup) (terminal : after.terminalError = core.terminalError)
    (calls : after.calls = core.calls)
    (settled : after.settled = core.settled ++ [(requestId, response)])
    (outcomes : after.outcomes = core.outcomes) : after.Answered := by
  have later : ∀ entry ∈ core.settled, entry ∈ after.settled :=
    fun entry known => settled ▸ List.mem_append_left _ known
  have newest : (requestId, response) ∈ after.settled :=
    settled ▸ List.mem_append_right _ (List.mem_singleton_self _)
  refine ⟨fun taken value known => ?_, fun taken error known => ?_, fun error stage => ?_,
    fun error recorded => ?_, fun caller call error present => ?_, fun outcome member => ?_⟩
  · rw [pending, Dict.get?_set] at known
    by_cases same : taken = requestId
    · rw [if_pos same] at known
      rw [same, ← results value (Option.some.inj known)]
      exact newest
    · rw [if_neg same] at known
      exact later _ (answered.results taken value known)
  · rw [pending, Dict.get?_set] at known
    by_cases same : taken = requestId
    · rw [if_pos same] at known
      rw [same, ← errors error (Option.some.inj known)]
      exact newest
    · rw [if_neg same] at known
      exact later _ (answered.errors taken error known)
  · exact later _ (answered.failing error (startup ▸ stage))
  · obtain ⟨known, idle⟩ := answered.terminal error (terminal ▸ recorded)
    exact ⟨later _ known, fun caller => calls ▸ idle caller⟩
  · exact answered.operations caller call error (calls ▸ present)
  · apply (answered.outcomes outcome (outcomes ▸ member)).later later
    intro error same
    exact terminal.trans same

/-- A call ends, and its future is gone. -/
theorem answered_of_finished (owned : core.Owned config) (answered : core.Answered)
    {caller : ClientCaller} {call : Call} {ended : RequestEnd} {result : Except ClientError Json}
    (present : core.calls.get? caller = some call) (ends : core.CallEnd call ended result) :
    ClientCore.Answered { core with
      calls := core.calls.pop caller
      pending := core.pendingAfter call.requestId
      startup := core.startupAfter caller call.requestId result
      outcomes := core.outcomesAfter caller call.requestId ended result } := by
  refine answered.frame (fun requestId future located => .inl ?_) (fun error stage => ?_)
    (fun _ => Iff.rfl) (fun _ _ other absent => ?_) (fun other found located => ?_) rfl
    fun outcome member => ?_
  · unfold pendingAfter at located
    cases taken : call.requestId with
    | none =>
      rw [taken] at located
      exact located
    | some ownId =>
      rw [taken] at located
      dsimp only at located
      rw [Dict.get?_pop] at located
      split at located
      · cases located
      · exact located
  · cases caller with
    | user task => exact answered.failing error stage
    | startup =>
      rcases startupAfter_cases core call.requestId result with other | other | ⟨raised, other, rfl⟩
      · cases other.symm.trans stage
      · cases other.symm.trans stage
      · cases other.symm.trans stage
        exact handshake_answered owned answered present ends rfl
  · rw [Dict.get?_pop]
    split
    · rfl
    · exact absent
  · rw [Dict.get?_pop] at located
    split at located
    · cases located
    · exact fun error => answered.operations other found error located
  · unfold outcomesAfter at member
    cases taken : call.requestId with
    | none =>
      rw [taken] at member
      exact .inl member
    | some ownId =>
      rw [taken] at member
      refine outcomes_of_concat ?_ outcome member
      exact (explained_of_callEnd answered present taken ends).later (fun _ => id) fun _ => id

/-- A move ends a request only with what its own id was answered, or with an error that
explains it. -/
theorem answered (move : ClientMove config core after) (staged : core.Staged)
    (owned : core.Owned config) (registered : core.Registered) (answered : core.Answered) :
    after.Answered := by
  have operations : ∀ caller call, core.calls.get? caller = some call → ∀ error,
      call.phase ≠ .writing (.done (some (.rpc error))) :=
    fun caller call present error => answered.operations caller call error present
  cases move with
  | start =>
      exact answered_of_kept answered rfl (fun _ same => by cases same) rfl rfl rfl fun _ => .inl
  | fail error implicit notClosed first answers =>
    by_cases isRpc : error.IsRpc
    · cases error with
      | rpc response =>
        exact answered_of_refused owned registered answered (answers isRpc) first rfl rfl rfl rfl
          rfl rfl
      | _ => exact isRpc.elim
    · refine answered.frame (fun requestId future located => settles_failFutures isRpc located)
        answered.failing (fun response => ?_) (fun _ _ _ => id) operations rfl fun _ => .inl
      rw [first]
      refine ⟨fun same => ?_, fun same => (by cases same)⟩
      cases same
      exact (isRpc trivial).elim
  | failAgain => exact answered_of_kept answered rfl answered.failing rfl rfl rfl fun _ => .inl
  | close error notClosed known =>
    refine answered.frame (fun requestId future located => ?_) answered.failing (fun _ => Iff.rfl)
      (fun _ _ _ => id) operations rfl fun _ => .inl
    by_cases isRpc : error.IsRpc
    · cases error with
      | rpc response =>
        have closing := known.resolve_right fun unknown => unknown.2 isRpc
        have terminal := Answered.terminal_of_raises staged (.inr (.inl closing))
        have absent := answered.no_pending registered terminal requestId
        rcases (get?_failFutures located).2 with before | ⟨before, -⟩
        · rw [absent] at before
          cases before
        · rw [absent] at before
          cases before
      | _ => exact isRpc.elim
    · exact settles_failFutures isRpc located
  | cleanUp => exact answered_of_kept answered rfl answered.failing rfl rfl rfl fun _ => .inl
  | markClosed => exact answered_of_kept answered rfl answered.failing rfl rfl rfl fun _ => .inl
  | spawn =>
      exact answered_of_kept answered rfl (fun _ same => by cases same) rfl rfl rfl fun _ => .inl
  | sendInitialize stage may =>
    exact answered_of_added answered (staged.open_of_mayWrite may) rfl
      (fun _ _ => get?_set_unfinished) (fun _ same => by cases same) rfl rfl rfl
  | announce stage notClosing =>
    refine answered_of_added answered ?_ rfl (fun _ _ => .inl) (fun _ same => by cases same) rfl
      rfl rfl
    rcases staged.of_startup (by rw [stage]; rfl) with ⟨-, opened⟩ | ⟨-, closing, -⟩
    · exact opened
    · exact (notClosing closing).elim
  | run =>
      exact answered_of_kept answered rfl (fun _ same => by cases same) rfl rfl rfl fun _ => .inl
  | abort =>
      exact answered_of_kept answered rfl (fun _ same => by cases same) rfl rfl rfl fun _ => .inl
  | refuse task error raised =>
    refine answered_of_kept answered rfl answered.failing rfl rfl rfl (outcomes_of_concat ?_)
    exact explained_of_raises staged answered raised rfl rfl
  | refuseStartup error stage raised =>
    refine answered_of_kept answered rfl (fun response same => ?_) rfl rfl rfl
      (outcomes_of_concat ?_)
    · cases same
      exact (answered.terminal response (Answered.terminal_of_raises staged raised)).1
    · exact explained_of_raises staged answered raised rfl rfl
  | take task message timed running fresh =>
    exact answered_of_added answered (staged.open_of_running running) rfl
      (fun _ _ => get?_set_unfinished) answered.failing rfl rfl rfl
  | waste task error running =>
    refine answered_of_kept answered rfl answered.failing rfl rfl rfl (outcomes_of_concat ?_)
    exact .of_error rfl id
  | respond task message running fresh =>
    exact answered_of_added answered (staged.open_of_running running) rfl (fun _ _ => .inl)
      answered.failing rfl rfl rfl
  | call caller present moved =>
    exact answered_of_rewritten answered present (callMove_phase staged answered present moved) rfl
      rfl rfl rfl rfl rfl
  | write caller present waits may =>
    exact answered_of_rewritten answered present (fun _ same => by cases same) rfl rfl rfl rfl rfl
      rfl
  | cancelDrains =>
    refine answered.frame (fun _ _ => .inl) answered.failing (fun _ => Iff.rfl)
      (fun _ _ caller absent => ?_) (fun caller found located => ?_) rfl fun _ => .inl
    · rw [Dict.get?_mapValues, absent]
      rfl
    · rw [Dict.get?_mapValues] at located
      obtain ⟨old, present, rfl⟩ := Option.map_eq_some_iff.mp located
      intro error
      split
      · exact fun same => by cases same
      · exact operations caller old present error
  | cancelFuture requestId waits =>
    refine answered.frame (fun taken future located => ?_) answered.failing (fun _ => Iff.rfl)
      (fun _ _ _ => id) operations rfl fun _ => .inl
    rw [Dict.get?_set] at located
    split at located
    · obtain rfl := Option.some.inj located
      exact .inr fun value error => ⟨fun same => (by cases same), fun same => (by cases same)⟩
    · exact .inl located
  | settle requestId response waits =>
    refine answered_of_settled answered (fun value same => ?_) (fun error same => ?_) rfl rfl rfl
      rfl rfl rfl
    · cases response with
      | ok => exact congrArg Except.ok (PendingFuture.result.inj same)
      | error => cases same
    · cases response with
      | ok => cases same
      | error =>
        cases same
        rfl
  | finish caller present ends => exact answered_of_finished owned answered present ends
  | endWait => exact answered_of_kept answered rfl answered.failing rfl rfl rfl fun _ => .inl

/-- The futures of a client that closes are done, and stay so. -/
theorem failed (move : ClientMove config core after) (staged : core.Staged)
    (failed : core.Failed) : after.Failed := by
  have frame : ∀ {changed : ClientCore}, (changed.lifecycle.IsOver → core.lifecycle.IsOver) →
      changed.pending = core.pending → changed.Failed := by
    intro changed past pending closes requestId future located
    exact failed (past closes) requestId future (pending ▸ located)
  cases move with
  | start => exact frame False.elim rfl
  | fail => exact fun _ requestId future located => (get?_failFutures located).1
  | failAgain implicit notClosed recorded =>
    refine frame (fun _ => ?_) rfl
    rcases staged.open_or_closing with ⟨opened, -⟩ | ⟨-, past⟩
    · exact (recorded opened.terminalError).elim
    · exact past
  | close => exact fun _ requestId future located => (get?_failFutures located).1
  | cleanUp => exact frame id rfl
  | markClosed phase runs unfinished =>
    exact frame (fun _ => (staged.of_cleanup runs unfinished).1 ▸ trivial) rfl
  | spawn => exact frame id rfl
  | sendInitialize stage may =>
    intro past
    rcases staged.open_or_closing with ⟨-, notOver⟩ | ⟨⟨error, same, -⟩, -⟩
    · exact (notOver past).elim
    · rw [(staged.open_of_mayWrite may).closingError] at same
      cases same
  | announce => exact frame id rfl
  | run => exact frame False.elim rfl
  | abort => exact frame id rfl
  | refuse => exact frame id rfl
  | refuseStartup => exact frame id rfl
  | take task message timed running fresh =>
    intro past
    rw [running] at past
    exact past.elim
  | waste => exact frame id rfl
  | respond => exact frame id rfl
  | call => exact frame id rfl
  | write => exact frame id rfl
  | cancelDrains => exact frame id rfl
  | cancelFuture requestId waits =>
    intro past taken future located
    rw [Dict.get?_set] at located
    split at located
    · obtain rfl := Option.some.inj located
      rfl
    · exact failed past taken future located
  | settle requestId response waits =>
    intro past taken future located
    exact absurd (failed past requestId .unfinished waits) (by decide)
  | finish caller present ends =>
    intro past taken future located
    unfold pendingAfter at located
    split at located
    · rw [Dict.get?_pop] at located
      split at located
      · cases located
      · exact failed past taken future located
    · exact failed past taken future located
  | endWait => exact frame id rfl

/-- A client that closes takes no request, and goes on closing. -/
theorem past (move : ClientMove config core after) (staged : core.Staged)
    (past : core.lifecycle.IsOver) : after.lifecycle.IsOver ∧
      ∀ requestId ∈ after.pending.keys, requestId ∈ core.pending.keys := by
  have notOpen : ¬ core.IsOpen := by
    intro opened
    rcases staged.open_or_closing with ⟨-, notOver⟩ | ⟨⟨error, same, -⟩, -⟩
    · exact notOver past
    · rw [opened.closingError] at same
      cases same
  cases move with
  | start early fresh =>
    rcases early with stage | stage
    · rw [stage] at past
      exact past.elim
    · rw [stage] at past
      exact past.elim
  | fail => exact ⟨trivial, fun _ member => keys_failFutures ▸ member⟩
  | failAgain => exact ⟨trivial, fun _ => id⟩
  | close => exact ⟨trivial, fun _ member => keys_failFutures ▸ member⟩
  | cleanUp => exact ⟨past, fun _ => id⟩
  | markClosed => exact ⟨trivial, fun _ => id⟩
  | spawn => exact ⟨past, fun _ => id⟩
  | sendInitialize stage may => exact (notOpen (staged.open_of_mayWrite may)).elim
  | announce => exact ⟨past, fun _ => id⟩
  | run stage notClosing =>
    rcases staged.of_startup (by rw [stage]; rfl) with ⟨-, opened⟩ | ⟨-, closing, -⟩
    · exact (notOpen opened).elim
    · exact (notClosing closing).elim
  | abort => exact ⟨past, fun _ => id⟩
  | refuse => exact ⟨past, fun _ => id⟩
  | refuseStartup => exact ⟨past, fun _ => id⟩
  | take task message timed running fresh =>
    rw [running] at past
    exact past.elim
  | waste => exact ⟨past, fun _ => id⟩
  | respond => exact ⟨past, fun _ => id⟩
  | call => exact ⟨past, fun _ => id⟩
  | write => exact ⟨past, fun _ => id⟩
  | cancelDrains => exact ⟨past, fun _ => id⟩
  | cancelFuture requestId waits => exact ⟨past, fun _ => (keys_set_of_some waits).mp⟩
  | settle requestId response waits => exact ⟨past, fun _ => (keys_set_of_some waits).mp⟩
  | finish caller present ends =>
    refine ⟨past, fun requestId member => ?_⟩
    unfold pendingAfter at member
    split at member
    · exact (Dict.mem_keys_pop.mp member).1
    · exact member
  | endWait => exact ⟨past, fun _ => id⟩

end ClientMove

/-- What holds of the core in every run. -/
structure ClientCore.Correlated (config : ClientConfig) (core : ClientCore) : Prop where
  staged : core.Staged
  owned : core.Owned config
  registered : core.Registered
  answered : core.Answered
  failed : core.Failed

namespace ClientCore.Correlated

variable {config : ClientConfig} {core after : ClientCore}

/-- A move keeps the client correlated. -/
theorem move (correlated : core.Correlated config) (moved : ClientMove config core after) :
    after.Correlated config where
  staged := moved.staged correlated.staged correlated.owned
  owned := moved.owned correlated.staged correlated.owned
  registered := moved.registered correlated.owned correlated.registered
  answered := moved.answered correlated.staged correlated.owned correlated.registered
    correlated.answered
  failed := moved.failed correlated.staged correlated.failed

/-- Moves one after the other keep the client correlated. -/
theorem moves (correlated : core.Correlated config) (moved : ClientMoves config core after) :
    after.Correlated config := by
  induction moved with
  | refl => exact correlated
  | tail _ moved ih => exact ih.move moved

/-- A client that closes takes no request, whatever its tasks do. -/
theorem past (correlated : core.Correlated config) (moved : ClientMoves config core after)
    (past : core.lifecycle.IsOver) : after.lifecycle.IsOver ∧
      ∀ requestId ∈ after.pending.keys, requestId ∈ core.pending.keys := by
  induction moved with
  | refl => exact ⟨past, fun _ => id⟩
  | tail before moved ih =>
    have step := moved.past (correlated.moves before).staged ih.1
    exact ⟨step.1, fun requestId member => ih.2 requestId (step.2 requestId member)⟩

/-- A client that has done nothing is correlated. -/
theorem init : AppServerClient.init.core.Correlated config where
  staged := .new rfl rfl ⟨rfl, rfl, rfl, rfl, rfl⟩
  owned := by
    refine ⟨fun _ _ => rfl, fun call present => ?_, fun _ => rfl⟩
    cases present
  registered := by
    refine ⟨fun requestId => ⟨fun member => ?_, fun ⟨caller, taken⟩ => ?_⟩,
      fun _ _ _ taken => ?_, fun _ member => ?_, List.nodup_nil, fun _ member => ?_⟩
    · cases member
    · cases taken
    · cases taken
    · cases member
    · cases member
  answered := by
    refine ⟨fun _ _ known => ?_, fun _ _ known => ?_, fun _ stage => ?_, fun _ recorded => ?_,
      fun _ _ _ present => ?_, fun _ member => ?_⟩
    · cases known
    · cases known
    · cases stage
    · cases recorded
    · cases present
    · cases member
  failed := False.elim

end ClientCore.Correlated

/-- Every reachable client is correlated. -/
theorem correlated_of_reachable {config : ClientConfig} {client : AppServerClient}
    (reachable : (appServerSystem config).Reachable client) : client.core.Correlated config := by
  refine reachable.invariant (fun client => client.core.Correlated config) ?_
    fun before event after correlated _ stepped =>
      correlated.moves (AppServerClient.step_moves stepped)
  rintro _ rfl
  exact .init

/-- A JSON-RPC response with this id. -/
structure IsResponse (envelope : JsonObject) (requestId : Int) : Prop where
  version : ∀ version, dictGet envelope "jsonrpc" = some version → version = .str "2.0"
  id : dictGet envelope "id" = some (.int requestId)
  noMethod : hasKey envelope "method" = false
  oneOf : hasKey envelope "result" ≠ hasKey envelope "error"

/-- A response to no request, or to one that was settled, changes nothing. -/
theorem AppServerClient.readLine_late (config : ClientConfig) (client : AppServerClient)
    {envelope : JsonObject} {requestId : Int} (response : IsResponse envelope requestId)
    (late : ∀ future, client.pending.get? requestId = some future → future.isDone) :
    client.readLine config (.json (.obj envelope)) = client := by
  have versioned : (dictGet envelope "jsonrpc").any (· ≠ .str "2.0") = false := by
    cases version : dictGet envelope "jsonrpc" with
    | none => rfl
    | some version =>
      rw [response.version _ version]
      rfl
  have identified : hasKey envelope "id" = true := by
    unfold hasKey
    rw [response.id]
    rfl
  have answers : (hasKey envelope "result" || hasKey envelope "error") = true := by
    cases result : hasKey envelope "result" with
    | true => rfl
    | false =>
      cases error : hasKey envelope "error" with
      | true => rfl
      | false => exact absurd (result.trans error.symm) response.oneOf
  have handled : client.handleEnvelope config (.obj envelope) = .ok client := by
    unfold handleEnvelope
    simp only [versioned, identified, response.noMethod, answers, Bool.false_eq_true, ↓reduceIte,
      Bool.not_false, Bool.and_true]
    unfold handleResponse
    rw [response.id]
    simp only [response.oneOf, ↓reduceIte]
    split
    next unfinished => exact absurd (late .unfinished unfinished) (by decide)
    next => rfl
  unfold readLine
  dsimp only
  rw [handled]

/-- The requests of a client and the responses: no id is taken twice; what a request returns, and
a `ServerRpcError` that it raises, comes from the response with its id, unless it was refused
after the response to `initialize` was an error; `_pending` has the ids of the requests that are
not over; a client that closes has no unfinished future and takes no request; a response that
comes late or again changes nothing. -/
theorem requests_correlated {config : ClientConfig} {client : AppServerClient}
    (reachable : (appServerSystem config).Reachable client) :
    client.issued.Nodup ∧
    (∀ outcome ∈ client.outcomes,
      (∀ value, outcome.result = .ok value → ∃ requestId,
        outcome.requestId = some requestId ∧ (requestId, .ok value) ∈ client.settled) ∧
      ∀ error, outcome.result = .error (.rpc error) →
        (∃ requestId, outcome.requestId = some requestId ∧
          (requestId, .error error) ∈ client.settled) ∨
        outcome.requestId = none ∧ outcome.ended = .refused ∧
          (1, .error error) ∈ client.settled ∧ client.terminalError = some (.rpc error)) ∧
    (∀ requestId, requestId ∈ client.pending.keys ↔ ∃ caller call,
      client.calls.get? caller = some call ∧ call.requestId = some requestId) ∧
    (client.lifecycle.IsOver →
      (∀ requestId future, client.pending.get? requestId = some future → future.isDone) ∧
      ∀ event after, client.step config event = some after → after.lifecycle.IsOver ∧
        ∀ requestId ∈ after.pending.keys, requestId ∈ client.pending.keys) ∧
    ∀ envelope requestId, IsResponse envelope requestId →
      (∀ future, client.pending.get? requestId = some future → future.isDone) →
      client.readLine config (.json (.obj envelope)) = client := by
  have correlated := correlated_of_reachable reachable
  refine ⟨correlated.registered.nodup, fun outcome member => ?_, fun requestId => ?_,
    fun past => ⟨correlated.failed past, fun event after stepped => ?_⟩,
    fun envelope requestId response late => client.readLine_late config response late⟩
  · have explained := correlated.answered.outcomes outcome member
    exact ⟨explained.result, explained.error⟩
  · rw [show client.pending = client.core.pending from rfl, correlated.registered.ids]
    exact exists_congr fun caller => Option.bind_eq_some_iff
  · exact correlated.past (AppServerClient.step_moves stepped) past

section Scenarios

def testConfig : ClientConfig := ⟨100, 100, "0.1.0"⟩

/-- Follow events of a new client. -/
theorem client_of_scenario {guard : AppServerClient → ClientEvent → Prop}
    {property : AppServerClient → Prop} [DecidablePred property]
    (allowed : AppServerClient → ClientEvent → Bool) (events : List ClientEvent)
    (implies : ∀ client event, allowed client event → guard client event)
    (checked : (System.follow (AppServerClient.step testConfig) allowed .init events).any
      fun client => property client) :
    ∃ client, (appServerSystem testConfig).ReachableVia guard client ∧ property client := by
  obtain ⟨client, followed, holds⟩ := (Option.any_eq_true _ _).mp checked
  exact ⟨client, ⟨_, rfl, System.reachesVia_of_follow (fun _ _ _ stepped => stepped) implies
    followed⟩, of_decide_eq_true holds⟩

/-- The startup task writes `initialize`, and waits for the response. -/
def initializeSent : List ClientEvent :=
  [.start, .spawned (.ok ⟨none⟩), .runOperation .startup, .endDrain .startup .drained,
    .resume .startup]

/-- A response to the request with this id, with a result. -/
def resultLine (requestId : Int) (result : Json) : StdoutLine :=
  .json (.obj [("jsonrpc", .str "2.0"), ("id", .int requestId), ("result", result)])

/-- A client that runs. -/
def clientRuns : List ClientEvent :=
  initializeSent ++ [.line (resultLine 1 (.obj [])), .resume .startup, .runOperation .startup,
    .endDrain .startup .drained, .resume .startup]

/-- `initialize` is answered with an error, and a later request raises that error. -/
theorem refused_with_handshake_error : ∃ client, (appServerSystem testConfig).Reachable client ∧
    ∃ outcome ∈ client.outcomes, outcome.caller = .user 0 ∧ outcome.requestId = none ∧
      outcome.result = .error (.rpc ⟨-32000, "unsupported", .null⟩) :=
  client_of_scenario (fun _ _ => true)
    (initializeSent ++ [.line (.json (.obj [("id", .int 1),
      ("error", .obj [("code", .int (-32000)), ("message", .str "unsupported")])])),
      .resume .startup, .request 0 "thread/start" [] true none])
    (fun _ _ _ => trivial) (by decide)

/-- A request returns the result of its response. -/
theorem answered_request_correlated : ∃ client, (appServerSystem testConfig).Reachable client ∧
    ∃ outcome ∈ client.outcomes, outcome.result = .ok (.str "first") ∧
      ∃ requestId, outcome.requestId = some requestId ∧
        (requestId, .ok (.str "first")) ∈ client.settled := by
  have reached : ∃ client, (appServerSystem testConfig).Reachable client ∧
      ∃ outcome ∈ client.outcomes, outcome.result = .ok (.str "first") :=
    client_of_scenario (fun _ _ => true)
      (clientRuns ++ [.request 0 "one" [] true none, .runOperation (.user 0),
        .endDrain (.user 0) .drained, .resume (.user 0), .line (resultLine 2 (.str "first")),
        .resume (.user 0)])
      (fun _ _ _ => trivial) (by decide)
  obtain ⟨client, reachable, outcome, member, returned⟩ := reached
  have correlated := (requests_correlated reachable).2.1 outcome member
  exact ⟨client, reachable, outcome, member, returned, correlated.1 _ returned⟩

end Scenarios

end LarkBot
