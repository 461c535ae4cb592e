import LarkBot.Foundation.History
import LarkBot.Foundation.Run
import LarkBot.Notification.Model
import LarkBot.Notification.Store

/-! # Notifications within a cooldown

`send_with_dedupe` asks the store whether a notification is due, sends it and records it under
its key. The store keeps the last time of a key, and the key joins what the notification is about
with signs that its parts may have: a notification is suppressed by the last one with its key.
Calls in a row suppress exactly the repeats if and only if none of them comes within the cooldown of
one that is about something else and shares the pieces of its key, and no repeat comes so late that
the float of the seconds is rounded up to the cooldown (`LarkBot.cooldown_suppresses_repeats`).
Different parts without these signs never share their pieces (`LarkBot.keepsApart_of_plain`), and
seconds are not rounded up to a short cooldown (`LarkBot.not_roundsUp`).
-/

namespace LarkBot

open Foundation Foundation.History

section Service

/-- The settings that `send_with_dedupe` checks and hands to the store; `cooldown_seconds` is not
negative. -/
structure Settings where
  larkAppId : String
  larkAppSecret : String
  larkReceiveId : String
  cooldownSeconds : Nat
  deriving DecidableEq

/-- `validate_lark_settings`. -/
def validateLarkSettings (settings : Settings) : Except PyError Unit :=
  let missing := ([("LARK_BOT_LARK_APP_ID", settings.larkAppId),
    ("LARK_BOT_LARK_APP_SECRET", settings.larkAppSecret),
    ("LARK_BOT_LARK_RECEIVE_ID", settings.larkReceiveId)].filter fun (_, value) => value == "").map
      Prod.fst
  if missing = [] then .ok ()
  else .error ⟨.other "BadParameter", "Missing required Lark settings: " ++ ", ".intercalate
    missing⟩

/-- `send_with_dedupe` up to its decision, with the reading of the clock. -/
def checkDue (settings : Settings) (request : NotificationRequest) (now : Instant)
    (store : SQLiteNotificationStore) : Except PyError Bool := do
  validateLarkSettings settings
  store.shouldSend request.dedupeKey settings.cooldownSeconds now

/-- What a call meets: its two readings of the clock, and how the client fares. -/
structure Attempt where
  checkedAt : Int
  sending : Except PyError Unit
  recordedAt : Int

inductive SendOutcome where
  | suppressed
  | sent
  | raised (error : PyError)
  deriving DecidableEq

/-- `send_with_dedupe`. -/
def sendWithDedupe (request : NotificationRequest) (settings : Settings) (attempt : Attempt)
    (store : SQLiteNotificationStore) : SendOutcome × SQLiteNotificationStore :=
  match checkDue settings request attempt.checkedAt store with
  | .error error => (.raised error, store)
  | .ok false => (.suppressed, store)
  | .ok true =>
      match attempt.sending with
      | .error error => (.raised error, store)
      | .ok () =>
          (.sent, store.recordSent request.dedupeKey request.detection.status.value
            attempt.recordedAt)

end Service

section Calls

/-- The arguments of a call, and what it meets. -/
structure SendCall where
  request : NotificationRequest
  settings : Settings
  attempt : Attempt

namespace SendCall

/-- The settings have all that Lark requires. -/
def Complete (call : SendCall) : Prop := validateLarkSettings call.settings = .ok ()

/-- The earlier notification was sent less than the cooldown before. -/
def Follows (call earlier : SendCall) : Prop :=
  call.attempt.checkedAt - earlier.attempt.recordedAt < call.settings.cooldownSeconds * 1000000

/-- The notification was sent less than the cooldown before, and the float of the seconds since is
rounded up to the cooldown. -/
def RoundsUp (call earlier : SendCall) : Prop :=
  call.Follows earlier ∧
    (totalSeconds (call.attempt.checkedAt - earlier.attempt.recordedAt)).AtLeast
      call.settings.cooldownSeconds

/-- One of the notifications is about the same, and was sent less than the cooldown before. -/
def Repeats (call : SendCall) (sent : List SendCall) : Prop :=
  ∃ earlier ∈ sent, earlier.request.subject = call.request.subject ∧ call.Follows earlier

instance (call : SendCall) : Decidable call.Complete := inferInstanceAs (Decidable (_ = _))

instance (call earlier : SendCall) : Decidable (call.Follows earlier) :=
  inferInstanceAs (Decidable (_ < _))

instance (call earlier : SendCall) : Decidable (call.RoundsUp earlier) :=
  inferInstanceAs (Decidable (_ ∧ _))

instance (call : SendCall) (sent : List SendCall) : Decidable (call.Repeats sent) :=
  inferInstanceAs (Decidable (∃ earlier ∈ sent, _))

/-- The notification is to be sent after these: nothing is missing, the client accepts it, and it
is no repeat. -/
def IsDue (call : SendCall) (sent : List SendCall) : Prop :=
  call.Complete ∧ call.attempt.sending = .ok () ∧ ¬ call.Repeats sent

instance (call : SendCall) (sent : List SendCall) : Decidable (call.IsDue sent) :=
  inferInstanceAs (Decidable (_ ∧ _))

end SendCall

/-- The calls that are to send, if only repeats within the cooldown are held back. -/
def dueCalls (calls : List SendCall) : List SendCall :=
  calls.foldl (fun sent call => if call.IsDue sent then sent ++ [call] else sent) []

/-- The last of the notifications that shares its pieces with this one. -/
def lastSharing (sent : List SendCall) (request : NotificationRequest) : Option SendCall :=
  (sent.filter fun call => decide (call.request.SharesPieces request)).getLast?

/-- Where the last notification to be sent that shares its pieces with this one comes less than the
cooldown before, it is about the same; or, if the seconds since are rounded up to the cooldown, this
one is no repeat. -/
def KeepsApart (before : List SendCall) (call : SendCall) : Prop :=
  call.Complete → ∀ earlier, lastSharing (dueCalls before) call.request = some earlier →
    call.Follows earlier →
      if call.RoundsUp earlier then ¬ call.Repeats (dueCalls before)
      else earlier.request.subject = call.request.subject

/-- A call that came back. -/
structure Sending extends SendCall where
  outcome : SendOutcome

/-- The notification was sent under this key. -/
def Sending.SentUnder (key : String) (sending : Sending) : Prop :=
  sending.outcome = .sent ∧ sending.request.dedupeKey = key

instance (key : String) : DecidablePred (Sending.SentUnder key) :=
  fun _ => inferInstanceAs (Decidable (_ ∧ _))

/-- The calls that sent. -/
def sentCalls (log : List Sending) : List SendCall :=
  (log.filter fun sending => decide (sending.outcome = .sent)).map Sending.toSendCall

/-- The last notification that was sent under the key. -/
def lastUnder (log : List Sending) (key : String) : Option Sending :=
  (log.filter fun sending => decide (sending.SentUnder key)).getLast?

/-- A notification is suppressed exactly if it repeats one about the same, and never by the record
of one about something else. -/
def SuppressesOnlyRepeats (before : List Sending) (sending : Sending) : Prop :=
  sending.Complete →
    (sending.outcome = .suppressed ↔ sending.Repeats (sentCalls before)) ∧
    ∀ earlier, lastUnder before sending.request.dedupeKey = some earlier →
      sending.outcome = .suppressed → earlier.request.subject = sending.request.subject

/-- One more call is sent when it is due after the calls that were sent. -/
theorem dueCalls_concat (calls : List SendCall) (call : SendCall) : dueCalls (calls ++ [call]) =
    if call.IsDue (dueCalls calls) then dueCalls calls ++ [call] else dueCalls calls := by
  unfold dueCalls
  rw [List.foldl_append]
  rfl

/-- Every call that is sent was made. -/
theorem dueCalls_subset (calls : List SendCall) : dueCalls calls ⊆ calls := by
  induction calls using List.reverseRecOn with
  | nil => exact List.Subset.refl _
  | append_singleton calls call ih =>
      have kept : dueCalls calls ⊆ calls ++ [call] := List.subset_append_of_subset_left _ ih
      rw [dueCalls_concat]
      split
      · exact List.append_subset.mpr ⟨kept, List.subset_append_right _ _⟩
      · exact kept

/-- The last call that shares its pieces with a request was sent, and shares them. -/
theorem lastSharing_mem {sent : List SendCall} {request : NotificationRequest} {earlier : SendCall}
    (found : lastSharing sent request = some earlier) :
    earlier ∈ sent ∧ earlier.request.SharesPieces request := by
  have member := List.mem_filter.mp (List.mem_of_getLast? found)
  exact ⟨member.1, of_decide_eq_true member.2⟩

variable {log : List Sending} {key : String} {sending last : Sending}

/-- Nothing was sent under a key before the first call. -/
theorem lastUnder_nil : lastUnder [] key = none := rfl

/-- A sending under the key is the last one. -/
theorem lastUnder_concat_of (sentUnder : sending.SentUnder key) :
    lastUnder (log ++ [sending]) key = some sending := by
  unfold lastUnder
  rw [List.filter_append, List.filter_singleton, decide_eq_true sentUnder]
  exact List.getLast?_concat

/-- A sending under another key leaves the last one under this key. -/
theorem lastUnder_concat_of_not (other : ¬ sending.SentUnder key) :
    lastUnder (log ++ [sending]) key = lastUnder log key := by
  unfold lastUnder
  rw [List.filter_append, List.filter_singleton, decide_eq_false other]
  exact congrArg List.getLast? (List.append_nil _)

/-- The last sending under a key is in the log, under that key. -/
theorem lastUnder_mem (found : lastUnder log key = some last) :
    last ∈ log ∧ last.SentUnder key := by
  unfold lastUnder at found
  have member := List.mem_filter.mp (List.mem_of_getLast? found)
  exact ⟨member.1, of_decide_eq_true member.2⟩

/-- A key that something was sent under has a last sending. -/
theorem lastUnder_isSome (member : sending ∈ log) (sentUnder : sending.SentUnder key) :
    ∃ last, lastUnder log key = some last := by
  apply Option.ne_none_iff_exists'.mp
  intro missing
  have empty := List.getLast?_eq_none_iff.mp missing
  exact List.filter_eq_nil_iff.mp empty sending member (decide_eq_true sentUnder)

/-- One more sending adds its call when it was sent. -/
theorem sentCalls_concat (log : List Sending) (sending : Sending) : sentCalls (log ++ [sending]) =
    if sending.outcome = .sent then sentCalls log ++ [sending.toSendCall] else sentCalls log := by
  unfold sentCalls
  rw [List.filter_append, List.map_append, List.filter_singleton]
  by_cases sent : sending.outcome = .sent
  · rw [if_pos sent, decide_eq_true sent]
    rfl
  · rw [if_neg sent, decide_eq_false sent]
    exact List.append_nil _

/-- Of the calls that sent, the last that shares its pieces is the last with the same key. -/
theorem lastSharing_sentCalls (log : List Sending) (request : NotificationRequest) :
    lastSharing (sentCalls log) request =
      (lastUnder log request.dedupeKey).map Sending.toSendCall := by
  unfold lastSharing sentCalls lastUnder
  rw [List.filter_map, List.getLast?_map, List.filter_filter]
  refine congrArg (fun kept : List Sending => kept.getLast?.map Sending.toSendCall)
    (List.filter_congr fun sending _ => ?_)
  rw [Function.comp_apply, Bool.eq_iff_iff, Bool.and_eq_true, decide_eq_true_eq, decide_eq_true_eq,
    decide_eq_true_eq, ← NotificationRequest.dedupeKey_eq_iff_pieces, and_comm]
  rfl

end Calls

section Runs

/-- A store with the calls that used it, and the last reading of the clock. -/
structure DedupeRun where
  store : SQLiteNotificationStore
  log : List Sending
  clock : Int

/-- The call reads a clock that does not step back. -/
structure SendCall.Timely (call : SendCall) (clock : Int) : Prop where
  checked : clock ≤ call.attempt.checkedAt
  recorded : call.attempt.checkedAt ≤ call.attempt.recordedAt
  inRange : InRange call.attempt.recordedAt

def DedupeRun.perform (run : DedupeRun) (call : SendCall) : DedupeRun :=
  let (outcome, store) := sendWithDedupe call.request call.settings call.attempt run.store
  { store
    log := run.log ++ [{ call with outcome }]
    clock := if outcome = .sent then call.attempt.recordedAt else call.attempt.checkedAt }

/-- Calls of `send_with_dedupe` one after another, from a new store. -/
def dedupeSystem : System DedupeRun SendCall where
  initial run := run.store = .empty ∧ run.log = []
  step before call after := call.Timely before.clock ∧ after = before.perform call

/-- The store has the last time of each key. -/
def Recorded (store : SQLiteNotificationStore) (log : List Sending) : Prop :=
  ∀ key, match lastUnder log key with
    | none => store.state.get? key = none
    | some last => store.LastSent key last.attempt.recordedAt

/-- Of the notifications under a key none was sent after the last one, and none after the clock. -/
structure Ordered (log : List Sending) (clock : Int) : Prop where
  latest : ∀ earlier ∈ log, ∀ key, earlier.SentUnder key → ∀ last, lastUnder log key = some last →
    earlier.attempt.recordedAt ≤ last.attempt.recordedAt
  past : ∀ earlier ∈ log, earlier.outcome = .sent → earlier.attempt.recordedAt ≤ clock

/-- How a call is decided: it is suppressed exactly if the seconds since the last notification with
its key do not reach the cooldown, and otherwise it sends if the client accepts the message. The
last notification with its key is the latest. -/
structure Decided (before : List Sending) (sending : Sending) : Prop where
  suppressed : sending.Complete → (sending.outcome = .suppressed ↔
    ∃ last, lastUnder before sending.request.dedupeKey = some last ∧
      ¬ (totalSeconds (sending.attempt.checkedAt - last.attempt.recordedAt)).AtLeast
        sending.settings.cooldownSeconds)
  sent : sending.outcome = .sent ↔
    sending.Complete ∧ sending.attempt.sending = .ok () ∧ sending.outcome ≠ .suppressed
  latest : ∀ earlier ∈ before, earlier.SentUnder sending.request.dedupeKey → ∀ last,
    lastUnder before sending.request.dedupeKey = some last →
      earlier.attempt.recordedAt ≤ last.attempt.recordedAt
  past : ∀ earlier ∈ before, earlier.outcome = .sent →
    earlier.attempt.recordedAt ≤ sending.attempt.checkedAt

variable {run after : DedupeRun} {call : SendCall} {log : List Sending} {sending : Sending}
  {store : SQLiteNotificationStore} {clock : Int}

/-- The store is asked for the last notification with the key. -/
theorem Recorded.shouldSend (recorded : Recorded store log) (key : String) (cooldown now : Int) :
    ∃ due, store.shouldSend key cooldown now = .ok due ∧ (due = false ↔
      ∃ last, lastUnder log key = some last ∧
        ¬ (totalSeconds (now - last.attempt.recordedAt)).AtLeast cooldown) := by
  have kept := recorded key
  cases found : lastUnder log key with
  | none =>
      rw [found] at kept
      refine ⟨true, SQLiteNotificationStore.shouldSend_of_unsent kept, nofun, ?_⟩
      rintro ⟨last, impossible, _⟩
      cases impossible
  | some last =>
      rw [found] at kept
      refine ⟨_, SQLiteNotificationStore.shouldSend_of_lastSent kept, ?_⟩
      rw [decide_eq_false_iff_not]
      constructor
      · intro within
        exact ⟨last, rfl, within⟩
      · rintro ⟨other, same, within⟩
        cases same
        exact within

/-- Only a call that sends records anything. -/
theorem sendWithDedupe_store (call : SendCall) (store : SQLiteNotificationStore) :
    (sendWithDedupe call.request call.settings call.attempt store).2 =
      if (sendWithDedupe call.request call.settings call.attempt store).1 = .sent then
        store.recordSent call.request.dedupeKey call.request.detection.status.value
          call.attempt.recordedAt
      else store := by
  unfold sendWithDedupe
  split
  next => rfl
  next => rfl
  next =>
    split
    next => rfl
    next => rfl

/-- What a call with complete settings finds in the store decides it. -/
theorem Recorded.decides (recorded : Recorded store log) (complete : call.Complete) :
    ((sendWithDedupe call.request call.settings call.attempt store).1 = .suppressed ↔
      ∃ last, lastUnder log call.request.dedupeKey = some last ∧
        ¬ (totalSeconds (call.attempt.checkedAt - last.attempt.recordedAt)).AtLeast
          call.settings.cooldownSeconds) ∧
    ((sendWithDedupe call.request call.settings call.attempt store).1 = .sent ↔
      call.attempt.sending = .ok () ∧
        (sendWithDedupe call.request call.settings call.attempt store).1 ≠ .suppressed) := by
  obtain ⟨due, asked, within⟩ := recorded.shouldSend call.request.dedupeKey
    call.settings.cooldownSeconds call.attempt.checkedAt
  have checked : checkDue call.settings call.request call.attempt.checkedAt store = .ok due := by
    unfold checkDue
    rw [complete]
    exact asked
  unfold sendWithDedupe
  rw [checked, ← within]
  cases due with
  | false =>
      refine ⟨iff_of_true rfl rfl, iff_of_false (fun sent => ?_) fun unsent => unsent.2 rfl⟩
      cases sent
  | true =>
      cases call.attempt.sending with
      | error =>
          constructor
          all_goals
            refine iff_of_false (fun sent => ?_) fun same => ?_
            · cases sent
          · cases same
          · cases same.1
      | ok =>
          refine ⟨iff_of_false (fun sent => ?_) fun same => ?_,
            iff_of_true rfl ⟨rfl, fun sent => ?_⟩⟩
          · cases sent
          · cases same
          · cases sent

/-- A call whose settings are not complete raises. -/
theorem sendWithDedupe_of_incomplete (incomplete : ¬ call.Complete)
    (store : SQLiteNotificationStore) :
    ∃ error, (sendWithDedupe call.request call.settings call.attempt store).1 = .raised error := by
  unfold SendCall.Complete at incomplete
  unfold sendWithDedupe checkDue
  cases checked : validateLarkSettings call.settings with
  | ok => exact absurd checked incomplete
  | error error => exact ⟨error, rfl⟩

/-- A notification that was sent is the last one under its key. -/
theorem Recorded.sent (recorded : Recorded store log) (sent : sending.outcome = .sent)
    (inRange : InRange sending.attempt.recordedAt) (status : String) :
    Recorded (store.recordSent sending.request.dedupeKey status sending.attempt.recordedAt)
      (log ++ [sending]) := by
  intro key
  by_cases same : sending.request.dedupeKey = key
  · subst same
    rw [lastUnder_concat_of ⟨sent, rfl⟩]
    exact SQLiteNotificationStore.recordSent_lastSent inRange
  · rw [lastUnder_concat_of_not fun under => same under.2]
    unfold SQLiteNotificationStore.LastSent
    rw [SQLiteNotificationStore.recordSent_get? (Ne.symm same)]
    exact recorded key

/-- A sending that did not go out leaves the recorded times as they were. -/
theorem Recorded.unsent (recorded : Recorded store log) (unsent : sending.outcome ≠ .sent) :
    Recorded store (log ++ [sending]) := by
  intro key
  rw [lastUnder_concat_of_not fun under => unsent under.1]
  exact recorded key

/-- A sending that went out in time is the latest of the log. -/
theorem Ordered.sent (ordered : Ordered log clock)
    (timely : sending.Timely clock) :
    Ordered (log ++ [sending]) sending.attempt.recordedAt where
  latest earlier member key under last found := by
    by_cases here : sending.SentUnder key
    · rw [lastUnder_concat_of here] at found
      cases found
      rcases List.mem_append.mp member with old | new
      · exact ((ordered.past earlier old under.1).trans timely.checked).trans timely.recorded
      · rw [List.mem_singleton.mp new]
    · rw [lastUnder_concat_of_not here] at found
      rcases List.mem_append.mp member with old | new
      · exact ordered.latest earlier old key under last found
      · rw [List.mem_singleton.mp new] at under
        exact absurd under here
  past earlier member sent := by
    rcases List.mem_append.mp member with old | new
    · exact ((ordered.past earlier old sent).trans timely.checked).trans timely.recorded
    · rw [List.mem_singleton.mp new]

/-- A sending that did not go out leaves the log in order. -/
theorem Ordered.unsent (ordered : Ordered log clock) (unsent : sending.outcome ≠ .sent)
    (timely : sending.Timely clock) : Ordered (log ++ [sending]) sending.attempt.checkedAt where
  latest earlier member key under last found := by
    rw [lastUnder_concat_of_not fun here => unsent here.1] at found
    rcases List.mem_append.mp member with old | new
    · exact ordered.latest earlier old key under last found
    · rw [List.mem_singleton.mp new] at under
      exact absurd under.1 unsent
  past earlier member sent := by
    rcases List.mem_append.mp member with old | new
    · exact (ordered.past earlier old sent).trans timely.checked
    · rw [List.mem_singleton.mp new] at sent
      exact absurd sent unsent

/-- What a run keeps. -/
structure DedupeRun.Kept (run : DedupeRun) : Prop where
  recorded : Recorded run.store run.log
  ordered : Ordered run.log run.clock
  decided : Throughout Decided run.log

/-- The store decides a timely call by the last sending under its key. -/
theorem DedupeRun.Kept.decides (kept : run.Kept) (timely : call.Timely run.clock) :
    Decided run.log { call with
      outcome := (sendWithDedupe call.request call.settings call.attempt run.store).1 } where
  suppressed complete := (kept.recorded.decides complete).1
  sent := by
    by_cases complete : call.Complete
    · exact (kept.recorded.decides complete).2.trans (and_iff_right complete).symm
    · obtain ⟨error, raised⟩ := sendWithDedupe_of_incomplete complete run.store
      dsimp only
      rw [raised]
      exact iff_of_false (fun sent => by cases sent) fun sent => complete sent.1
  latest earlier member under last found := kept.ordered.latest earlier member _ under last found
  past earlier member sent := (kept.ordered.past earlier member sent).trans timely.checked

/-- A timely call keeps the store in step with the log. -/
theorem DedupeRun.Kept.perform (kept : run.Kept) (timely : call.Timely run.clock) :
    (run.perform call).Kept := by
  have written := sendWithDedupe_store call run.store
  have decides := kept.decides timely
  unfold DedupeRun.perform
  generalize sendWithDedupe call.request call.settings call.attempt run.store = result at *
  obtain ⟨outcome, store⟩ := result
  dsimp only at written decides ⊢
  have decided : Throughout Decided (run.log ++ [{ call with outcome }]) :=
    throughout_concat.mpr ⟨kept.decided, decides⟩
  by_cases sent : outcome = .sent
  · rw [if_pos sent] at written ⊢
    rw [written]
    have delivered : ({ call with outcome } : Sending).outcome = .sent := sent
    have later : ({ call with outcome } : Sending).Timely run.clock := timely
    exact ⟨kept.recorded.sent delivered timely.inRange _, kept.ordered.sent later, decided⟩
  · rw [if_neg sent] at written ⊢
    rw [written]
    exact ⟨kept.recorded.unsent sent, kept.ordered.unsent sent timely, decided⟩

/-- In every reachable run the store is in step with the log. -/
theorem kept_of_reachable (reachable : dedupeSystem.Reachable run) : run.Kept := by
  refine reachable.invariant DedupeRun.Kept ?_ ?_
  · rintro source ⟨new, fresh⟩
    refine ⟨fun key => ?_, ?_, ?_⟩
    · rw [new, fresh, lastUnder_nil]
      rfl
    · rw [fresh]
      exact ⟨fun _ member => absurd member List.not_mem_nil,
        fun _ member => absurd member List.not_mem_nil⟩
    · rw [fresh]
      exact throughout_nil
  · rintro before call after kept _ ⟨timely, rfl⟩
    exact kept.perform timely

/-- The seconds since the last notification do not reach the cooldown exactly if it was sent less
than the cooldown before and they are not rounded up. -/
theorem Decided.within_iff {before : List Sending} {last : Sending}
    (decided : Decided before sending)
    (found : lastUnder before sending.request.dedupeKey = some last) :
    ¬ (totalSeconds (sending.attempt.checkedAt - last.attempt.recordedAt)).AtLeast
        sending.settings.cooldownSeconds ↔
      sending.Follows last.toSendCall ∧ ¬ sending.RoundsUp last.toSendCall := by
  obtain ⟨member, sent, _⟩ := lastUnder_mem found
  have past := decided.past last member sent
  constructor
  · intro within
    refine ⟨?_, fun rounded => within rounded.2⟩
    by_contra reached
    exact within (totalSeconds_reaches (Int.sub_nonneg_of_le past) (Int.not_lt.mp reached))
  · intro follows reached
    exact follows.2 ⟨follows.1, reached⟩

/-- A repeat follows the last notification with its key, which is a later one. -/
theorem Decided.follows_of_repeats {before : List Sending} (decided : Decided before sending)
    (repeats : sending.Repeats (sentCalls before)) :
    ∃ last, lastUnder before sending.request.dedupeKey = some last ∧
      sending.Follows last.toSendCall := by
  obtain ⟨_, sent, same, follows⟩ := repeats
  obtain ⟨earlier, member, rfl⟩ := List.mem_map.mp sent
  obtain ⟨listed, sent⟩ := List.mem_filter.mp member
  have under : earlier.SentUnder sending.request.dedupeKey :=
    ⟨of_decide_eq_true sent, NotificationRequest.dedupeKey_of_subject same⟩
  obtain ⟨last, found⟩ := lastUnder_isSome listed under
  have later := decided.latest earlier listed under last found
  refine ⟨last, found, ?_⟩
  unfold SendCall.Follows at follows ⊢
  omega

/-- The last notification with the key is repeated by one about the same that follows it. -/
theorem repeats_of_last {before : List Sending} {last : Sending}
    (found : lastUnder before key = some last)
    (same : last.request.subject = sending.request.subject)
    (follows : sending.Follows last.toSendCall) : sending.Repeats (sentCalls before) := by
  obtain ⟨member, sent, _⟩ := lastUnder_mem found
  refine ⟨last.toSendCall, List.mem_map_of_mem (List.mem_filter.mpr ⟨member, ?_⟩), same, follows⟩
  exact decide_eq_true sent

/-- After calls that sent what is due, a call suppresses only repeats exactly if the last
notification that shares its pieces keeps apart from it. -/
theorem Decided.suppresses_iff {before : List Sending} (decided : Decided before sending)
    (due : sentCalls before = dueCalls (before.map Sending.toSendCall)) :
    SuppressesOnlyRepeats before sending ↔
      KeepsApart (before.map Sending.toSendCall) sending.toSendCall := by
  unfold KeepsApart
  rw [← due, lastSharing_sentCalls]
  apply forall_congr'
  intro complete
  have decision := decided.suppressed complete
  constructor
  · intro onlyRepeats earlier shares follows
    obtain ⟨last, found, rfl⟩ := Option.map_eq_some_iff.mp shares
    have within := decided.within_iff found
    split
    next rounded =>
      -- the call was sent, so that it is no repeat
      intro repeats
      obtain ⟨other, again, short⟩ := decision.mp (onlyRepeats.1.mpr repeats)
      cases found.symm.trans again
      exact (within.mp short).2 rounded
    next exactly =>
      have suppressed := decision.mpr ⟨last, found, within.mpr ⟨follows, exactly⟩⟩
      exact onlyRepeats.2 last found suppressed
  · intro apart
    have alike : ∀ last, lastUnder before sending.request.dedupeKey = some last →
        sending.outcome = .suppressed → sending.Follows last.toSendCall ∧
          last.request.subject = sending.request.subject := by
      intro last found suppressed
      obtain ⟨other, again, short⟩ := decision.mp suppressed
      cases found.symm.trans again
      obtain ⟨follows, exactly⟩ := (decided.within_iff found).mp short
      have same := apart last.toSendCall (Option.map_eq_some_iff.mpr ⟨last, found, rfl⟩) follows
      rw [if_neg exactly] at same
      exact ⟨follows, same⟩
    refine ⟨⟨fun suppressed => ?_, fun repeats => ?_⟩, fun last found suppressed =>
      (alike last found suppressed).2⟩
    · obtain ⟨last, found, _⟩ := decision.mp suppressed
      obtain ⟨follows, same⟩ := alike last found suppressed
      exact repeats_of_last found same follows
    · obtain ⟨last, found, follows⟩ := decided.follows_of_repeats repeats
      have kept := apart last.toSendCall (Option.map_eq_some_iff.mpr ⟨last, found, rfl⟩) follows
      refine decision.mpr ⟨last, found, (decided.within_iff found).mpr ⟨follows, fun rounded => ?_⟩⟩
      rw [if_pos rounded] at kept
      exact kept repeats

/-- After calls that sent what is due, a call that suppresses only repeats sends if it is due. -/
theorem Decided.sends_due {before : List Sending} (decided : Decided before sending)
    (onlyRepeats : SuppressesOnlyRepeats before sending)
    (due : sentCalls before = dueCalls (before.map Sending.toSendCall)) :
    sentCalls (before ++ [sending]) = dueCalls ((before ++ [sending]).map Sending.toSendCall) := by
  have sends : sending.outcome = .sent ↔ sending.toSendCall.IsDue (sentCalls before) := by
    rw [decided.sent]
    unfold SendCall.IsDue
    refine and_congr_right fun complete => and_congr_right fun _ => ?_
    exact not_congr (onlyRepeats complete).1
  rw [sentCalls_concat, List.map_append, List.map_singleton, dueCalls_concat, ← due]
  simp only [sends]

/-- Calls suppress only repeats exactly if they keep apart, and then those that are due have sent.
-/
theorem suppresses_iff_keepsApart (decided : Throughout Decided log) :
    (Throughout SuppressesOnlyRepeats log ↔ Throughout KeepsApart (log.map Sending.toSendCall)) ∧
      (Throughout SuppressesOnlyRepeats log →
        sentCalls log = dueCalls (log.map Sending.toSendCall)) := by
  induction log using List.reverseRecOn with
  | nil => exact ⟨iff_of_true throughout_nil throughout_nil, fun _ => rfl⟩
  | append_singleton log sending ih =>
      obtain ⟨earlier, last⟩ := throughout_concat.mp decided
      obtain ⟨same, due⟩ := ih earlier
      constructor
      · rw [List.map_append, List.map_singleton, throughout_concat, throughout_concat, ← same]
        apply and_congr_right
        intro held
        exact last.suppresses_iff (due held)
      · intro held
        obtain ⟨before, onlyRepeats⟩ := throughout_concat.mp held
        exact last.sends_due onlyRepeats (due before)

/-- Seconds are not rounded up to a short cooldown. -/
theorem not_roundsUp {earlier : SendCall}
    (past : earlier.attempt.recordedAt ≤ call.attempt.checkedAt)
    (short : ShortCooldown call.settings.cooldownSeconds) : ¬ call.RoundsUp earlier := by
  intro rounded
  have reached := (totalSeconds_atLeast (Int.sub_nonneg_of_le past) short).mp rounded.2
  exact absurd rounded.1 (Int.not_lt.mpr reached)

/-- Notifications whose parts have no sign of the key keep apart, if no seconds between them are
rounded up. -/
theorem keepsApart_of_plain {calls : List SendCall} (plain : ∀ call ∈ calls, call.request.Plain)
    (exactly : ∀ call ∈ calls, ∀ earlier ∈ calls, ¬ call.RoundsUp earlier) :
    Throughout KeepsApart calls := by
  rintro before call after rfl complete earlier found _
  obtain ⟨member, shares⟩ := lastSharing_mem found
  rw [if_neg (exactly call (List.mem_append_right _ List.mem_cons_self) earlier
    (List.mem_append_left _ (dueCalls_subset before member)))]
  have earlierPlain := plain earlier (List.mem_append_left _ (dueCalls_subset before member))
  have laterPlain := plain call (List.mem_append_right _ List.mem_cons_self)
  have sameKey := NotificationRequest.dedupeKey_eq_iff_pieces.mpr shares
  exact (NotificationRequest.dedupeKey_eq_iff earlierPlain laterPlain).mp sameKey

/-- The notifications of a run are suppressed exactly as repeats if and only if each keeps apart
from the last notification that shares its pieces. -/
theorem cooldown_suppresses_repeats (reachable : dedupeSystem.Reachable run) :
    Throughout SuppressesOnlyRepeats run.log ↔
      Throughout KeepsApart (run.log.map Sending.toSendCall) :=
  (suppresses_iff_keepsApart (kept_of_reachable reachable).decided).1

/-- A call about this command with a cooldown of five minutes. -/
def commandCall (command : List String) (time : Int) : SendCall where
  request := ⟨⟨"build", command, 0, "1.0", [], [], "cli"⟩, ⟨.succeeded, []⟩, none⟩
  settings := ⟨"app", "secret", "chat", 300⟩
  attempt := ⟨time, .ok (), time⟩

/-- Calls about two commands, a second apart. -/
def commandRun (first second : List String) : DedupeRun :=
  (DedupeRun.perform ⟨.empty, [], 0⟩ (commandCall first 0)).perform (commandCall second 1000000)

/-- Two commands one after the other are a run. -/
theorem commandRun_reachable (first second : List String) :
    dedupeSystem.Reachable (commandRun first second) := by
  have timely : ∀ (command : List String) (time : Int), 0 ≤ time → InRange time →
      (commandCall command time).Timely 0 :=
    fun _ _ later inRange => ⟨later, Int.le_refl _, inRange⟩
  have started : dedupeSystem.Reachable ⟨.empty, [], 0⟩ := .initial ⟨rfl, rfl⟩
  have stopped : (DedupeRun.perform ⟨.empty, [], 0⟩ (commandCall first 0)).clock = 0 := rfl
  refine (started.step (commandCall first 0) ⟨timely first 0 (by decide) (by decide), rfl⟩).step
    (commandCall second 1000000) ⟨?_, rfl⟩
  rw [stopped]
  exact timely second 1000000 (by decide) (by decide)

/-- A repeated command is suppressed as a repeat. -/
theorem repeated_command_suppressed :
    dedupeSystem.Reachable (commandRun ["make"] ["make"]) ∧
      Throughout SuppressesOnlyRepeats (commandRun ["make"] ["make"]).log := by
  have reachable := commandRun_reachable ["make"] ["make"]
  refine ⟨reachable, (cooldown_suppresses_repeats reachable).mpr ?_⟩
  have calls : (commandRun ["make"] ["make"]).log.map Sending.toSendCall =
      [commandCall ["make"] 0, commandCall ["make"] 1000000] := rfl
  rw [calls, throughout_pair]
  constructor
  · intro _ earlier found
    cases found
  · intro _ earlier found _
    have member := dueCalls_subset _ (lastSharing_mem found).1
    rw [List.mem_singleton.mp member, if_neg (by decide)]
    rfl

/-- A command is suppressed by another one that joins to the same text. -/
theorem split_command_suppressed : ¬ ∀ run, dedupeSystem.Reachable run →
    Throughout SuppressesOnlyRepeats run.log := by
  intro claim
  have reachable := commandRun_reachable ["make", "all tests"] ["make all", "tests"]
  have apart := (suppresses_iff_keepsApart (kept_of_reachable reachable).decided).1.mp
    (claim _ reachable)
  have calls : (commandRun ["make", "all tests"] ["make all", "tests"]).log.map Sending.toSendCall =
      [commandCall ["make", "all tests"] 0, commandCall ["make all", "tests"] 1000000] := rfl
  rw [calls, throughout_pair] at apart
  have found : lastSharing (dueCalls [commandCall ["make", "all tests"] 0])
      (commandCall ["make all", "tests"] 1000000).request =
        some (commandCall ["make", "all tests"] 0) := by
    rfl
  have same := apart.2 (by decide) _ found (by decide)
  rw [if_neg (by decide)] at same
  exact absurd same (by decide)

end Runs

end LarkBot
