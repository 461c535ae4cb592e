import LarkBot.Core.Timestamps
import LarkBot.Foundation.Dict

/-! # The notification store

`SQLiteNotificationStore` keeps the last time at which a notification was sent under each dedupe
key, and a history of all that were sent. Times are stored as texts.
-/

namespace LarkBot

open Foundation

/-- A row of `notification_state`, without its key. -/
structure NotificationState where
  status : String
  lastSentAt : String
  sendCount : Nat
  deriving DecidableEq

/-- A row of `notification_history`. -/
structure NotificationRecord where
  id : Nat
  dedupeKey : String
  status : String
  sentAt : String
  deriving DecidableEq

/-- The tables of the store; `dedupe_key` is the primary key of `notification_state`. -/
structure SQLiteNotificationStore where
  state : Dict String NotificationState
  history : List NotificationRecord

/-- A cooldown for which the float of a difference of times decides like the difference. -/
def ShortCooldown (cooldownSeconds : Int) : Prop := cooldownSeconds ≤ 2 ^ 34

instance (cooldownSeconds : Int) : Decidable (ShortCooldown cooldownSeconds) :=
  inferInstanceAs (Decidable (_ ≤ _))

namespace SQLiteNotificationStore

/-- The store of a new database. -/
def empty : SQLiteNotificationStore := ⟨.empty, []⟩

/-- `should_send`, with the reading of the clock. The float of the seconds is compared as it is. -/
def shouldSend (store : SQLiteNotificationStore) (dedupeKey : String) (cooldownSeconds : Int)
    (now : Instant) : Except PyError Bool :=
  match store.state.get? dedupeKey with
  | none => .ok true
  | some row => (fromIsoformat row.lastSentAt).map fun lastSent =>
      decide ((totalSeconds (now - lastSent)).AtLeast cooldownSeconds)

/-- `record_sent`, with the reading of the clock. -/
def recordSent (store : SQLiteNotificationStore) (dedupeKey status : String) (now : Instant) :
    SQLiteNotificationStore :=
  let current := isoformat now
  let sendCount := match store.state.get? dedupeKey with
    | some row => row.sendCount + 1
    | none => 1
  { state := store.state.set dedupeKey ⟨status, current, sendCount⟩
    history := store.history ++ [⟨store.history.length + 1, dedupeKey, status, current⟩] }

/-- The last notification under the key was sent at this time. -/
def LastSent (store : SQLiteNotificationStore) (dedupeKey : String) (time : Instant) : Prop :=
  InRange time ∧ ∃ row, store.state.get? dedupeKey = some row ∧ row.lastSentAt = isoformat time

variable {store : SQLiteNotificationStore} {dedupeKey other status : String}
  {cooldownSeconds now sentAt : Int}

/-- The store compares the time since the last notification with the cooldown. -/
theorem shouldSend_of_lastSent (last : store.LastSent dedupeKey sentAt) :
    store.shouldSend dedupeKey cooldownSeconds now =
      .ok (decide ((totalSeconds (now - sentAt)).AtLeast cooldownSeconds)) := by
  obtain ⟨inRange, row, found, text⟩ := last
  unfold shouldSend
  rw [found]
  dsimp only
  rw [text, fromIsoformat_isoformat inRange]
  rfl

/-- A notification whose key was never sent is due. -/
theorem shouldSend_of_unsent (unsent : store.state.get? dedupeKey = none) :
    store.shouldSend dedupeKey cooldownSeconds now = .ok true := by
  unfold shouldSend
  rw [unsent]

/-- After a notification was recorded, its time is the last one of its key. -/
theorem recordSent_lastSent (inRange : InRange now) :
    (store.recordSent dedupeKey status now).LastSent dedupeKey now := by
  unfold recordSent LastSent
  rw [Dict.get?_set, if_pos rfl]
  exact ⟨inRange, _, rfl, rfl⟩

/-- A record leaves the rows of the other keys. -/
theorem recordSent_get? (apart : other ≠ dedupeKey) :
    (store.recordSent dedupeKey status now).state.get? other = store.state.get? other := by
  unfold recordSent
  rw [Dict.get?_set, if_neg apart]

end SQLiteNotificationStore

end LarkBot
