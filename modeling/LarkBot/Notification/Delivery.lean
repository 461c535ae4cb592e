import LarkBot.Notification.Dedupe

/-! # Deliveries of concurrent calls

A call of `send_with_dedupe` or a request of `/agent/events` checks the store, sends and records in
three steps, and the steps of the calls of several processes interleave on one store. Nothing
claims the key between the check and the record: of two calls that check before one of them
records, both deliver. While a call passes its check only when no other call with its key is between
its check and its record, and none ended in between after it delivered within the cooldown,
deliveries with one key are a cooldown apart (`LarkBot.deliveries_spaced`).
-/

namespace LarkBot

open Foundation

section Calls

/-- What runs the three steps: `send_with_dedupe`, or `agent_events` with the cooldown of the
server and whether it has a notifier. -/
inductive EntryPoint where
  | sendWithDedupe (settings : Settings)
  | agentEvents (cooldownSeconds : Int) (notifier : Bool)

def EntryPoint.cooldownSeconds : EntryPoint → Int
  | .sendWithDedupe settings => settings.cooldownSeconds
  | .agentEvents cooldownSeconds _ => cooldownSeconds

/-- The first step, which ends the call or goes on to send. -/
def EntryPoint.passesCheck (entry : EntryPoint) (request : NotificationRequest) (now : Int)
    (store : SQLiteNotificationStore) : Except PyError Bool :=
  match entry with
  | .sendWithDedupe settings => checkDue settings request now store
  | .agentEvents cooldownSeconds notifier => do
      let due ← store.shouldSend request.dedupeKey cooldownSeconds now
      return due && notifier

/-- A message that reached the chat. -/
structure Delivery where
  worker : Nat
  key : String
  cooldownSeconds : Int
  time : Int
  deriving DecidableEq

inductive SendPhase where
  /-- The check passed, and the client is about to send. -/
  | due
  /-- The client came back, and the notification is about to be recorded. -/
  | sent (delivered : Option Delivery)

/-- A call past its check. -/
structure PassedCall where
  request : NotificationRequest
  entry : EntryPoint
  phase : SendPhase

/-- One step of a process. A client may deliver and raise all the same, as at a timeout. -/
inductive DeliveryEvent where
  | check (worker : Nat) (entry : EntryPoint) (request : NotificationRequest)
  | send (worker : Nat) (delivers raises : Bool)
  | record (worker : Nat)
  | crash (worker : Nat)

/-- The processes that use a store, each with one call at a time, and what they delivered. -/
structure DeliveryRun where
  store : SQLiteNotificationStore
  calls : Dict Nat PassedCall
  deliveries : List Delivery
  recorded : List Delivery
  /-- The deliveries of calls that ended before their record. -/
  lost : List Delivery
  clock : Int

/-- What a call delivered that is still to be recorded. -/
def SendPhase.delivered? : SendPhase → Option Delivery
  | .due => none
  | .sent delivered => delivered

namespace DeliveryRun

/-- The run at a later reading of the clock. -/
def wait (run : DeliveryRun) (now : Int) : DeliveryRun := { run with clock := now }

def check (run : DeliveryRun) (worker : Nat) (entry : EntryPoint) (request : NotificationRequest) :
    DeliveryRun :=
  match entry.passesCheck request run.clock run.store with
  | .ok true => { run with calls := run.calls.set worker ⟨request, entry, .due⟩ }
  | _ => run

def send (run : DeliveryRun) (worker : Nat) (request : NotificationRequest) (entry : EntryPoint)
    (delivers raises : Bool) : DeliveryRun :=
  let delivered : Option Delivery :=
    if delivers then some ⟨worker, request.dedupeKey, entry.cooldownSeconds, run.clock⟩ else none
  { run with
    calls :=
      if raises then run.calls.pop worker
      else run.calls.set worker ⟨request, entry, .sent delivered⟩
    deliveries := run.deliveries ++ delivered.toList
    lost := run.lost ++ if raises then delivered.toList else [] }

def record (run : DeliveryRun) (worker : Nat) (request : NotificationRequest)
    (delivered : Option Delivery) : DeliveryRun :=
  { run with
    store := run.store.recordSent request.dedupeKey request.detection.status.value run.clock
    calls := run.calls.pop worker
    recorded := run.recorded ++ delivered.toList }

def crash (run : DeliveryRun) (worker : Nat) : DeliveryRun :=
  { run with
    calls := run.calls.pop worker
    lost := run.lost ++ ((run.calls.get? worker).bind fun call => call.phase.delivered?).toList }

/-- One step; it is the turn of the process that the event names. -/
def next (run : DeliveryRun) : DeliveryEvent → Option DeliveryRun
  | .check worker entry request =>
      if worker ∈ run.calls.keys then none else some (run.check worker entry request)
  | .send worker delivers raises =>
      match run.calls.get? worker with
      | some ⟨request, entry, .due⟩ => some (run.send worker request entry delivers raises)
      | _ => none
  | .record worker =>
      match run.calls.get? worker with
      | some ⟨request, _, .sent delivered⟩ => some (run.record worker request delivered)
      | _ => none
  | .crash worker => some (run.crash worker)

end DeliveryRun

/-- Every order of the steps of the processes, by a clock that does not step back. -/
def deliverySystem : System DeliveryRun (Int × DeliveryEvent) where
  initial run := run.store = .empty ∧ run.calls = .empty ∧ run.deliveries = [] ∧
    run.recorded = [] ∧ run.lost = []
  step before label after := before.clock ≤ label.1 ∧ InRange label.1 ∧
    (before.wait label.1).next label.2 = some after

/-- Deliveries with one key are at least the cooldown of the later one apart. -/
def Spaced (deliveries : List Delivery) : Prop :=
  deliveries.Pairwise fun earlier later => earlier.key = later.key →
    later.cooldownSeconds * 1000000 ≤ later.time - earlier.time

/-- No call with the key is between its check and its record, and none that delivered less than the
cooldown ago ended before its record. -/
structure Settled (run : DeliveryRun) (key : String) (cooldownSeconds : Int) : Prop where
  alone : ∀ worker call, run.calls.get? worker = some call → call.request.dedupeKey ≠ key
  unlost : ∀ delivery ∈ run.lost, delivery.key = key →
    cooldownSeconds * 1000000 ≤ run.clock - delivery.time

/-- A call passes its check only when its key is settled, and with a short cooldown. -/
def ChecksSettled (before : DeliveryRun) (label : Int × DeliveryEvent) : Prop :=
  match label.2 with
  | .check _ entry request =>
      entry.passesCheck request label.1 before.store = .ok true →
        ShortCooldown entry.cooldownSeconds ∧
          Settled (before.wait label.1) request.dedupeKey entry.cooldownSeconds
  | _ => True

end Calls

section Spacing

variable {run after : DeliveryRun} {worker : Nat} {entry : EntryPoint}
    {request : NotificationRequest}
  {store : SQLiteNotificationStore} {now : Int}

/-- A call that passes its check found the cooldown over. -/
theorem EntryPoint.over_of_passes (passes : entry.passesCheck request now store = .ok true)
    {last : Int} (recorded : store.LastSent request.dedupeKey last) (past : last ≤ now)
    (short : ShortCooldown entry.cooldownSeconds) :
    entry.cooldownSeconds * 1000000 ≤ now - last := by
  apply (totalSeconds_atLeast (Int.sub_nonneg_of_le past) short).mp
  cases entry with
  | sendWithDedupe settings =>
      unfold passesCheck checkDue at passes
      obtain ⟨_, _, asked⟩ := bind_eq_ok.mp passes
      rw [SQLiteNotificationStore.shouldSend_of_lastSent recorded] at asked
      exact of_decide_eq_true (Except.ok.inj asked)
  | agentEvents cooldownSeconds notifier =>
      unfold passesCheck at passes
      obtain ⟨due, asked, answered⟩ := bind_eq_ok.mp passes
      rw [SQLiteNotificationStore.shouldSend_of_lastSent recorded] at asked
      have both : (due && notifier) = true := Except.ok.inj answered
      rw [← Except.ok.inj asked, Bool.and_eq_true] at both
      exact of_decide_eq_true both.1

/-- What keeps deliveries apart: the deliveries with the key of a call that is about to send are
its cooldown ago, no other call with the key is about to send, a recorded delivery is not after the
last time of its key, and every other delivery is lost or still to be recorded. -/
structure DeliveryRun.Apart (run : DeliveryRun) : Prop where
  elapsed : ∀ worker call, run.calls.get? worker = some call → call.phase = .due →
    ∀ delivery ∈ run.deliveries, delivery.key = call.request.dedupeKey →
      call.entry.cooldownSeconds * 1000000 ≤ run.clock - delivery.time
  single : ∀ worker call other otherCall, run.calls.get? worker = some call →
    run.calls.get? other = some otherCall → call.phase = .due → otherCall.phase = .due →
      call.request.dedupeKey = otherCall.request.dedupeKey → worker = other
  delivered : ∀ worker call delivery, run.calls.get? worker = some call →
    call.phase = .sent (some delivery) →
      delivery.key = call.request.dedupeKey ∧ delivery.time ≤ run.clock
  recorded : ∀ delivery ∈ run.recorded, ∃ last : Int, run.store.LastSent delivery.key last ∧
    delivery.time ≤ last ∧ last ≤ run.clock
  kept : ∀ delivery ∈ run.deliveries, delivery ∈ run.recorded ∨ delivery ∈ run.lost ∨
    ∃ worker call, run.calls.get? worker = some call ∧ call.phase = .sent (some delivery)
  spaced : Spaced run.deliveries

namespace DeliveryRun.Apart

/-- Time that passes keeps the deliveries apart. -/
theorem wait (apart : run.Apart) (later : run.clock ≤ now) : (run.wait now).Apart where
  elapsed worker call held due delivery member same := by
    have elapsed := apart.elapsed worker call held due delivery member same
    unfold DeliveryRun.wait
    dsimp only
    omega
  single := apart.single
  delivered worker call delivery held sent := by
    obtain ⟨same, before⟩ := apart.delivered worker call delivery held sent
    exact ⟨same, before.trans later⟩
  recorded delivery member := by
    obtain ⟨last, kept, after, before⟩ := apart.recorded delivery member
    exact ⟨last, kept, after, before.trans later⟩
  kept := apart.kept
  spaced := apart.spaced

/-- A call that is left after another was taken is one of the others. -/
theorem get?_of_pop {other : Nat} {call : PassedCall}
    (held : (run.calls.pop worker).get? other = some call) :
    other ≠ worker ∧ run.calls.get? other = some call := by
  rw [Dict.get?_pop] at held
  split at held
  next => cases held
  next different => exact ⟨different, held⟩

/-- A call that ends before its record leaves what it delivered to the lost. -/
theorem crash (apart : run.Apart) (worker : Nat) : (run.crash worker).Apart where
  elapsed other call held := apart.elapsed other call (get?_of_pop held).2
  single other call third thirdCall held thirdHeld :=
    apart.single other call third thirdCall (get?_of_pop held).2 (get?_of_pop thirdHeld).2
  delivered other call delivery held := apart.delivered other call delivery (get?_of_pop held).2
  recorded := apart.recorded
  kept delivery member := by
    unfold DeliveryRun.crash
    dsimp only
    rcases apart.kept delivery member with recorded | lost | ⟨other, call, held, sent⟩
    · exact .inl recorded
    · exact .inr (.inl (List.mem_append_left _ lost))
    · by_cases here : other = worker
      · refine .inr (.inl (List.mem_append_right _ ?_))
        rw [← here, held, Option.bind_some, sent]
        exact List.mem_singleton_self delivery
      · refine .inr (.inr ⟨other, call, ?_, sent⟩)
        rw [Dict.get?_pop, if_neg here]
        exact held
  spaced := apart.spaced

/-- A call that passes the check of a settled key finds every delivery with it a cooldown ago. -/
theorem over_of_settled (apart : run.Apart)
    (passes : entry.passesCheck request run.clock run.store = .ok true)
    (short : ShortCooldown entry.cooldownSeconds)
    (settled : Settled run request.dedupeKey entry.cooldownSeconds) :
    ∀ delivery ∈ run.deliveries, delivery.key = request.dedupeKey →
      entry.cooldownSeconds * 1000000 ≤ run.clock - delivery.time := by
  intro delivery member same
  rcases apart.kept delivery member with recorded | lost | ⟨worker, call, held, sent⟩
  · obtain ⟨last, stored, after, past⟩ := apart.recorded delivery recorded
    rw [same] at stored
    have elapsed := EntryPoint.over_of_passes passes stored past short
    omega
  · exact settled.unlost delivery lost same
  · have own := (apart.delivered worker call delivery held sent).1
    exact absurd (own.symm.trans same) (settled.alone worker call held)

/-- A call that goes past its check when the others are settled keeps the deliveries
apart. -/
theorem check (apart : run.Apart) (idle : worker ∉ run.calls.keys) (settled :
    entry.passesCheck request run.clock run.store = .ok true →
      ShortCooldown entry.cooldownSeconds ∧ Settled run request.dedupeKey entry.cooldownSeconds) :
    (run.check worker entry request).Apart := by
  unfold DeliveryRun.check
  split
  next passes =>
    obtain ⟨short, quiet⟩ := settled passes
    exact {
      elapsed := by
        intro other call held due
        dsimp only at held
        rw [Dict.get?_set] at held
        split at held
        next =>
          cases held
          exact apart.over_of_settled passes short quiet
        next => exact apart.elapsed other call held due
      single := by
        intro other call third thirdCall held thirdHeld due thirdDue same
        dsimp only at held thirdHeld
        rw [Dict.get?_set] at held thirdHeld
        split at held
        next here =>
          split at thirdHeld
          next there => rw [here, there]
          next =>
            cases held
            exact absurd same.symm (quiet.alone third thirdCall thirdHeld)
        next =>
          split at thirdHeld
          next =>
            cases thirdHeld
            exact absurd same (quiet.alone other call held)
          next => exact apart.single other call third thirdCall held thirdHeld due thirdDue same
      delivered := by
        intro other call delivery held sent
        dsimp only at held
        rw [Dict.get?_set] at held
        split at held
        next =>
          cases held
          cases sent
        next => exact apart.delivered other call delivery held sent
      recorded := apart.recorded
      kept := by
        intro delivery member
        rcases apart.kept delivery member with recorded | lost | ⟨other, call, held, sent⟩
        · exact .inl recorded
        · exact .inr (.inl lost)
        · refine .inr (.inr ⟨other, call, ?_, sent⟩)
          have different : other ≠ worker := by
            rintro rfl
            exact idle (Dict.mem_keys_iff_get?.mpr ⟨call, held⟩)
          dsimp only
          rw [Dict.get?_set, if_neg different]
          exact held
      spaced := apart.spaced }
  next => exact apart

/-- A call that sends delivers after the cooldown that it has checked. -/
theorem send (apart : run.Apart) (held : run.calls.get? worker = some ⟨request, entry, .due⟩)
    (delivers raises : Bool) : (run.send worker request entry delivers raises).Apart := by
  unfold DeliveryRun.send
  dsimp only
  generalize made : (if delivers then
    some (⟨worker, request.dedupeKey, entry.cooldownSeconds, run.clock⟩ : Delivery)
    else none) = delivered
  have fresh : ∀ delivery, delivered = some delivery →
      delivery = ⟨worker, request.dedupeKey, entry.cooldownSeconds, run.clock⟩ := by
    rintro delivery rfl
    split at made
    next => exact (Option.some.inj made).symm
    next => cases made
  generalize moved : (if raises then run.calls.pop worker
    else run.calls.set worker ⟨request, entry, .sent delivered⟩) = calls
  have left : ∀ other call, calls.get? other = some call →
      call.phase = .sent delivered ∧ call.request = request ∨
        other ≠ worker ∧ run.calls.get? other = some call := by
    rintro other call found
    subst moved
    split at found
    next =>
      rw [Dict.get?_pop] at found
      split at found
      next => cases found
      next apart => exact .inr ⟨apart, found⟩
    next =>
      rw [Dict.get?_set] at found
      split at found
      next =>
        cases found
        exact .inl ⟨rfl, rfl⟩
      next apart => exact .inr ⟨apart, found⟩
  -- a call that is about to send has another key
  have others : ∀ other call, calls.get? other = some call → call.phase = .due →
      run.calls.get? other = some call ∧ call.request.dedupeKey ≠ request.dedupeKey := by
    intro other call found due
    rcases left other call found with ⟨sent, _⟩ | ⟨apartWorker, old⟩
    · rw [due] at sent
      cases sent
    · exact ⟨old, fun same => apartWorker (apart.single other call worker _ old held due rfl same)⟩
  exact {
    elapsed := by
      intro other call found due delivery member same
      obtain ⟨old, otherKey⟩ := others other call found due
      rcases List.mem_append.mp member with earlier | new
      · exact apart.elapsed other call old due delivery earlier same
      · rw [fresh delivery (Option.mem_toList.mp new)] at same
        exact absurd same.symm otherKey
    single := by
      intro other call third thirdCall found thirdFound due thirdDue same
      exact apart.single other call third thirdCall (others other call found due).1
        (others third thirdCall thirdFound thirdDue).1 due thirdDue same
    delivered := by
      intro other call delivery found sent
      rcases left other call found with ⟨here, sameRequest⟩ | ⟨_, old⟩
      · rw [here] at sent
        rw [sameRequest, fresh delivery (SendPhase.sent.inj sent)]
        exact ⟨rfl, Int.le_refl _⟩
      · exact apart.delivered other call delivery old sent
    recorded := apart.recorded
    kept := by
      intro delivery member
      rcases List.mem_append.mp member with earlier | new
      · rcases apart.kept delivery earlier with recorded | lost | ⟨other, call, found, sent⟩
        · exact .inl recorded
        · exact .inr (.inl (List.mem_append_left _ lost))
        · refine .inr (.inr ⟨other, call, ?_, sent⟩)
          have different : other ≠ worker := by
            rintro rfl
            cases held.symm.trans found
            cases sent
          rw [← moved]
          split
          · rw [Dict.get?_pop, if_neg different]
            exact found
          · rw [Dict.get?_set, if_neg different]
            exact found
      · have made := Option.mem_toList.mp new
        cases raises with
        | true =>
            refine .inr (.inl (List.mem_append_right _ ?_))
            exact new
        | false =>
            refine .inr (.inr ⟨worker, ⟨request, entry, .sent delivered⟩, ?_, ?_⟩)
            · rw [← moved]
              exact Dict.get?_set.trans (if_pos rfl)
            · exact congrArg SendPhase.sent made
    spaced := by
      refine List.pairwise_append.mpr ⟨apart.spaced, ?_, ?_⟩
      · cases delivered with
        | none => exact .nil
        | some delivery => exact List.pairwise_singleton _ _
      · intro earlier member later new same
        rw [fresh later (Option.mem_toList.mp new)] at same ⊢
        exact apart.elapsed worker _ held rfl earlier member same }

/-- A call that records its notification leaves the time of the delivery behind. -/
theorem record (apart : run.Apart) {delivered : Option Delivery}
    (held : run.calls.get? worker = some ⟨request, entry, .sent delivered⟩)
    (inRange : InRange run.clock) : (run.record worker request delivered).Apart := by
  have onRecord : ∀ delivery : Delivery, delivery ∈ run.recorded ∨ delivered = some delivery →
      ∃ last : Int, (run.store.recordSent request.dedupeKey request.detection.status.value
        run.clock).LastSent delivery.key last ∧ delivery.time ≤ last ∧ last ≤ run.clock := by
    intro delivery recorded
    by_cases same : delivery.key = request.dedupeKey
    · refine ⟨run.clock, ?_, ?_, Int.le_refl _⟩
      · rw [same]
        exact SQLiteNotificationStore.recordSent_lastSent inRange
      · rcases recorded with old | new
        · obtain ⟨last, _, after, before⟩ := apart.recorded delivery old
          exact after.trans before
        · exact (apart.delivered worker _ delivery held (congrArg SendPhase.sent new)).2
    · rcases recorded with old | new
      · obtain ⟨last, kept, after, before⟩ := apart.recorded delivery old
        refine ⟨last, ?_, after, before⟩
        unfold SQLiteNotificationStore.LastSent at kept ⊢
        rw [SQLiteNotificationStore.recordSent_get? same]
        exact kept
      · exact absurd (apart.delivered worker _ delivery held (congrArg SendPhase.sent new)).1 same
  exact {
    elapsed := fun other call left => apart.elapsed other call (get?_of_pop left).2
    single := fun other call third thirdCall left thirdLeft =>
      apart.single other call third thirdCall (get?_of_pop left).2 (get?_of_pop thirdLeft).2
    delivered := fun other call delivery left => apart.delivered other call delivery
      (get?_of_pop left).2
    recorded := by
      intro delivery member
      rcases List.mem_append.mp member with old | new
      · exact onRecord delivery (.inl old)
      · exact onRecord delivery (.inr (Option.mem_toList.mp new))
    kept := by
      intro delivery member
      rcases apart.kept delivery member with old | lost | ⟨other, call, found, sent⟩
      · exact .inl (List.mem_append_left _ old)
      · exact .inr (.inl lost)
      · by_cases here : other = worker
        · subst here
          cases held.symm.trans found
          refine .inl (List.mem_append_right _ (Option.mem_toList.mpr ?_))
          exact SendPhase.sent.inj sent
        · refine .inr (.inr ⟨other, call, ?_, sent⟩)
          exact Dict.get?_pop.trans ((if_neg here).trans found)
    spaced := apart.spaced }

end DeliveryRun.Apart

/-- A step that passes no check too early keeps deliveries apart. -/
theorem DeliveryRun.Apart.next {event : DeliveryEvent} (apart : run.Apart)
    (inRange : InRange run.clock) (settled : ∀ worker entry request,
      event = .check worker entry request →
        entry.passesCheck request run.clock run.store = .ok true →
          ShortCooldown entry.cooldownSeconds ∧
            Settled run request.dedupeKey entry.cooldownSeconds)
    (stepped : run.next event = some after) : after.Apart := by
  cases event with
  | check worker entry request =>
      simp only [DeliveryRun.next] at stepped
      split at stepped
      next => cases stepped
      next idle =>
        cases stepped
        exact apart.check idle (settled worker entry request rfl)
  | send worker delivers raises =>
      simp only [DeliveryRun.next] at stepped
      split at stepped
      next held =>
        cases stepped
        exact apart.send held delivers raises
      next => cases stepped
  | record worker =>
      simp only [DeliveryRun.next] at stepped
      split at stepped
      next held =>
        cases stepped
        exact apart.record held inRange
      next => cases stepped
  | crash worker =>
      cases stepped
      exact apart.crash worker

/-- Deliveries with one key are a cooldown apart while every call that passes its check finds its
key settled. -/
theorem deliveries_spaced (reachable : deliverySystem.ReachableVia ChecksSettled run) :
    Spaced run.deliveries := by
  have apart : run.Apart := by
    refine reachable.invariant DeliveryRun.Apart ?_ ?_
    · rintro source ⟨_, idle, silent, unrecorded, _⟩
      refine ⟨?_, ?_, ?_, ?_, ?_, ?_⟩
      · intro worker call held
        rw [idle] at held
        cases held
      · intro worker call other otherCall held
        rw [idle] at held
        cases held
      · intro worker call delivery held
        rw [idle] at held
        cases held
      · rw [unrecorded]
        exact fun _ member => absurd member List.not_mem_nil
      · rw [silent]
        exact fun _ member => absurd member List.not_mem_nil
      · rw [silent]
        exact .nil
    · rintro before ⟨now, event⟩ after apart allowed ⟨later, inRange, stepped⟩
      refine (apart.wait later).next inRange ?_ stepped
      rintro worker entry request rfl
      exact allowed
  exact apart.spaced

/-- No process, on a new store. -/
def idleRun : DeliveryRun := ⟨.empty, .empty, [], [], [], 0⟩

/-- The server with the default cooldown and a notifier. -/
def eventsEntry : EntryPoint := .agentEvents 300 true

def makeRequest : NotificationRequest := (commandCall ["make"] 0).request

/-- A call that passes its check goes on to send. -/
theorem DeliveryRun.next_check (idle : worker ∉ run.calls.keys)
    (passes : entry.passesCheck request run.clock run.store = .ok true) :
    run.next (.check worker entry request) =
      some { run with calls := run.calls.set worker ⟨request, entry, .due⟩ } := by
  unfold DeliveryRun.next
  dsimp only
  rw [if_neg idle]
  unfold DeliveryRun.check
  rw [passes]

/-- What a process delivers of it at a time. -/
def makeDelivery (worker : Nat) (time : Int) : Delivery :=
  ⟨worker, makeRequest.dedupeKey, 300, time⟩

/-- A process has delivered and recorded it. -/
def recordedRun : DeliveryRun where
  store := SQLiteNotificationStore.empty.recordSent makeRequest.dedupeKey "succeeded" 0
  calls := .empty
  deliveries := [makeDelivery 0 0]
  recorded := [makeDelivery 0 0]
  lost := []
  clock := 0

/-- Two calls under one key of which each is recorded before the next one checks are a
guarded run. -/
theorem recordedRun_reachable : deliverySystem.ReachableVia ChecksSettled recordedRun := by
  have inRange : InRange 0 := by decide
  let checked := idleRun.check 0 eventsEntry makeRequest
  let sent := checked.send 0 makeRequest eventsEntry true false
  have checks : deliverySystem.ReachesVia ChecksSettled idleRun checked := by
    refine .step (0, .check 0 eventsEntry makeRequest) .refl (fun _ => ⟨by decide, ?_, ?_⟩)
      ⟨Int.le_refl _, inRange, rfl⟩
    · intro worker call held
      cases held
    · intro delivery member
      cases member
  have sends : deliverySystem.ReachesVia ChecksSettled idleRun sent :=
    checks.trans (.step (0, .send 0 true false) .refl trivial ⟨Int.le_refl _, inRange, rfl⟩)
  have records : deliverySystem.ReachesVia ChecksSettled idleRun recordedRun :=
    sends.trans (.step (0, .record 0) .refl trivial ⟨Int.le_refl _, inRange, rfl⟩)
  exact ⟨idleRun, ⟨rfl, rfl, rfl, rfl, rfl⟩, records⟩

/-- A notification is delivered again when the cooldown is over. -/
theorem repeated_delivery_spaced : ∃ run, deliverySystem.ReachableVia ChecksSettled run ∧
    run.deliveries = [makeDelivery 0 0, makeDelivery 1 300000000] ∧ Spaced run.deliveries := by
  have inRange : InRange 300000000 := by decide
  have passes : eventsEntry.passesCheck makeRequest 300000000 recordedRun.store = .ok true := by
    have last : recordedRun.store.LastSent makeRequest.dedupeKey 0 :=
      SQLiteNotificationStore.recordSent_lastSent (by decide)
    unfold EntryPoint.passesCheck eventsEntry
    dsimp only
    rw [SQLiteNotificationStore.shouldSend_of_lastSent last]
    decide
  let due : DeliveryRun := { recordedRun.wait 300000000 with
    calls := recordedRun.calls.set 1 ⟨makeRequest, eventsEntry, .due⟩ }
  let sent := due.send 1 makeRequest eventsEntry true false
  have checked : (recordedRun.wait 300000000).next (.check 1 eventsEntry makeRequest) = some due :=
    DeliveryRun.next_check (by decide) passes
  have settled : Settled (recordedRun.wait 300000000) makeRequest.dedupeKey 300 := by
    constructor
    · intro worker call held
      cases held
    · intro delivery member
      cases member
  have checks : deliverySystem.ReachesVia ChecksSettled recordedRun due :=
    .step (300000000, .check 1 eventsEntry makeRequest) .refl (fun _ => ⟨by decide, settled⟩)
      ⟨by decide, inRange, checked⟩
  have sends : deliverySystem.ReachesVia ChecksSettled recordedRun sent :=
    checks.trans (.step (300000000, .send 1 true false) .refl trivial
      ⟨Int.le_refl _, inRange, rfl⟩)
  have reachable := recordedRun_reachable.trans sends
  exact ⟨sent, reachable, rfl, deliveries_spaced reachable⟩

/-- Two processes that both check before they both deliver. -/
def crossedCalls (request : NotificationRequest) : DeliveryRun :=
  (((idleRun.check 0 eventsEntry request).check 1 eventsEntry request).send 0 request eventsEntry
    true
    false).send 1 request eventsEntry true false

/-- Two calls that both check before either of them records are a run. -/
theorem crossedCalls_reachable (request : NotificationRequest) :
    deliverySystem.Reachable (crossedCalls request) := by
  refine ⟨idleRun, ⟨rfl, rfl, rfl, rfl, rfl⟩, ?_⟩
  have inRange : InRange 0 := by decide
  have one : deliverySystem.Reaches idleRun (idleRun.check 0 eventsEntry request) :=
    .step (0, .check 0 eventsEntry request) .refl trivial ⟨Int.le_refl _, inRange, rfl⟩
  have two := one.trans (.step (0, .check 1 eventsEntry request) .refl trivial
    ⟨Int.le_refl _, inRange, rfl⟩)
  have three := two.trans (.step (0, .send 0 true false) .refl trivial
    ⟨Int.le_refl _, inRange, rfl⟩)
  exact three.trans (.step (0, .send 1 true false) .refl trivial ⟨Int.le_refl _, inRange, rfl⟩)

/-- Two calls about one command that both check before one of them records both deliver. -/
theorem crossed_calls_deliver_twice : ¬ ∀ run, deliverySystem.Reachable run →
    Spaced run.deliveries := by
  intro claim
  have spaced := claim _ (crossedCalls_reachable makeRequest)
  have elapsed := List.rel_of_pairwise_cons spaced List.mem_cons_self rfl
  exact absurd elapsed (by decide)

end Spacing

end LarkBot
