import LarkBot.Foundation.Run

/-! # Acquired resources of the probe

`_acquire_resource` awaits a shielded acquisition. A caller that is cancelled waits for the
acquisition a while, cancels it and waits again, and hands a resource that it gets to the cleanup;
a resource that arrives after that is cleaned up by a callback. A resource has one owner at most in
every run, and it has one as long as the caller is not cancelled again in one of the two waits
(`LarkBot.acquired_once`).
-/

namespace LarkBot

open Foundation

/-- Where `_acquire_resource` is suspended: in the first await, in the `wait_for`, in the wait for
the cancelled acquisition, in the cleanup, or not at all. -/
inductive AcquirePhase where
  | acquiring
  | bounded
  | stopping
  | cleaning
  | ended
  deriving DecidableEq

/-- A call of `_acquire_resource`. The acquisition ends with a resource or with an exception, which
may be a `TimeoutError`. -/
structure AcquireCall (ρ : Type*) where
  phase : AcquirePhase
  acquisition : Option (Except Bool ρ)
  /-- The caller is cancelled and has not gone on since. -/
  interrupted : Bool
  /-- The time of the wait is up. -/
  expired : Bool
  /-- The caller was cancelled, or the time of its wait was up, before the acquisition ended. -/
  overtaken : Bool
  /-- The callback of `_schedule_late_cleanup` is due. -/
  lateCleanup : Bool
  loopOpen : Bool
  returned : Option ρ
  /-- What the cleanup was called with. -/
  cleaned : List ρ

inductive AcquireEvent (ρ : Type*) where
  /-- The acquisition ends. -/
  | complete (result : Except Bool ρ)
  /-- The caller is cancelled. -/
  | cancel
  /-- The timer of a wait fires. -/
  | expire
  /-- The caller goes on. -/
  | wake
  /-- The callback of the acquisition runs. -/
  | callback
  | closeLoop

namespace AcquireCall

variable {ρ : Type*}

def fresh : AcquireCall ρ := ⟨.acquiring, none, false, false, false, false, true, none, []⟩

/-- `await cleanup(resource)`. -/
def cleanUp (call : AcquireCall ρ) (resource : ρ) : AcquireCall ρ :=
  { call with phase := .cleaning, cleaned := call.cleaned ++ [resource] }

/-- The call raises. -/
def raise (call : AcquireCall ρ) : AcquireCall ρ := { call with phase := .ended }

/-- The acquisition is cancelled and the caller waits for it. -/
def stop (call : AcquireCall ρ) : AcquireCall ρ :=
  { call with phase := .stopping, expired := false }

/-- What the `wait_for` gives once the acquisition has ended. -/
def afterWait (call : AcquireCall ρ) : Except Bool ρ → AcquireCall ρ
  | .ok resource => call.cleanUp resource
  | .error true => call.stop
  | .error false => call.raise

/-- The handler of the first cancellation; a `wait_for` that has its result does not suspend. -/
def enterWait (call : AcquireCall ρ) : AcquireCall ρ :=
  match call.acquisition with
  | none => { call with phase := .bounded, expired := false }
  | some result => call.afterWait result

/-- The caller goes on, if what it awaits is done or it is cancelled. A `wait_for` whose caller is
cancelled, or whose time is up, after the acquisition ended gives the result or loses it
(`keepsResult`), as the version of Python has it; no version gives a result that came after that. -/
def wake? (keepsResult : Bool) (call : AcquireCall ρ) : Option (AcquireCall ρ) :=
  let next := { call with interrupted := false }
  match call.phase with
  | .acquiring =>
      if call.interrupted then some next.enterWait
      else
        match call.acquisition with
        | none => none
        | some (.ok resource) => some { next with phase := .ended, returned := some resource }
        | some (.error _) => some next.raise
  | .bounded =>
      let undisturbed := !call.interrupted && !call.expired
      match call.acquisition, undisturbed || keepsResult && !call.overtaken with
      | some result, true => some (next.afterWait result)
      | _, _ =>
          if call.interrupted then some next.raise
          else if call.expired then some next.stop
          else none
  | .stopping =>
      if call.interrupted then some next.raise
      else
        match call.acquisition with
        | none => if call.expired then some { next.raise with lateCleanup := true } else none
        | some (.ok resource) => some (next.cleanUp resource)
        | some (.error _) => some next.raise
  | .cleaning => some next.raise
  | .ended => none

/-- `cleanup_when_done`. -/
def callback? (call : AcquireCall ρ) : Option (AcquireCall ρ) :=
  match call.lateCleanup, call.acquisition with
  | true, some result =>
      let next := { call with lateCleanup := false }
      match result, call.loopOpen with
      | .ok resource, true => some { next with cleaned := call.cleaned ++ [resource] }
      | _, _ => some next
  | _, _ => none

/-- One step; a closed loop runs nothing but what it had due. -/
def next (keepsResult : Bool) (call : AcquireCall ρ) : AcquireEvent ρ → Option (AcquireCall ρ)
  | .complete result =>
      if call.loopOpen ∧ call.acquisition.isNone then
        some { call with acquisition := result, overtaken := call.interrupted || call.expired }
      else none
  | .cancel =>
      if call.loopOpen ∧ call.phase ≠ .ended then some { call with interrupted := true } else none
  | .expire =>
      if call.loopOpen ∧ (call.phase = .bounded ∨ call.phase = .stopping) then
        some { call with expired := true }
      else none
  | .wake => if call.loopOpen then call.wake? keepsResult else none
  | .callback => call.callback?
  | .closeLoop => some { call with loopOpen := false }

/-- Who has the resource: the caller that it was returned to, and the cleanups. -/
def owners (call : AcquireCall ρ) : List ρ := call.returned.toList ++ call.cleaned

end AcquireCall

/-- Every order of what the acquisition, the caller, the timers and the loop do. -/
def acquireSystem (ρ : Type*) (keepsResult : Bool) :
    System (AcquireCall ρ) (AcquireEvent ρ) where
  initial call := call = AcquireCall.fresh
  step before event after := before.next keepsResult event = some after

namespace AcquireCall

variable {ρ : Type*} {keepsResult : Bool} {call after : AcquireCall ρ} {result : Except Bool ρ}

/-- What becomes of the resource: nobody has it while the call waits, then it has an owner, or the
callback is due, or it is lost; with `kept` there is nothing to lose as long as the loop is open. -/
inductive Stage (kept : Prop) (call : AcquireCall ρ) : Prop
  | waiting (phase : call.phase = .acquiring ∨ call.phase = .bounded ∨ call.phase = .stopping)
      (unowned : call.owners = []) (prompt : call.lateCleanup = false)
  | owned (resource : ρ) (acquired : call.acquisition = some (.ok resource))
      (owner : call.owners = [resource]) (phase : call.phase = .cleaning ∨ call.phase = .ended)
      (prompt : call.lateCleanup = false)
  | due (phase : call.phase = .ended) (unowned : call.owners = []) (late : call.lateCleanup = true)
  | lost (phase : call.phase = .ended) (unowned : call.owners = [])
      (prompt : call.lateCleanup = false)
      (without : kept → call.loopOpen = true → ∀ resource,
        call.acquisition ≠ some (.ok resource))

variable {kept : Prop}

/-- Nobody has the resource and no callback is due. -/
structure Unclaimed (call : AcquireCall ρ) : Prop where
  unowned : call.owners = []
  prompt : call.lateCleanup = false

/-- A resource that the caller cleans up has its owner. -/
theorem Unclaimed.cleanUp (unclaimed : call.Unclaimed) {resource : ρ}
    (acquired : call.acquisition = some (.ok resource)) : (call.cleanUp resource).Stage kept := by
  refine .owned resource acquired ?_ (.inl rfl) unclaimed.prompt
  obtain ⟨unreturned, uncleaned⟩ := List.append_eq_nil_iff.mp unclaimed.unowned
  unfold owners AcquireCall.cleanUp
  dsimp only
  rw [unreturned, uncleaned]
  rfl

/-- An error leaves the resource lost only where there is none to lose. -/
theorem Unclaimed.raise (unclaimed : call.Unclaimed)
    (without : kept → ∀ resource, call.acquisition ≠ some (.ok resource)) :
    call.raise.Stage kept :=
  .lost rfl unclaimed.unowned unclaimed.prompt fun asked _ => without asked

/-- A call whose time is up waits for the acquisition that it cancelled. -/
theorem Unclaimed.stop (unclaimed : call.Unclaimed) : call.stop.Stage kept :=
  .waiting (.inr (.inr rfl)) unclaimed.unowned unclaimed.prompt

/-- A wait that ended with the acquisition hands the resource on, or raises where there
is none. -/
theorem Unclaimed.afterWait (unclaimed : call.Unclaimed) (ended : call.acquisition = some result) :
    (call.afterWait result).Stage kept := by
  cases result with
  | ok resource => exact unclaimed.cleanUp ended
  | error timedOut =>
      cases timedOut with
      | true => exact unclaimed.stop
      | false =>
          apply unclaimed.raise
          intro _ resource acquired
          rw [ended] at acquired
          cases acquired

/-- A call that starts its wait waits, or takes what is there already. -/
theorem Unclaimed.enterWait (unclaimed : call.Unclaimed) : call.enterWait.Stage kept := by
  unfold AcquireCall.enterWait
  split
  next => exact .waiting (.inr (.inl rfl)) unclaimed.unowned unclaimed.prompt
  next result ended => exact unclaimed.afterWait ended

end AcquireCall

/-- The caller is not cancelled in a wait whose acquisition has given a resource that the wait loses
by it, and a call that was cancelled in one gets none. -/
def Attended {ρ : Type*} (keepsResult : Bool) (call : AcquireCall ρ) : AcquireEvent ρ → Prop
  | .wake => call.interrupted = true →
      call.phase = .bounded ∧ (keepsResult = false ∨ call.overtaken = true) ∨
          call.phase = .stopping →
        ∀ resource, call.acquisition ≠ some (.ok resource)
  | .complete (.ok _) => call.phase = .ended → call.lateCleanup = true
  | _ => True

namespace AcquireCall

variable {ρ : Type*} {keepsResult : Bool} {call after : AcquireCall ρ} {kept : Prop}

/-- Waking up keeps the resource accounted for while nobody has it. -/
theorem Unclaimed.wake (unclaimed : call.Unclaimed)
    (attended : kept → Attended keepsResult call .wake)
    (phase : call.phase = .acquiring ∨ call.phase = .bounded ∨ call.phase = .stopping)
    (wakes : call.wake? keepsResult = some after) : after.Stage kept := by
  have same : ({ call with interrupted := false } : AcquireCall ρ).Unclaimed :=
    ⟨unclaimed.unowned, unclaimed.prompt⟩
  unfold wake? at wakes
  dsimp only at wakes
  split at wakes
  next =>
    split at wakes
    next =>
      cases wakes
      exact same.enterWait
    next =>
      split at wakes
      next => cases wakes
      next resource acquired =>
        cases wakes
        refine .owned resource acquired ?_ (.inr rfl) unclaimed.prompt
        have uncleaned := (List.append_eq_nil_iff.mp unclaimed.unowned).2
        unfold owners
        dsimp only
        rw [uncleaned]
        rfl
      next failed =>
        cases wakes
        apply same.raise
        intro _ resource acquired
        have other : call.acquisition = some (.ok resource) := acquired
        rw [failed] at other
        cases other
  next bounded =>
    split at wakes
    next result ended _ =>
      cases wakes
      exact same.afterWait ended
    next unsettled =>
      split at wakes
      next interrupted =>
        cases wakes
        apply same.raise
        intro asked resource acquired
        have lossy : keepsResult = false ∨ call.overtaken = true := by
          by_contra given
          rw [not_or, Bool.not_eq_false, Bool.not_eq_true] at given
          apply unsettled _ acquired
          rw [given.1, given.2]
          exact Bool.or_true _
        exact attended asked interrupted (.inl ⟨bounded, lossy⟩) resource acquired
      next =>
        split at wakes
        next =>
          cases wakes
          exact same.stop
        next => cases wakes
  next stopping =>
    split at wakes
    next interrupted =>
      cases wakes
      exact same.raise fun asked => attended asked interrupted (.inr stopping)
    next =>
      split at wakes
      next =>
        split at wakes
        next =>
          cases wakes
          exact .due rfl unclaimed.unowned rfl
        next => cases wakes
      next resource acquired =>
        cases wakes
        exact same.cleanUp acquired
      next failed =>
        cases wakes
        apply same.raise
        intro _ resource acquired
        have other : call.acquisition = some (.ok resource) := acquired
        rw [failed] at other
        cases other
  next cleaning =>
    rw [cleaning] at phase
    rcases phase with other | other | other <;> cases other
  next => cases wakes

/-- Waking up keeps the resource accounted for at every stage of the call. -/
theorem Stage.wake (stage : call.Stage kept) (attended : kept → Attended keepsResult call .wake)
    (wakes : call.wake? keepsResult = some after) : after.Stage kept := by
  cases stage with
  | waiting phase unowned prompt =>
      exact Unclaimed.wake ⟨unowned, prompt⟩ attended phase wakes
  | owned resource acquired owner phase prompt =>
      rcases phase with cleaning | ended
      · simp only [wake?, cleaning] at wakes
        cases wakes
        exact .owned resource acquired owner (.inr rfl) prompt
      · simp only [wake?, ended] at wakes
        cases wakes
  | due ended unowned late =>
      simp only [wake?, ended] at wakes
      cases wakes
  | lost ended unowned prompt without =>
      simp only [wake?, ended] at wakes
      cases wakes

/-- The callback gives the resource its owner. -/
theorem owners_callback (unowned : call.owners = []) (late : call.lateCleanup = true)
    (opened : call.loopOpen = true) {resource : ρ}
    (acquired : call.acquisition = some (.ok resource)) :
    ∃ after, call.callback? = some after ∧ after.owners = [resource] := by
  unfold callback?
  rw [late, acquired]
  dsimp only
  rw [opened]
  refine ⟨_, rfl, ?_⟩
  obtain ⟨unreturned, uncleaned⟩ := List.append_eq_nil_iff.mp unowned
  unfold owners
  dsimp only
  rw [unreturned, uncleaned]
  rfl

/-- The callback that was due cleans up what the acquisition brought. -/
theorem Stage.callback (stage : call.Stage kept) (runs : call.callback? = some after) :
    after.Stage kept := by
  have late : call.lateCleanup = true := by
    unfold callback? at runs
    split at runs
    next late _ => exact late
    next => cases runs
  cases stage with
  | waiting phase unowned prompt =>
      rw [late] at prompt
      cases prompt
  | owned resource acquired owner phase prompt =>
      rw [late] at prompt
      cases prompt
  | lost ended unowned prompt without =>
      rw [late] at prompt
      cases prompt
  | due ended unowned _ =>
      unfold callback? at runs
      rw [late] at runs
      split at runs
      next acquired =>
        dsimp only at runs
        split at runs
        next resource opened =>
          cases runs
          refine .owned resource acquired ?_ (.inr ended) rfl
          obtain ⟨unreturned, uncleaned⟩ := List.append_eq_nil_iff.mp unowned
          unfold owners
          dsimp only
          rw [unreturned, uncleaned]
          rfl
        next lost =>
          cases runs
          refine .lost ended unowned rfl fun _ opened resource found => ?_
          have same := acquired.symm.trans found
          cases same
          exact lost resource rfl opened
      next => cases runs

/-- Every event keeps the resource accounted for, one case for each stage. -/
theorem Stage.next {event : AcquireEvent ρ} (stage : call.Stage kept)
    (attended : kept → Attended keepsResult call event)
    (stepped : call.next keepsResult event = some after) : after.Stage kept := by
  cases event with
  | wake =>
      simp only [AcquireCall.next] at stepped
      split at stepped
      next => exact stage.wake attended stepped
      next => cases stepped
  | callback => exact stage.callback stepped
  | complete result =>
      simp only [AcquireCall.next] at stepped
      split at stepped
      next pending =>
        cases stepped
        cases stage with
        | waiting phase unowned prompt => exact .waiting phase unowned prompt
        | owned resource acquired owner phase prompt =>
            rw [acquired] at pending
            cases pending.2
        | due ended unowned late => exact .due ended unowned late
        | lost ended unowned prompt without =>
            refine .lost ended unowned prompt fun asked _ resource found => ?_
            cases found
            have late := attended asked ended
            rw [prompt] at late
            cases late
      next => cases stepped
  | cancel =>
      simp only [AcquireCall.next] at stepped
      split at stepped
      next =>
        cases stepped
        cases stage with
        | waiting phase unowned prompt => exact .waiting phase unowned prompt
        | owned resource acquired owner phase prompt =>
            exact .owned resource acquired owner phase prompt
        | due ended unowned late => exact .due ended unowned late
        | lost ended unowned prompt without => exact .lost ended unowned prompt without
      next => cases stepped
  | expire =>
      simp only [AcquireCall.next] at stepped
      split at stepped
      next =>
        cases stepped
        cases stage with
        | waiting phase unowned prompt => exact .waiting phase unowned prompt
        | owned resource acquired owner phase prompt =>
            exact .owned resource acquired owner phase prompt
        | due ended unowned late => exact .due ended unowned late
        | lost ended unowned prompt without => exact .lost ended unowned prompt without
      next => cases stepped
  | closeLoop =>
      cases stepped
      cases stage with
      | waiting phase unowned prompt => exact .waiting phase unowned prompt
      | owned resource acquired owner phase prompt =>
          exact .owned resource acquired owner phase prompt
      | due ended unowned late => exact .due ended unowned late
      | lost ended unowned prompt _ =>
          exact .lost ended unowned prompt fun _ opened => absurd opened Bool.false_ne_true

/-- In every state that a guarded run reaches the resource is accounted for. -/
theorem stage_of_reachable {guard : AcquireCall ρ → AcquireEvent ρ → Prop}
    (attends : ∀ call event, guard call event → kept → Attended keepsResult call event)
    (reachable : (acquireSystem ρ keepsResult).ReachableVia guard call) : call.Stage kept := by
  refine reachable.invariant (Stage kept) ?_ fun before event after stage allowed stepped =>
    stage.next (attends before event allowed) stepped
  rintro first rfl
  exact .waiting (.inl rfl) rfl rfl

end AcquireCall

open AcquireCall

/-- In every run the resource has one owner at most. While the caller is not cancelled again in one
of the waits, a resource of a call that has ended has its owner, or gets it from the callback. -/
theorem acquired_once {ρ : Type*} (keepsResult : Bool) :
    (∀ call, (acquireSystem ρ keepsResult).Reachable call →
      call.owners = [] ∨
        ∃ resource, call.acquisition = some (.ok resource) ∧ call.owners = [resource]) ∧
    (∀ call, (acquireSystem ρ keepsResult).ReachableVia (Attended keepsResult) call →
      call.phase = .ended → call.loopOpen = true →
        ∀ resource, call.acquisition = some (.ok resource) →
          call.owners = [resource] ∨ call.owners = [] ∧
            ∃ after, call.callback? = some after ∧ after.owners = [resource]) := by
  constructor
  · intro call reachable
    have stage : call.Stage False := stage_of_reachable (fun _ _ _ => False.elim) reachable
    cases stage with
    | waiting _ unowned _ => exact .inl unowned
    | owned resource acquired owner _ _ => exact .inr ⟨resource, acquired, owner⟩
    | due _ unowned _ => exact .inl unowned
    | lost _ unowned _ _ => exact .inl unowned
  · intro call reachable ended opened resource acquired
    have stage : call.Stage True := stage_of_reachable (fun _ _ allowed _ => allowed) reachable
    cases stage with
    | waiting phase _ _ =>
        rw [ended] at phase
        rcases phase with other | other | other <;> cases other
    | owned other found owner _ _ =>
        rw [acquired] at found
        cases found
        exact .inl owner
    | due _ unowned late => exact .inr ⟨unowned, owners_callback unowned late opened acquired⟩
    | lost _ _ _ without => exact absurd acquired (without trivial opened resource)

/-- A caller that is cancelled once, and what it acquires in the time that it waits. -/
def cancelledOnce : AcquireCall String :=
  { AcquireCall.fresh with
    phase := .ended
    acquisition := some (.ok "app-server")
    cleaned := ["app-server"] }

/-- A caller that is cancelled once, before the acquisition it waits for ends, makes a
guarded run. -/
theorem cancelledOnce_reachable :
    (acquireSystem String false).ReachableVia (Attended false) cancelledOnce := by
  refine ⟨AcquireCall.fresh, rfl, ?_⟩
  refine .step .wake (.step .wake (.step (.complete (.ok "app-server")) (.step .wake
    (.step .cancel .refl trivial rfl) ?_ rfl) ?_ rfl) ?_ rfl) ?_ rfl
  · intro _ waits
    rcases waits with ⟨other, _⟩ | other
    · cases other
    · cases other
  · exact fun other => AcquirePhase.noConfusion other
  · exact fun other => absurd other Bool.false_ne_true
  · exact fun other => absurd other Bool.false_ne_true

/-- The acquired process of a caller that is cancelled once is cleaned up. -/
theorem cancelled_caller_cleans_up : cancelledOnce.owners = ["app-server"] ∨
    cancelledOnce.owners = [] ∧
      ∃ after, cancelledOnce.callback? = some after ∧ after.owners = ["app-server"] :=
  (acquired_once false).2 cancelledOnce cancelledOnce_reachable rfl rfl "app-server" rfl

/-- A caller that is cancelled again in the `wait_for` loses what is acquired after it. -/
theorem second_cancellation_loses : ¬ ∀ call : AcquireCall String,
    (acquireSystem String false).Reachable call → call.phase = .ended → call.loopOpen = true →
      ∀ resource, call.acquisition = some (.ok resource) →
        call.owners = [resource] ∨ call.owners = [] ∧
          ∃ after, call.callback? = some after ∧ after.owners = [resource] := by
  intro claim
  have reachable : (acquireSystem String false).Reachable
      { AcquireCall.fresh with phase := .ended, acquisition := some (.ok "app-server") } := by
    have started : (acquireSystem String false).Reachable AcquireCall.fresh := .initial rfl
    have waiting := (started.step .cancel rfl).step .wake rfl
    exact ((waiting.step .cancel rfl).step .wake rfl).step (.complete (.ok "app-server")) rfl
  rcases claim _ reachable rfl rfl "app-server" rfl with owned | ⟨_, after, due, _⟩
  · cases owned
  · cases due

end LarkBot
