import Mathlib.Logic.Function.Basic
import LarkBot.Foundation.Dict
import LarkBot.Foundation.Run

/-! # The life of the sessions that the manager hosts

`create_session` starts a process, a session of the orchestrator and a gateway, and registers them
last; `close_session` takes a session out of the table and cleans up in three steps, and so does
`close` with each session of its snapshot. What was started is always somebody's to clean up, as
long as no cleanup stops half-way and no creation registers once `close` was called
(`LarkBot.nothing_left_running`).
-/

namespace LarkBot

open Foundation

/-- The awaits of a cleanup. -/
inductive TeardownPhase where
  | closingGateway
  | stoppingProcess
  | closingSession
  deriving DecidableEq

/-- Where `create_session` is suspended. -/
inductive CreatePhase where
  /-- In `process_factory`. -/
  | spawning
  /-- In `wait_listener`. -/
  | listening
  /-- In `create_interactive_session`. -/
  | recording
  /-- In `gateway.start`. -/
  | starting
  /-- In the cleanup of a failed creation, with or without a session. -/
  | failing (phase : TeardownPhase) (recorded : Bool)
  deriving DecidableEq

/-- What a creation started: whether its process runs, its gateway is open, and its session of the
orchestrator is active. -/
structure HostedParts where
  process : Bool
  gateway : Bool
  session : Bool
  deriving DecidableEq

/-- Nothing runs. -/
def HostedParts.ended : HostedParts := ⟨false, false, false⟩

/-- How an await ended. One that raises may have done its work. -/
inductive AwaitResult where
  | returned
  | raised (done : Bool)

/-- The manager, with the calls in flight and what they started; a creation goes by its number, and
so does its session. The lock is held within a step only, so nobody waits for it. -/
structure InteractiveSessionManager where
  started : Bool
  closed : Bool
  sessions : List Nat
  creations : Dict Nat CreatePhase
  /-- Calls of `close_session`, by their session. -/
  closings : Dict Nat TeardownPhase
  /-- The session of its snapshot whose `close_session` is awaited by `close`, with the rest. -/
  closing : Option (Nat × List Nat)
  parts : Nat → HostedParts
  nextCreation : Nat

namespace TeardownPhase

/-- What is left once the await has done its work. -/
def leaves (phase : TeardownPhase) (parts : HostedParts) : HostedParts :=
  match phase with
  | .closingGateway => { parts with gateway := false }
  | .stoppingProcess => { parts with process := false }
  | .closingSession => { parts with session := false }

/-- The next await; a creation that recorded no session closes none. -/
def next? (phase : TeardownPhase) (recorded : Bool) : Option TeardownPhase :=
  match phase with
  | .closingGateway => some .stoppingProcess
  | .stoppingProcess => if recorded then some .closingSession else none
  | .closingSession => none

/-- What is left after an await that ended like this, and the next one if it returned. -/
def resume (phase : TeardownPhase) (recorded : Bool) (parts : HostedParts) :
    AwaitResult → HostedParts × Option TeardownPhase
  | .returned => (phase.leaves parts, phase.next? recorded)
  | .raised done => (if done then phase.leaves parts else parts, none)

end TeardownPhase

namespace InteractiveSessionManager

def setParts (manager : InteractiveSessionManager) (creation : Nat) (parts : HostedParts) :
    InteractiveSessionManager :=
  { manager with parts := Function.update manager.parts creation parts }

/-- A creation goes on at this await, or returns or raises. -/
def setCreation (manager : InteractiveSessionManager) (creation : Nat) (next : Option CreatePhase) :
    InteractiveSessionManager :=
  { manager with
    creations := match next with
      | some phase => manager.creations.set creation phase
      | none => manager.creations.pop creation }

/-- `create_session`, up to `process_factory`. -/
def create (manager : InteractiveSessionManager) : InteractiveSessionManager :=
  if manager.started && !manager.closed then
    { manager.setCreation manager.nextCreation (some .spawning) with
      nextCreation := manager.nextCreation + 1 }
  else manager

/-- The step of a creation whose await ended. A process or a session whose start raises was not
started. -/
def resumeCreation (manager : InteractiveSessionManager) (creation : Nat) (phase : CreatePhase)
    (result : AwaitResult) : InteractiveSessionManager :=
  let parts := manager.parts creation
  match phase, result with
  | .spawning, .returned =>
      (manager.setParts creation { parts with process := true }).setCreation creation
        (some .listening)
  | .spawning, .raised _ => manager.setCreation creation none
  | .listening, .returned => manager.setCreation creation (some .recording)
  | .recording, .returned =>
      (manager.setParts creation { parts with session := true }).setCreation creation
        (some .starting)
  | .listening, .raised _ | .recording, .raised _ =>
      manager.setCreation creation (some (.failing .stoppingProcess false))
  | .starting, .returned =>
      let opened := (manager.setParts creation { parts with gateway := true }).setCreation creation
        none
      { opened with sessions := manager.sessions ++ [creation] }
  | .starting, .raised done =>
      (manager.setParts creation { parts with gateway := done }).setCreation creation
        (some (.failing .closingGateway true))
  | .failing phase recorded, result =>
      let (left, next) := phase.resume recorded parts result
      (manager.setParts creation left).setCreation creation (next.map (.failing · recorded))

/-- `self._sessions.pop`. -/
def unregister (manager : InteractiveSessionManager) (session : Nat) :
    InteractiveSessionManager :=
  { manager with sessions := manager.sessions.filter (· ≠ session) }

def closeSession (manager : InteractiveSessionManager) (session : Nat) :
    InteractiveSessionManager :=
  if session ∈ manager.sessions then
    { manager.unregister session with
      closings := manager.closings.set session .closingGateway }
  else manager

/-- The loop of `close`, from here on. -/
def closeRest (manager : InteractiveSessionManager) : List Nat → InteractiveSessionManager
  | [] => { manager with closing := none }
  | session :: rest =>
      if session ∈ manager.sessions then
        { manager.closeSession session with closing := some (session, rest) }
      else manager.closeRest rest

def close (manager : InteractiveSessionManager) : InteractiveSessionManager :=
  if manager.closed then manager
  else { manager with closed := true }.closeRest manager.sessions

/-- A `close_session` returns or raises; `close` goes on if it was its own. -/
def closingEnded (manager : InteractiveSessionManager) (session : Nat) :
    InteractiveSessionManager :=
  let left := { manager with closings := manager.closings.pop session }
  match manager.closing with
  | some (current, rest) => if current = session then left.closeRest rest else left
  | none => left

/-- The step of a `close_session` whose await ended. -/
def resumeClosing (manager : InteractiveSessionManager) (session : Nat) (phase : TeardownPhase)
    (result : AwaitResult) : InteractiveSessionManager :=
  let (left, next) := phase.resume true (manager.parts session) result
  let manager := manager.setParts session left
  match next with
  | some next => { manager with closings := manager.closings.set session next }
  | none => manager.closingEnded session

end InteractiveSessionManager

inductive LifecycleEvent where
  | start
  | create
  | closeSession (session : Nat)
  | close
  | resumeCreation (creation : Nat) (result : AwaitResult)
  | resumeClosing (session : Nat) (result : AwaitResult)
  /-- A process exits by itself. -/
  | exits (creation : Nat)
  /-- A session of the orchestrator ends by other means. -/
  | ends (creation : Nat)

def InteractiveSessionManager.unstarted : InteractiveSessionManager :=
  ⟨false, false, [], .empty, .empty, none, fun _ => .ended, 0⟩

/-- One step. -/
def InteractiveSessionManager.next (manager : InteractiveSessionManager) :
    LifecycleEvent → Option InteractiveSessionManager
  | .start => if manager.closed then none else some { manager with started := true }
  | .create => some manager.create
  | .closeSession session => some (manager.closeSession session)
  | .close => some manager.close
  | .resumeCreation creation result =>
      (manager.creations.get? creation).map fun phase =>
        manager.resumeCreation creation phase result
  | .resumeClosing session result =>
      (manager.closings.get? session).map fun phase => manager.resumeClosing session phase result
  | .exits creation =>
      some (manager.setParts creation { manager.parts creation with process := false })
  | .ends creation =>
      some (manager.setParts creation { manager.parts creation with session := false })

/-- Every order of the calls of a manager and of the ends of their awaits. -/
def lifecycleSystem : System InteractiveSessionManager LifecycleEvent where
  initial manager := manager = .unstarted
  step before event after := before.next event = some after

/-- A cleanup that raises at this await leaves nothing behind. -/
def TeardownPhase.Clears (phase : TeardownPhase) (recorded : Bool) (parts : HostedParts)
    (result : AwaitResult) : Prop :=
  (phase.resume recorded parts result).2 = none →
    (phase.resume recorded parts result).1 = .ended

/-- No cleanup stops half-way, and no creation registers once `close` was called. -/
def TidyStep (manager : InteractiveSessionManager) : LifecycleEvent → Prop
  | .resumeCreation creation result => ∀ phase, manager.creations.get? creation = some phase →
      match phase, result with
      | .starting, .returned => manager.closed = false
      | .failing phase recorded, .raised done =>
          phase.Clears recorded (manager.parts creation) (.raised done)
      | _, _ => True
  | .resumeClosing session (.raised done) => ∀ phase, manager.closings.get? session = some phase →
      phase.Clears true (manager.parts session) (.raised done)
  | _ => True

/-- What a cleanup at this await is going to clear. -/
def TeardownPhase.Covers (phase : TeardownPhase) (recorded : Bool) (parts : HostedParts) : Prop :=
  (recorded = false → parts.session = false) ∧
    match phase with
    | .closingGateway => recorded = true
    | .stoppingProcess => parts.gateway = false
    | .closingSession => parts.gateway = false ∧ parts.process = false

/-- What a creation has started at this await. -/
def CreatePhase.Covers (phase : CreatePhase) (parts : HostedParts) : Prop :=
  match phase with
  | .spawning => parts = .ended
  | .listening | .recording => parts.gateway = false ∧ parts.session = false
  | .starting => True
  | .failing phase recorded => phase.Covers recorded parts

/-- After an await the next one covers what is left, and after the last nothing is. -/
theorem TeardownPhase.Covers.resume {phase : TeardownPhase} {recorded : Bool} {parts : HostedParts}
    {result : AwaitResult} (covers : phase.Covers recorded parts)
    (clears : ∀ done, result = .raised done → phase.Clears recorded parts result) :
    match phase.resume recorded parts result with
    | (left, some next) => next.Covers recorded left
    | (left, none) => left = .ended := by
  cases result with
  | raised done => exact clears done rfl rfl
  | returned =>
      obtain ⟨process, gateway, session⟩ := parts
      obtain ⟨unrecorded, covered⟩ := covers
      cases phase with
      | closingGateway => exact ⟨unrecorded, rfl⟩
      | stoppingProcess =>
          obtain rfl : gateway = false := covered
          cases recorded with
          | true => exact ⟨unrecorded, rfl, rfl⟩
          | false =>
              obtain rfl : session = false := unrecorded rfl
              rfl
      | closingSession =>
          obtain ⟨rfl, rfl⟩ : gateway = false ∧ process = false := covered
          rfl

/-- Nothing has started since. -/
structure HostedParts.Fewer (parts fewer : HostedParts) : Prop where
  process : parts.process = false → fewer.process = false
  gateway : parts.gateway = false → fewer.gateway = false
  session : parts.session = false → fewer.session = false

namespace HostedParts.Fewer

variable {parts fewer : HostedParts}

/-- Of nothing there is nothing less. -/
theorem ended (less : parts.Fewer fewer) (quiet : parts = .ended) : fewer = .ended := by
  subst quiet
  obtain ⟨process, gateway, session⟩ := fewer
  obtain rfl : process = false := less.process rfl
  obtain rfl : gateway = false := less.gateway rfl
  obtain rfl : session = false := less.session rfl
  rfl

/-- A cleanup that covers the parts covers fewer of them. -/
theorem teardown {phase : TeardownPhase} {recorded : Bool} (less : parts.Fewer fewer)
    (covers : phase.Covers recorded parts) : phase.Covers recorded fewer := by
  refine ⟨fun unrecorded => less.session (covers.1 unrecorded), ?_⟩
  have covered := covers.2
  cases phase with
  | closingGateway => exact covered
  | stoppingProcess => exact less.gateway covered
  | closingSession => exact ⟨less.gateway covered.1, less.process covered.2⟩

/-- A creation that covers the parts covers fewer of them. -/
theorem create {phase : CreatePhase} (less : parts.Fewer fewer) (covers : phase.Covers parts) :
    phase.Covers fewer := by
  cases phase with
  | spawning => exact less.ended covers
  | listening | recording => exact ⟨less.gateway covers.1, less.session covers.2⟩
  | starting => trivial
  | failing phase recorded => exact less.teardown covers

end HostedParts.Fewer

/-- An await of a cleanup starts nothing. -/
theorem TeardownPhase.fewer (phase : TeardownPhase) (recorded : Bool) (parts : HostedParts)
    (result : AwaitResult) : parts.Fewer (phase.resume recorded parts result).1 := by
  have leaves : parts.Fewer (phase.leaves parts) := by
    cases phase with
    | closingGateway => exact ⟨id, fun _ => rfl, id⟩
    | stoppingProcess => exact ⟨fun _ => rfl, id, id⟩
    | closingSession => exact ⟨id, id, fun _ => rfl⟩
  cases result with
  | returned => exact leaves
  | raised done =>
      cases done with
      | true => exact leaves
      | false => exact ⟨id, id, id⟩

namespace InteractiveSessionManager

variable {manager after : InteractiveSessionManager}

/-- What a creation started is registered, or somebody's who cleans it up, or has ended. -/
inductive Owned (manager : InteractiveSessionManager) (creation : Nat) : Prop
  | registered (listed : creation ∈ manager.sessions)
  | creating (phase : CreatePhase) (found : manager.creations.get? creation = some phase)
      (covers : phase.Covers (manager.parts creation))
  | closing (phase : TeardownPhase) (found : manager.closings.get? creation = some phase)
      (covers : phase.Covers true (manager.parts creation))
  | ended (quiet : manager.parts creation = .ended)

/-- What `close` has still to take out of the table. -/
def Remaining (manager : InteractiveSessionManager) : Prop :=
  ∀ session ∈ manager.sessions, ∃ current rest,
    manager.closing = some (current, rest) ∧ session ∈ rest

structure Accounted (manager : InteractiveSessionManager) : Prop where
  owned : ∀ creation, manager.Owned creation
  created : ∀ creation phase, manager.creations.get? creation = some phase →
    phase.Covers (manager.parts creation) ∧ creation < manager.nextCreation
  opened : manager.closed = false → manager.closing = none
  remaining : manager.closed = true → manager.Remaining
  fresh : ∀ creation, manager.nextCreation ≤ creation → manager.parts creation = .ended

variable {creation : Nat}

/-- A step that leaves what owns a creation. -/
theorem Owned.kept (owned : manager.Owned creation)
    (sessions : creation ∈ manager.sessions → creation ∈ after.sessions)
    (creations : after.creations.get? creation = manager.creations.get? creation)
    (closings : after.closings.get? creation = manager.closings.get? creation)
    (parts : after.parts creation = manager.parts creation) : after.Owned creation := by
  cases owned with
  | registered listed => exact .registered (sessions listed)
  | creating phase found covers => exact .creating phase (creations.trans found) (parts ▸ covers)
  | closing phase found covers => exact .closing phase (closings.trans found) (parts ▸ covers)
  | ended quiet => exact .ended (parts.trans quiet)

/-- A cleanup from its first await on covers everything. -/
theorem covers_closingGateway (parts : HostedParts) :
    TeardownPhase.closingGateway.Covers true parts :=
  ⟨fun recorded => absurd recorded.symm Bool.false_ne_true, rfl⟩

/-- A session that is taken out of the table is cleaned up by who took it. -/
theorem Owned.closeSession (owned : manager.Owned creation) (session : Nat) :
    (manager.closeSession session).Owned creation := by
  unfold InteractiveSessionManager.closeSession
  split
  next =>
    by_cases same : creation = session
    · subst same
      exact .closing .closingGateway (Dict.get?_set.trans (if_pos rfl)) (covers_closingGateway _)
    · exact owned.kept (fun listed => List.mem_filter.mpr ⟨listed, decide_eq_true same⟩) rfl
        (Dict.get?_set.trans (if_neg same)) rfl
  next => exact owned

/-- Taking the next session of a snapshot leaves every creation with an owner. -/
theorem Owned.closeRest (owned : manager.Owned creation) (rest : List Nat) :
    (manager.closeRest rest).Owned creation := by
  induction rest with
  | nil => exact owned.kept id rfl rfl rfl
  | cons session rest ih =>
      unfold InteractiveSessionManager.closeRest
      split
      next => exact (owned.closeSession session).kept id rfl rfl rfl
      next => exact ih

/-- A step of `close` or `close_session` that starts nothing and closes nothing yet. -/
structure Closes (manager after : InteractiveSessionManager) : Prop where
  closed : after.closed = manager.closed
  creations : after.creations = manager.creations
  parts : after.parts = manager.parts
  next : after.nextCreation = manager.nextCreation

/-- `close_session` takes a session over to be cleaned up, and starts nothing. -/
theorem closes_closeSession (session : Nat) : manager.Closes (manager.closeSession session) := by
  unfold closeSession
  split
  next => exact ⟨rfl, rfl, rfl, rfl⟩
  next => exact ⟨rfl, rfl, rfl, rfl⟩

/-- Every session of a snapshot that is taken over is one to be cleaned up. -/
theorem closes_closeRest (rest : List Nat) : manager.Closes (manager.closeRest rest) := by
  induction rest with
  | nil => exact ⟨rfl, rfl, rfl, rfl⟩
  | cons session rest ih =>
      unfold closeRest
      split
      next =>
        obtain ⟨closed, creations, parts, next⟩ := @closes_closeSession manager session
        exact ⟨closed, creations, parts, next⟩
      next => exact ih

/-- `close` awaits the end of a session, and has all that are left in the rest of its snapshot. -/
theorem remaining_closeRest {rest : List Nat}
    (covered : ∀ session ∈ manager.sessions, session ∈ rest) :
    (manager.closeRest rest).Remaining := by
  induction rest with
  | nil => exact fun session listed => absurd (covered session listed) List.not_mem_nil
  | cons first rest ih =>
      unfold closeRest
      split
      next listed =>
        intro session member
        refine ⟨first, rest, rfl, ?_⟩
        unfold closeSession at member
        rw [if_pos listed] at member
        obtain ⟨old, apart⟩ := List.mem_filter.mp member
        exact (List.mem_cons.mp (covered session old)).resolve_left (of_decide_eq_true apart)
      next unlisted =>
        apply ih
        intro session member
        apply (List.mem_cons.mp (covered session member)).resolve_left
        rintro rfl
        exact unlisted member

/-- Taking sessions over keeps all parts accounted for. -/
theorem Accounted.closes (accounted : manager.Accounted) (closes : manager.Closes after)
    (owned : ∀ creation, after.Owned creation)
    (opened : after.closed = false → after.closing = none)
    (remaining : after.closed = true → after.Remaining) : after.Accounted := by
  refine ⟨owned, ?_, opened, remaining, ?_⟩
  · rw [closes.creations, closes.parts, closes.next]
    exact accounted.created
  · rw [closes.next, closes.parts]
    exact accounted.fresh

/-- The first call of `close` keeps all parts accounted for, and takes the snapshot over. -/
theorem Accounted.close (accounted : manager.Accounted) : manager.close.Accounted := by
  unfold InteractiveSessionManager.close
  split
  next => exact accounted
  next =>
    obtain ⟨closed, creations, parts, next⟩ :=
      @closes_closeRest { manager with closed := true } manager.sessions
    refine ⟨fun creation => ?_, ?_, fun unclosed => ?_, fun _ => ?_, ?_⟩
    · have marked : ({ manager with closed := true } : InteractiveSessionManager).Owned creation :=
        (accounted.owned creation).kept id rfl rfl rfl
      exact marked.closeRest _
    · rw [creations, parts, next]
      exact accounted.created
    · rw [closed] at unclosed
      cases unclosed
    · exact remaining_closeRest fun _ listed => listed
    · rw [next, parts]
      exact accounted.fresh

/-- A call of `close_session` keeps all parts accounted for. -/
theorem Accounted.closeSession (accounted : manager.Accounted) (session : Nat) :
    (manager.closeSession session).Accounted := by
  refine accounted.closes (closes_closeSession session)
    (fun creation => (accounted.owned creation).closeSession session) ?_ ?_
  · unfold InteractiveSessionManager.closeSession
    split
    next => exact accounted.opened
    next => exact accounted.opened
  · unfold InteractiveSessionManager.closeSession
    split
    next =>
      intro closed other listed
      exact accounted.remaining closed other (List.mem_filter.mp listed).1
    next => exact accounted.remaining

/-- A creation that begins has started nothing yet. -/
theorem Accounted.create (accounted : manager.Accounted) : manager.create.Accounted := by
  unfold InteractiveSessionManager.create
  split
  next =>
    have found : ∀ creation, (manager.creations.set manager.nextCreation .spawning).get? creation =
        if creation = manager.nextCreation then some .spawning
        else manager.creations.get? creation := fun creation => Dict.get?_set
    refine ⟨fun creation => ?_, fun creation phase held => ?_, accounted.opened,
      accounted.remaining, fun creation later => accounted.fresh creation (Nat.le_of_succ_le later)⟩
    · by_cases same : creation = manager.nextCreation
      · exact .ended (accounted.fresh creation (Nat.le_of_eq same.symm))
      · exact (accounted.owned creation).kept id ((found creation).trans (if_neg same)) rfl rfl
    · have located : (manager.creations.set manager.nextCreation .spawning).get? creation =
          some phase := held
      rw [found] at located
      split at located
      next same =>
        cases located
        refine ⟨accounted.fresh creation (Nat.le_of_eq same.symm), ?_⟩
        exact Nat.lt_succ_of_le (Nat.le_of_eq same)
      next =>
        obtain ⟨covers, known⟩ := accounted.created creation phase located
        exact ⟨covers, Nat.lt_succ_of_lt known⟩
  next => exact accounted

/-- Setting the parts of one creation leaves those of the others. -/
theorem parts_setParts (parts : HostedParts) (other : Nat) :
    (manager.setParts creation parts).parts other =
      if other = creation then parts else manager.parts other := by
  unfold setParts
  dsimp only
  rw [Function.update_apply]

/-- A creation that starts nothing stays owned. -/
theorem Owned.fewer (owned : manager.Owned creation) {fewer : HostedParts}
    (less : (manager.parts creation).Fewer fewer) :
    (manager.setParts creation fewer).Owned creation := by
  have stored := (@parts_setParts manager creation fewer creation).trans (if_pos rfl)
  cases owned with
  | registered listed => exact .registered listed
  | creating phase found covers => exact .creating phase found (stored.symm ▸ less.create covers)
  | closing phase found covers => exact .closing phase found (stored.symm ▸ less.teardown covers)
  | ended quiet => exact .ended (stored.trans (less.ended quiet))

/-- So does the manager. -/
theorem Accounted.fewer (accounted : manager.Accounted) {fewer : HostedParts}
    (less : (manager.parts creation).Fewer fewer) :
    (manager.setParts creation fewer).Accounted := by
  refine ⟨fun other => ?_, fun other phase held => ?_, accounted.opened, accounted.remaining,
    fun other later => ?_⟩
  · by_cases same : other = creation
    · subst same
      exact (accounted.owned other).fewer less
    · exact (accounted.owned other).kept id rfl rfl ((parts_setParts _ _).trans (if_neg same))
  · obtain ⟨covers, known⟩ := accounted.created other phase held
    refine ⟨?_, known⟩
    rw [parts_setParts]
    split
    next same =>
      subst same
      exact less.create covers
    next => exact covers
  · rw [parts_setParts]
    split
    next same =>
      subst same
      exact less.ended (accounted.fresh other later)
    next => exact accounted.fresh other later

/-- A `close_session` that ends leaves nothing behind, and lets `close` go on. -/
theorem Accounted.closingEnded (accounted : manager.Accounted) {session : Nat}
    (cleared : ({ manager with closings := manager.closings.pop session } :
      InteractiveSessionManager).Owned session) : (manager.closingEnded session).Accounted := by
  have left : ({ manager with closings := manager.closings.pop session } :
      InteractiveSessionManager).Accounted := by
    refine ⟨fun creation => ?_, accounted.created, accounted.opened, accounted.remaining,
      accounted.fresh⟩
    by_cases same : creation = session
    · exact same ▸ cleared
    · exact (accounted.owned creation).kept id rfl (Dict.get?_pop.trans (if_neg same)) rfl
  unfold InteractiveSessionManager.closingEnded
  dsimp only
  split
  next current rest awaited =>
    split
    next =>
      refine left.closes (closes_closeRest rest) (fun creation => (left.owned creation).closeRest _)
        (fun unclosed => ?_) fun closed => ?_
      · rw [(closes_closeRest rest).closed] at unclosed
        have idle := accounted.opened unclosed
        rw [awaited] at idle
        cases idle
      · rw [(closes_closeRest rest).closed] at closed
        apply remaining_closeRest
        intro other listed
        obtain ⟨_, snapshot, same, member⟩ := accounted.remaining closed other listed
        rw [awaited] at same
        cases same
        exact member
    next => exact left
  next => exact left

/-- An await of a cleanup that ends keeps all parts accounted for. -/
theorem Accounted.resumeClosing (accounted : manager.Accounted) {session : Nat}
    {result : AwaitResult} (tidy : TidyStep manager (.resumeClosing session result))
    {phase : TeardownPhase} (found : manager.closings.get? session = some phase) :
    (manager.resumeClosing session phase result).Accounted := by
  have less := phase.fewer true (manager.parts session) result
  have clears : ∀ done, result = .raised done →
      phase.Clears true (manager.parts session) result := by
    rintro done rfl
    exact tidy phase found
  have resumed : phase.Covers true (manager.parts session) → _ := fun covers =>
    covers.resume clears
  unfold InteractiveSessionManager.resumeClosing
  generalize phase.resume true (manager.parts session) result = step at less resumed
  obtain ⟨left, next⟩ := step
  have fewer : (manager.setParts session left).Accounted := accounted.fewer less
  have stored := (@parts_setParts manager _ left session).trans (if_pos rfl)
  cases next with
  | none =>
      apply fewer.closingEnded
      cases accounted.owned session with
      | registered listed => exact .registered listed
      | creating phase known covers =>
          exact .creating phase known (stored.symm ▸ less.create covers)
      | closing phase known covers =>
          rw [found] at known
          cases known
          exact .ended (stored.trans (resumed covers))
      | ended quiet => exact .ended (stored.trans (less.ended quiet))
  | some next =>
      refine ⟨fun creation => ?_, fewer.created, fewer.opened, fewer.remaining, fewer.fresh⟩
      by_cases same : creation = session
      · subst same
        cases accounted.owned creation with
        | registered listed => exact .registered listed
        | creating phase known covers =>
            exact .creating phase known (stored.symm ▸ less.create covers)
        | closing phase known covers =>
            rw [found] at known
            cases known
            exact .closing next (Dict.get?_set.trans (if_pos rfl)) (stored.symm ▸ resumed covers)
        | ended quiet => exact .ended (stored.trans (less.ended quiet))
      · exact (fewer.owned creation).kept id rfl (Dict.get?_set.trans (if_neg same)) rfl

/-- A step of a creation: what it has started is covered by where it goes on, is registered, or has
ended. -/
theorem Accounted.setCreation (accounted : manager.Accounted) (parts : HostedParts)
    (next : Option CreatePhase) (sessions : List Nat) (known : creation < manager.nextCreation)
    (covers : ∀ phase, next = some phase → phase.Covers parts)
    (settled : next = none → creation ∈ sessions ∨ parts = .ended)
    (grows : ∀ session ∈ manager.sessions, session ∈ sessions)
    (registers : manager.closed = true → sessions = manager.sessions) :
    ({ (manager.setParts creation parts).setCreation creation next with sessions } :
      InteractiveSessionManager).Accounted := by
  have found : ∀ other, ((manager.setParts creation parts).setCreation creation
      next).creations.get? other =
        if other = creation then next else manager.creations.get? other := by
    intro other
    cases next with
    | none => exact Dict.get?_pop
    | some phase => exact Dict.get?_set
  refine ⟨fun other => ?_, fun other phase held => ?_, accounted.opened, fun closed => ?_,
    fun other later => ?_⟩
  · by_cases same : other = creation
    · subst same
      have stored := (@parts_setParts manager _ parts other).trans (if_pos rfl)
      cases goes : next with
      | none =>
          rcases settled goes with listed | quiet
          · exact .registered listed
          · exact .ended (stored.trans quiet)
      | some phase =>
          subst goes
          exact .creating phase ((found other).trans (if_pos rfl)) (stored.symm ▸ covers phase rfl)
    · exact (accounted.owned other).kept (grows other) ((found other).trans (if_neg same)) rfl
        ((parts_setParts parts other).trans (if_neg same))
  · have located := (found other).symm.trans held
    split at located
    next same =>
      subst same
      have stored := (@parts_setParts manager _ parts other).trans (if_pos rfl)
      exact ⟨stored.symm ▸ covers phase located, known⟩
    next apart =>
      obtain ⟨held, counted⟩ := accounted.created other phase located
      have stored := (@parts_setParts manager _ parts other).trans (if_neg apart)
      exact ⟨stored.symm ▸ held, counted⟩
  · intro session listed
    exact accounted.remaining closed session (registers closed ▸ listed)
  · have apart : other ≠ creation := fun same => Nat.not_le_of_lt known (same ▸ later)
    exact (parts_setParts parts other).trans
      ((if_neg apart).trans (accounted.fresh other later))

/-- A creation that goes on covers what it has started. -/
theorem Accounted.goesOn (accounted : manager.Accounted) (known : creation < manager.nextCreation)
    {parts : HostedParts} {phase : CreatePhase} (covers : phase.Covers parts) :
    ((manager.setParts creation parts).setCreation creation (some phase)).Accounted := by
  refine accounted.setCreation parts (some phase) manager.sessions known (fun next goes => ?_)
    (fun ends => ?_) (fun _ => id) fun _ => rfl
  · cases goes
    exact covers
  · cases ends

/-- A creation that raises leaves nothing behind. -/
theorem Accounted.gaveUp (accounted : manager.Accounted) (known : creation < manager.nextCreation)
    {parts : HostedParts} (quiet : parts = .ended) :
    ((manager.setParts creation parts).setCreation creation none).Accounted := by
  refine accounted.setCreation parts none manager.sessions known (fun next goes => ?_)
    (fun _ => .inr quiet) (fun _ => id) fun _ => rfl
  cases goes

/-- Setting the parts that are there changes nothing. -/
theorem setParts_self : manager.setParts creation (manager.parts creation) = manager := by
  unfold setParts
  rw [Function.update_eq_self]

/-- An await of a creation that ends keeps all parts accounted for. -/
theorem Accounted.resumeCreation (accounted : manager.Accounted) {result : AwaitResult}
    (tidy : TidyStep manager (.resumeCreation creation result)) {phase : CreatePhase}
    (found : manager.creations.get? creation = some phase) :
    (manager.resumeCreation creation phase result).Accounted := by
  obtain ⟨covers, known⟩ := accounted.created creation phase found
  have tidy := tidy phase found
  have goesOn : ∀ {phase : CreatePhase}, phase.Covers (manager.parts creation) →
      (manager.setCreation creation (some phase)).Accounted := by
    intro phase covers
    have stepped := accounted.goesOn known covers
    rw [setParts_self] at stepped
    exact stepped
  cases phase with
  | spawning =>
      have quiet : manager.parts creation = .ended := covers
      cases result with
      | raised done =>
          have stepped := accounted.gaveUp known quiet
          rw [setParts_self] at stepped
          exact stepped
      | returned =>
          apply accounted.goesOn known
          rw [quiet]
          exact ⟨rfl, rfl⟩
  | listening =>
      cases result with
      | raised done => exact goesOn ⟨fun _ => covers.2, covers.1⟩
      | returned => exact goesOn covers
  | recording =>
      cases result with
      | raised done => exact goesOn ⟨fun _ => covers.2, covers.1⟩
      | returned => exact accounted.goesOn known trivial
  | starting =>
      cases result with
      | raised done => exact accounted.goesOn known (covers_closingGateway _)
      | returned =>
          refine accounted.setCreation _ none _ known (fun next goes => ?_)
            (fun _ => .inl (List.mem_append_right _ List.mem_cons_self))
            (fun _ => List.mem_append_left _) fun closed => ?_
          · cases goes
          · have opened : manager.closed = false := tidy
            rw [closed] at opened
            cases opened
  | failing phase recorded =>
      have clears : ∀ done, result = .raised done →
          phase.Clears recorded (manager.parts creation) result := by
        rintro done rfl
        exact tidy
      have resumed := TeardownPhase.Covers.resume covers clears
      unfold InteractiveSessionManager.resumeCreation
      dsimp only
      generalize phase.resume recorded (manager.parts creation) result = step at resumed
      obtain ⟨left, next⟩ := step
      cases next with
      | none => exact accounted.gaveUp known resumed
      | some next => exact accounted.goesOn known resumed

/-- Every event of a tidy run keeps all parts accounted for. -/
theorem Accounted.next {event : LifecycleEvent} (accounted : manager.Accounted)
    (tidy : TidyStep manager event) (stepped : manager.next event = some after) :
    after.Accounted := by
  cases event with
  | start =>
      simp only [InteractiveSessionManager.next] at stepped
      split at stepped
      next => cases stepped
      next =>
        cases stepped
        exact ⟨fun creation => (accounted.owned creation).kept id rfl rfl rfl, accounted.created,
          accounted.opened, accounted.remaining, accounted.fresh⟩
  | create =>
      cases stepped
      exact accounted.create
  | closeSession session =>
      cases stepped
      exact accounted.closeSession session
  | close =>
      cases stepped
      exact accounted.close
  | resumeCreation creation result =>
      obtain ⟨phase, found, rfl⟩ := Option.map_eq_some_iff.mp stepped
      exact accounted.resumeCreation tidy found
  | resumeClosing session result =>
      obtain ⟨phase, found, rfl⟩ := Option.map_eq_some_iff.mp stepped
      exact accounted.resumeClosing tidy found
  | exits creation =>
      cases stepped
      exact accounted.fewer ⟨fun _ => rfl, id, id⟩
  | ends creation =>
      cases stepped
      exact accounted.fewer ⟨id, id, fun _ => rfl⟩

/-- In every state that a tidy run reaches all parts are accounted for. -/
theorem accounted_of_reachable (reachable : lifecycleSystem.ReachableVia TidyStep manager) :
    manager.Accounted := by
  refine reachable.invariant Accounted ?_ fun before event after accounted tidy stepped =>
    accounted.next tidy stepped
  rintro first rfl
  refine ⟨fun creation => .ended rfl, fun creation phase held => ?_, fun _ => rfl, fun closed => ?_,
    fun _ _ => rfl⟩
  · cases held
  · cases closed

end InteractiveSessionManager

open InteractiveSessionManager

/-- Once `close` and all creations have ended, no session is registered, and what still runs is
being cleaned up by a `close_session` in flight. -/
theorem nothing_left_running {manager : InteractiveSessionManager}
    (reachable : lifecycleSystem.ReachableVia TidyStep manager) (closed : manager.closed = true)
    (returned : manager.closing = none) (created : manager.creations = .empty) :
    manager.sessions = [] ∧ ∀ creation, manager.parts creation = .ended ∨
      ∃ phase, manager.closings.get? creation = some phase := by
  have accounted := accounted_of_reachable reachable
  have unregistered : ∀ session, session ∉ manager.sessions := by
    intro session listed
    obtain ⟨current, rest, awaited, _⟩ := accounted.remaining closed session listed
    rw [returned] at awaited
    cases awaited
  refine ⟨List.eq_nil_iff_forall_not_mem.mpr unregistered, fun creation => ?_⟩
  cases accounted.owned creation with
  | registered listed => exact absurd listed (unregistered creation)
  | creating phase found covers =>
      rw [created] at found
      cases found
  | closing phase found covers => exact .inr ⟨phase, found⟩
  | ended quiet => exact .inl quiet

/-- A creation whose awaits all return. -/
def createdEvents : List LifecycleEvent :=
  List.replicate 4 (.resumeCreation 0 .returned)

/-- A session that is created before `close` is called, and closed by it. -/
def hostedLife : List LifecycleEvent :=
  [.start, .create] ++ createdEvents ++ .close :: List.replicate 3 (.resumeClosing 0 .returned)

/-- `close` cleans up what was registered before it. -/
theorem registered_session_closed : ∃ manager,
    System.follow InteractiveSessionManager.next (fun _ _ => true) .unstarted hostedLife =
      some manager ∧ manager.sessions = [] ∧ ∀ creation, manager.parts creation = .ended ∨
        ∃ phase, manager.closings.get? creation = some phase := by
  have returns : ∀ manager event, (match event with
      | LifecycleEvent.resumeCreation _ .returned => !manager.closed
      | .resumeCreation _ (.raised _) | .resumeClosing _ (.raised _) => false
      | _ => true) = true → TidyStep manager event := by
    intro manager event allowed
    unfold TidyStep
    split
    next =>
      intro phase _
      split
      next =>
        cases closed : manager.closed with
        | false => rfl
        | true =>
            rw [closed] at allowed
            cases allowed
      next => cases allowed
      next => trivial
    next => cases allowed
    next => trivial
  refine ⟨_, rfl, ?_⟩
  have reached : lifecycleSystem.ReachableVia TidyStep _ :=
    ⟨.unstarted, rfl, System.reachesVia_of_follow (fun _ _ _ => id) returns
      (rfl : System.follow InteractiveSessionManager.next _ .unstarted hostedLife = some _)⟩
  exact nothing_left_running reached rfl rfl rfl

/-- A creation that is under way when `close` is called registers its session after it. -/
theorem late_session_left : ¬ ∀ manager, lifecycleSystem.Reachable manager →
    manager.closed = true → manager.closing = none → manager.creations = .empty →
      manager.closings = .empty →
        manager.sessions = [] ∧ ∀ creation, manager.parts creation = .ended := by
  intro claim
  have reached : ∀ {manager}, System.follow InteractiveSessionManager.next (fun _ _ => true)
      .unstarted ([.start, .create, .close] ++ createdEvents) = some manager →
        lifecycleSystem.Reachable manager := fun followed =>
    ⟨.unstarted, rfl, System.reachesVia_of_follow (fun _ _ _ => id) (fun _ _ _ => trivial) followed⟩
  have none := (claim _ (reached rfl) rfl rfl rfl rfl).1
  cases none

end LarkBot
