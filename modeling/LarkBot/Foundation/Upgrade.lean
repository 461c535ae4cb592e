import Mathlib.Logic.Function.Basic
import LarkBot.Foundation.Run

/-! # Upgrades under a write lock

Any number of connections bring shared data up to date. A connection looks at the data, and if they
are outdated it begins an exclusive transaction, plans what is missing from the data that it sees
there, executes the plan statement by statement and commits. It may be refused the lock and it may
be struck at any point, which undoes its transaction. If the plan for the first data leads to data
for which nothing is left to plan, no reader ever sees anything between the two
(`Foundation.Upgrade.Race.sound`).
-/

namespace Foundation

/-- How a connection judges the data, and what it does about them. -/
structure Upgrade (Data Statement Error : Type*) where
  /-- Whether the data are up to date; an error if they cannot be brought up to date. -/
  check : Data → Except Error Bool
  plan : Data → List Statement
  execute : Statement → Data → Except Error Data

namespace Upgrade

variable {Data Statement Error : Type*}

/-- Where a connection is. -/
inductive Phase (Statement Error : Type*) where
  | opened
  | outdated
  /-- In the transaction, before it looks again. -/
  | begun
  | executing (rest : List Statement)
  | returned
  | failed (error : Error)
  /-- The lock was refused, or the connection was struck. -/
  | gone
  deriving DecidableEq

/-- The data, the transaction on them and every connection. -/
structure Race (Data Statement Error : Type*) where
  committed : Data
  writer : Option (Nat × Data)
  connections : Nat → Phase Statement Error

inductive Event where
  | go (connection : Nat)
  | strike (connection : Nat)
  deriving DecidableEq

/-- The statements in turn. -/
def executeAll (upgrade : Upgrade Data Statement Error) :
    List Statement → Data → Except Error Data
  | [], data => .ok data
  | statement :: rest, data => (upgrade.execute statement data).bind (upgrade.executeAll rest)

/-- A list of statements goes on from what its first one left. -/
theorem executeAll_cons {upgrade : Upgrade Data Statement Error} {statement : Statement}
    {data next : Data} (executes : upgrade.execute statement data = .ok next)
    (rest : List Statement) :
    upgrade.executeAll (statement :: rest) data = upgrade.executeAll rest next := by
  simp only [executeAll, executes, Except.bind]

/-- Two lists of statements are executed one after the other. -/
theorem executeAll_append {upgrade : Upgrade Data Statement Error} {statements : List Statement}
    {data next : Data} (executes : upgrade.executeAll statements data = .ok next)
    (rest : List Statement) :
    upgrade.executeAll (statements ++ rest) data = upgrade.executeAll rest next := by
  induction statements generalizing data with
  | nil =>
      cases executes
      rfl
  | cons statement statements ih =>
      unfold executeAll at executes
      cases executed : upgrade.execute statement data with
      | error error =>
          rw [executed] at executes
          cases executes
      | ok middle =>
          rw [executed] at executes
          rw [List.cons_append, executeAll_cons executed]
          exact ih executes

namespace Race

def enter (race : Race Data Statement Error) (connection : Nat)
    (phase : Phase Statement Error) : Race Data Statement Error :=
  { race with connections := Function.update race.connections connection phase }

/-- A transaction that is not committed is undone. -/
def leave (race : Race Data Statement Error) (connection : Nat)
    (phase : Phase Statement Error) : Race Data Statement Error :=
  { race with
    writer := race.writer.filter fun writer => writer.1 != connection
    connections := Function.update race.connections connection phase }

/-- What a connection does next, if it is not waiting for the lock. -/
def go (upgrade : Upgrade Data Statement Error) (race : Race Data Statement Error)
    (connection : Nat) : Option (Race Data Statement Error) :=
  match race.connections connection with
  | .opened =>
      match upgrade.check race.committed with
      | .error error => some (race.leave connection (.failed error))
      | .ok true => some (race.enter connection .returned)
      | .ok false => some (race.enter connection .outdated)
  | .outdated =>
      match race.writer with
      | none => some { race.enter connection .begun with
          writer := some (connection, race.committed) }
      | some _ => none
  | .begun => race.writer.map fun writer =>
      race.enter connection (.executing (upgrade.plan writer.2))
  | .executing (statement :: rest) =>
      race.writer.map fun writer =>
        match upgrade.execute statement writer.2 with
        | .error error => race.leave connection (.failed error)
        | .ok data => { race.enter connection (.executing rest) with
            writer := some (connection, data) }
  | .executing [] =>
      race.writer.map fun writer =>
        { race.leave connection .returned with committed := writer.2 }
  | .returned | .failed _ | .gone => none

/-- The connection is struck before it returned. -/
def strike (race : Race Data Statement Error) (connection : Nat) :
    Option (Race Data Statement Error) :=
  match race.connections connection with
  | .returned | .failed _ | .gone => none
  | _ => some (race.leave connection .gone)

def step (upgrade : Upgrade Data Statement Error) (race : Race Data Statement Error) :
    Event → Option (Race Data Statement Error)
  | .go connection => race.go upgrade connection
  | .strike connection => race.strike connection

/-- Every connection is opened on the data. -/
def start (data : Data) : Race Data Statement Error := ⟨data, none, fun _ => .opened⟩

end Race

/-- The runs of any number of connections on the first data. -/
def system (upgrade : Upgrade Data Statement Error) (first : Data) :
    System (Race Data Statement Error) Event where
  initial race := race = .start first
  step before event after := before.step upgrade event = some after

/-- Executing what is missing from the first data gives the last data, and nothing is missing from
them. -/
structure Leads (upgrade : Upgrade Data Statement Error) (first last : Data) : Prop where
  executes : upgrade.executeAll (upgrade.plan first) first = .ok last
  done : upgrade.plan last = []
  upToDate : upgrade.check last = .ok true
  early : upgrade.check first = .ok true → first = last
  supported : ∀ error, upgrade.check first ≠ .error error

/-- The statements that remain lead from the transaction's data to the last data. -/
def Phase.Working (upgrade : Upgrade Data Statement Error) (first last data : Data) :
    Phase Statement Error → Prop
  | .begun => data = first ∨ data = last
  | .executing rest => upgrade.executeAll rest data = .ok last
  | _ => False

/-- What every reachable state of a race keeps. -/
structure Race.Sound (upgrade : Upgrade Data Statement Error) (first last : Data)
    (race : Race Data Statement Error) : Prop where
  /-- No one sees the data in between. -/
  committed : race.committed = first ∨ race.committed = last
  /-- A connection that returned left the data up to date. -/
  returned : ∀ connection, race.connections connection = .returned → race.committed = last
  /-- No statement fails. -/
  succeeds : ∀ connection error, race.connections connection ≠ .failed error
  working : ∀ connection data, race.writer = some (connection, data) →
    (race.connections connection).Working upgrade first last data
  exclusive : ∀ connection, (race.connections connection = .begun ∨
    ∃ rest, race.connections connection = .executing rest) →
      ∃ data, race.writer = some (connection, data)

namespace Race

variable {upgrade : Upgrade Data Statement Error} {first last : Data}
  {race after : Race Data Statement Error}

/-- One connection moves: what it must see to for the state to stay sound. -/
theorem Sound.update (sound : race.Sound upgrade first last) {connection : Nat}
    {phase : Phase Statement Error} {data : Data} {writer : Option (Nat × Data)}
    (committed : data = first ∨ data = last) (stays : race.committed = last → data = last)
    (returned : phase = .returned → data = last) (succeeds : ∀ error, phase ≠ .failed error)
    (own : ∀ held, writer = some (connection, held) → phase.Working upgrade first last held)
    (held : phase = .begun ∨ (∃ rest, phase = .executing rest) →
      ∃ data, writer = some (connection, data))
    (others : ∀ other held, other ≠ connection →
      (writer = some (other, held) ↔ race.writer = some (other, held))) :
    (⟨data, writer, Function.update race.connections connection phase⟩ :
      Race Data Statement Error).Sound upgrade first last where
  committed := committed
  returned := by
    intro other rests
    dsimp only at rests ⊢
    by_cases same : other = connection
    · rw [same, Function.update_self] at rests
      exact returned rests
    · rw [Function.update_of_ne same] at rests
      exact stays (sound.returned other rests)
  succeeds := by
    intro other error
    dsimp only
    by_cases same : other = connection
    · rw [same, Function.update_self]
      exact succeeds error
    · rw [Function.update_of_ne same]
      exact sound.succeeds other error
  working := by
    intro other data writes
    dsimp only at writes ⊢
    by_cases same : other = connection
    · rw [same] at writes
      rw [same, Function.update_self]
      exact own data writes
    · rw [Function.update_of_ne same]
      exact sound.working other data ((others other data same).mp writes)
  exclusive := by
    intro other inside
    dsimp only at inside ⊢
    by_cases same : other = connection
    · rw [same, Function.update_self] at inside
      rw [same]
      exact held inside
    · rw [Function.update_of_ne same] at inside
      obtain ⟨data, writes⟩ := sound.exclusive other inside
      exact ⟨data, (others other data same).mpr writes⟩

/-- A connection outside of a transaction takes a step outside of one. -/
theorem Sound.enter (sound : race.Sound upgrade first last) {connection : Nat}
    {phase : Phase Statement Error} (outside : ∀ data, race.writer ≠ some (connection, data))
    (resting : phase = .outdated ∨ phase = .returned ∧ race.committed = last) :
    (race.enter connection phase).Sound upgrade first last := by
  refine sound.update sound.committed id ?_ ?_ ?_ ?_ fun _ _ _ => Iff.rfl
  · rcases resting with rfl | ⟨rfl, uptodate⟩
    · intro impossible
      cases impossible
    · exact fun _ => uptodate
  · rcases resting with rfl | ⟨rfl, _⟩
    all_goals
      intro error impossible
      cases impossible
  · exact fun data writes => absurd writes (outside data)
  · rcases resting with rfl | ⟨rfl, _⟩
    all_goals
      rintro (impossible | ⟨_, impossible⟩)
      all_goals cases impossible

/-- The connection that holds the lock takes a step in its transaction. -/
theorem Sound.write (sound : race.Sound upgrade first last) {connection : Nat}
    {phase : Phase Statement Error} {data : Data}
    (free : ∀ other held, race.writer = some (other, held) → other = connection)
    (working : phase.Working upgrade first last data) :
    ({ race.enter connection phase with writer := some (connection, data) } :
      Race Data Statement Error).Sound upgrade first last := by
  refine sound.update sound.committed id ?_ ?_ ?_ ?_ ?_
  · rintro rfl
    exact working.elim
  · rintro error rfl
    exact working
  · intro held writes
    cases writes
    exact working
  · exact fun _ => ⟨data, rfl⟩
  · intro other held different
    constructor
    · intro writes
      cases writes
      exact absurd rfl different
    · exact fun writes => absurd (free other held writes) different

/-- A connection ends its transaction, if it is in one, and leaves the first or the last data. -/
theorem Sound.leave (sound : race.Sound upgrade first last) {connection : Nat}
    {phase : Phase Statement Error} {data : Data} (stays : race.committed = last → data = last)
    (kept : data = first ∨ data = last)
    (resting : phase = .gone ∨ phase = .returned ∧ data = last) :
    ({ race.leave connection phase with committed := data } :
      Race Data Statement Error).Sound upgrade first last := by
  refine sound.update kept stays ?_ ?_ ?_ ?_ ?_
  · rcases resting with rfl | ⟨rfl, finished⟩
    · intro impossible
      cases impossible
    · exact fun _ => finished
  · rcases resting with rfl | ⟨rfl, _⟩
    all_goals
      intro error impossible
      cases impossible
  · intro held writes
    exact absurd rfl (bne_iff_ne.mp (Option.filter_eq_some_iff.mp writes).2)
  · rcases resting with rfl | ⟨rfl, _⟩
    all_goals
      rintro (impossible | ⟨_, impossible⟩)
      all_goals cases impossible
  · intro other held different
    apply Option.filter_eq_some_iff.trans
    exact ⟨fun writes => writes.1, fun writes => ⟨writes, bne_iff_ne.mpr different⟩⟩

/-- A connection that is in no transaction does not hold the lock. -/
theorem Sound.outside (sound : race.Sound upgrade first last) {connection : Nat}
    (resting : ∀ data, ¬ (race.connections connection).Working upgrade first last data)
    (data : Data) :
    race.writer ≠ some (connection, data) :=
  fun writes => resting data (sound.working connection data writes)

/-- A connection that goes on keeps the race sound. -/
theorem Sound.go (leads : upgrade.Leads first last) (sound : race.Sound upgrade first last)
    {connection : Nat} (went : race.go upgrade connection = some after) :
    after.Sound upgrade first last := by
  unfold Race.go at went
  split at went
  next opened =>
    have outside : ∀ data, race.writer ≠ some (connection, data) := sound.outside fun data => by
      rw [opened]
      exact id
    split at went
    next error unsupported =>
      rcases sound.committed with same | same
      · rw [same] at unsupported
        exact absurd unsupported (leads.supported error)
      · rw [same, leads.upToDate] at unsupported
        cases unsupported
    next uptodate =>
      cases went
      refine sound.enter outside (Or.inr ⟨rfl, ?_⟩)
      rcases sound.committed with same | same
      · exact same.trans (leads.early (same ▸ uptodate))
      · exact same
    next =>
      cases went
      exact sound.enter outside (Or.inl rfl)
  next =>
    split at went
    next free =>
      cases went
      refine sound.write ?_ sound.committed
      intro other held writes
      rw [free] at writes
      cases writes
    next => cases went
  next begun =>
    obtain ⟨⟨writer, data⟩, writes, rfl⟩ := Option.map_eq_some_iff.mp went
    obtain ⟨held, holds⟩ := sound.exclusive connection (Or.inl begun)
    rw [writes] at holds
    cases holds
    have planned : (Phase.executing (upgrade.plan data) : Phase Statement Error).Working upgrade
        first last data := by
      have working := sound.working connection data writes
      rw [begun] at working
      unfold Phase.Working
      rcases working with rfl | rfl
      · exact leads.executes
      · rw [leads.done]
        rfl
    have alone : ∀ other held, race.writer = some (other, held) → other = connection := by
      intro other held same
      rw [writes] at same
      cases same
      rfl
    have wrote := sound.write alone planned
    rw [← writes] at wrote
    exact wrote
  next statement rest executing =>
    obtain ⟨⟨writer, data⟩, writes, rfl⟩ := Option.map_eq_some_iff.mp went
    obtain ⟨held, holds⟩ := sound.exclusive connection (Or.inr ⟨_, executing⟩)
    rw [writes] at holds
    cases holds
    have working := sound.working connection data writes
    rw [executing] at working
    have continues : (upgrade.execute statement data).bind (upgrade.executeAll rest) = .ok last :=
      working
    dsimp only
    cases executes : upgrade.execute statement data with
    | error error =>
        rw [executes] at continues
        cases continues
    | ok next =>
        rw [executes] at continues
        refine sound.write ?_ (show (Phase.executing rest).Working _ _ _ _ from continues)
        intro other held same
        rw [writes] at same
        cases same
        rfl
  next executing =>
    obtain ⟨⟨writer, data⟩, writes, rfl⟩ := Option.map_eq_some_iff.mp went
    obtain ⟨held, holds⟩ := sound.exclusive connection (Or.inr ⟨_, executing⟩)
    rw [writes] at holds
    cases holds
    have working := sound.working connection data writes
    rw [executing] at working
    have finished : data = last := Except.ok.inj working
    exact sound.leave (fun _ => finished) (Or.inr finished) (Or.inr ⟨rfl, finished⟩)
  next => cases went
  next => cases went
  next => cases went

/-- Whatever the connections do when, everyone sees the first data or the last ones, no statement
fails, and a connection that returned left the last data. -/
theorem sound (leads : upgrade.Leads first last)
    (reachable : (upgrade.system first).Reachable race) : race.Sound upgrade first last := by
  refine reachable.invariant (Race.Sound upgrade first last) ?_ ?_
  · rintro _ rfl
    constructor
    case committed => exact Or.inl rfl
    case returned =>
      intro connection impossible
      cases impossible
    case succeeds =>
      intro connection error impossible
      cases impossible
    case working =>
      intro connection data impossible
      cases impossible
    case exclusive =>
      rintro connection (impossible | ⟨_, impossible⟩)
      all_goals cases impossible
  · intro before event after held _ stepped
    cases event with
    | go connection => exact held.go leads stepped
    | strike connection =>
        have struck : before.strike connection = some after := stepped
        unfold Race.strike at struck
        split at struck
        next => cases struck
        next => cases struck
        next => cases struck
        next =>
          cases struck
          exact held.leave id held.committed (Or.inl rfl)

end Race

end Upgrade

end Foundation
