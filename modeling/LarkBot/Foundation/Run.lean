import Mathlib.Order.Basic

/-! # Runs of a labelled transition system

A run is a sequence of labelled steps. Runs are taken relative to a guard on the
state before a step and its label: an unguarded run is a run under the guard that
always holds, and a property that survives only some steps is proved along the
runs whose guard excludes the others (`Foundation.System.ReachesVia.invariant`).
-/

namespace Foundation

/-- Initial states and labelled steps. -/
structure System (State Label : Type*) where
  initial : State → Prop
  step : State → Label → State → Prop

namespace System

variable {State Label : Type*} (system : System State Label)

/-- `target` is reached from `source` by steps that all meet `guard`. -/
inductive ReachesVia (guard : State → Label → Prop) (source : State) : State → Prop
  | refl : ReachesVia guard source source
  | step {middle target : State} (label : Label) :
      ReachesVia guard source middle → guard middle label →
        system.step middle label target → ReachesVia guard source target

/-- `target` is reached from an initial state by steps that all meet `guard`. -/
def ReachableVia (guard : State → Label → Prop) (target : State) : Prop :=
  ∃ source, system.initial source ∧ system.ReachesVia guard source target

/-- `target` is reached from an initial state. -/
def Reachable (target : State) : Prop := system.ReachableVia (fun _ _ => True) target

/-- `target` is reached from `source`. -/
def Reaches (source target : State) : Prop := system.ReachesVia (fun _ _ => True) source target

variable {system} {guard : State → Label → Prop}

/-- A property that every guarded step preserves holds along every guarded run. -/
theorem ReachesVia.invariant {source target : State}
    (reached : system.ReachesVia guard source target) (property : State → Prop)
    (initially : property source)
    (preserved : ∀ before label after, property before → guard before label →
      system.step before label after → property after) : property target := by
  induction reached with
  | refl => exact initially
  | step label _ allowed stepped ih => exact preserved _ label _ ih allowed stepped

/-- Two guarded runs one after the other are a guarded run. -/
theorem ReachesVia.trans {source middle target : State}
    (first : system.ReachesVia guard source middle)
    (second : system.ReachesVia guard middle target) : system.ReachesVia guard source target := by
  induction second with
  | refl => exact first
  | step label _ allowed stepped ih => exact .step label ih allowed stepped

/-- A weaker guard admits every run of a stronger one. -/
theorem ReachesVia.mono {weaker : State → Label → Prop} {source target : State}
    (reached : system.ReachesVia guard source target)
    (implies : ∀ state label, guard state label → weaker state label) :
    system.ReachesVia weaker source target := by
  induction reached with
  | refl => exact .refl
  | step label _ allowed stepped ih => exact .step label ih (implies _ _ allowed) stepped

/-- An invariant of the guarded steps that holds initially holds in every state
reached by guarded steps. -/
theorem ReachableVia.invariant {target : State}
    (reachable : system.ReachableVia guard target) (property : State → Prop)
    (initially : ∀ source, system.initial source → property source)
    (preserved : ∀ before label after, property before → guard before label →
      system.step before label after → property after) : property target := by
  obtain ⟨source, started, reached⟩ := reachable
  exact reached.invariant property (initially source started) preserved

/-- What a guarded run reaches is reachable. -/
theorem ReachableVia.reachable {target : State} (reachable : system.ReachableVia guard target) :
    system.Reachable target := by
  obtain ⟨source, started, reached⟩ := reachable
  exact ⟨source, started, reached.mono fun _ _ _ => trivial⟩

/-- A guarded run that goes on from what one has reached is a guarded run. -/
theorem ReachableVia.trans {middle target : State} (reachable : system.ReachableVia guard middle)
    (reached : system.ReachesVia guard middle target) : system.ReachableVia guard target := by
  obtain ⟨source, started, earlier⟩ := reachable
  exact ⟨source, started, earlier.trans reached⟩

/-- Every initial state is reachable. -/
theorem Reachable.initial {source : State} (started : system.initial source) :
    system.Reachable source :=
  ⟨source, started, .refl⟩

/-- A step from a reachable state reaches its target. -/
theorem Reachable.step {middle target : State} (reachable : system.Reachable middle)
    (label : Label) (stepped : system.step middle label target) : system.Reachable target := by
  obtain ⟨source, started, reached⟩ := reachable
  exact ⟨source, started, .step label reached trivial stepped⟩

/-- The system with the labels of its run on record. -/
def recorded (system : System State Label) : System (State × List Label) Label where
  initial state := system.initial state.1 ∧ state.2 = []
  step before label after := system.step before.1 label after.1 ∧ after.2 = before.2 ++ [label]

/-- Follow labels in order with a partial step function, as long as each is allowed. -/
def follow (next : State → Label → Option State) (allowed : State → Label → Bool) :
    State → List Label → Option State
  | state, [] => some state
  | state, label :: labels =>
      if allowed state label then
        (next state label).bind fun after => follow next allowed after labels
      else none

/-- Following labels is a run under every guard that allows what was checked. -/
theorem reachesVia_of_follow {next : State → Label → Option State}
    {allowed : State → Label → Bool} (steps : ∀ state label after,
      next state label = some after → system.step state label after)
    (implies : ∀ state label, allowed state label → guard state label) {labels : List Label}
    {source target : State} (followed : follow next allowed source labels = some target) :
    system.ReachesVia guard source target := by
  induction labels generalizing source with
  | nil =>
      cases followed
      exact .refl
  | cons label labels ih =>
      unfold follow at followed
      split at followed
      next checked =>
        obtain ⟨middle, stepped, rest⟩ := Option.bind_eq_some_iff.mp followed
        exact ReachesVia.trans (.step label .refl (implies _ _ checked) (steps _ _ _ stepped))
          (ih rest)
      next => cases followed

/-- The record of a run that follows labels is these labels. -/
theorem recorded_of_follow {next : State → Label → Option State}
    {allowed : State → Label → Bool} (steps : ∀ state label after,
      next state label = some after → system.step state label after)
    (implies : ∀ state label, allowed state label → guard state label) {labels earlier : List Label}
    {source target : State} (followed : follow next allowed source labels = some target) :
    system.recorded.ReachesVia (fun state label => guard state.1 label)
      (source, earlier) (target, earlier ++ labels) := by
  induction labels generalizing source earlier with
  | nil =>
      cases followed
      rw [List.append_nil]
      exact .refl
  | cons label labels ih =>
      unfold follow at followed
      split at followed
      next checked =>
        obtain ⟨middle, stepped, rest⟩ := Option.bind_eq_some_iff.mp followed
        have first : system.recorded.ReachesVia (fun state label => guard state.1 label)
            (source, earlier) (middle, earlier ++ [label]) :=
          .step label .refl (implies _ _ checked) ⟨steps _ _ _ stepped, rfl⟩
        rw [List.append_cons]
        exact first.trans (ih rest)
      next => cases followed

end System

end Foundation
