import Mathlib.Order.Basic

/-! # Code that keeps its writes when it raises

Code over a state returns a value or raises an error, and what it wrote before
it raised stays written. `Foundation.Code.Ends` says how code ends from a state;
its rules run code symbolically, one statement at a time.
-/

namespace Foundation

/-- Code that reads and writes `σ`, and returns an `α` or raises an `ε`. -/
def Code (σ ε α : Type) : Type := σ → σ × Except ε α

namespace Code

variable {σ ε α β : Type}

/-- Run `first`; go on with its value, unless it raised. -/
def andThen (first : Code σ ε α) (next : α → Code σ ε β) : Code σ ε β := fun self =>
  match first self with
  | (self, .ok value) => next value self
  | (self, .error error) => (self, .error error)

instance : Monad (Code σ ε) where
  pure value := fun self => (self, .ok value)
  bind := andThen

/-- The state itself. -/
def self : Code σ ε σ := fun self => (self, .ok self)

def modify (change : σ → σ) : Code σ ε Unit := fun self => (change self, .ok ())

def raise (error : ε) : Code σ ε α := fun self => (self, .error error)

/-- A function that may raise and touches no state. -/
def lift (result : Except ε α) : Code σ ε α := fun self => (self, result)

/-- Read the state and write it. -/
def step (run : σ → α × σ) : Code σ ε α := fun self => ((run self).2, .ok (run self).1)

/-- Read the state, and write it or raise. -/
def stepOrRaise (run : σ → Except ε (α × σ)) : Code σ ε α := fun self =>
  match run self with
  | .ok (value, self) => (self, .ok value)
  | .error error => (self, .error error)

/-- Run code only under a condition. -/
def onlyIf (condition : Bool) (code : Code σ ε Unit) : Code σ ε Unit :=
  if condition then code else pure ()

/-- Hand every error that `code` raises to `handler`. -/
def catchAll (code : Code σ ε α) (handler : ε → Code σ ε α) : Code σ ε α := fun self =>
  match code self with
  | (self, .ok value) => (self, .ok value)
  | (self, .error error) => handler error self

/-- The code ends in a state and with an outcome that satisfy `post`. -/
def Ends (code : Code σ ε α) (self : σ) (post : σ → Except ε α → Prop) : Prop :=
  post (code self).1 (code self).2

variable {post weaker : σ → Except ε α → Prop} {after : σ → Except ε β → Prop} {state : σ}

/-- Code that ends in a condition ends in every weaker one. -/
theorem Ends.mono {code : Code σ ε α} (ends : code.Ends state post)
    (implies : ∀ state outcome, post state outcome → weaker state outcome) :
    code.Ends state weaker :=
  implies _ _ ends

/-- Two conditions on the end of one piece of code hold together. -/
theorem Ends.and {code : Code σ ε α} (first : code.Ends state post)
    (second : code.Ends state weaker) :
    code.Ends state fun state outcome => post state outcome ∧ weaker state outcome :=
  ⟨first, second⟩

/-- A value ends at once, in the state it was given. -/
@[simp] theorem ends_pure (value : α) :
    (pure value : Code σ ε α).Ends state post ↔ post state (.ok value) := Iff.rfl

/-- A raised error ends at once, in the state it was given. -/
@[simp] theorem ends_raise (error : ε) :
    (raise error : Code σ ε α).Ends state post ↔ post state (.error error) := Iff.rfl

/-- A change of the state ends in the changed state. -/
@[simp] theorem ends_modify (change : σ → σ) {post : σ → Except ε Unit → Prop} :
    (modify change).Ends state post ↔ post (change state) (.ok ()) := Iff.rfl

/-- A sequence ends as its second part does from where the first part left the state, or
with the error of the first. -/
theorem ends_bind (first : Code σ ε α) (next : α → Code σ ε β) :
    (first >>= next).Ends state after ↔ first.Ends state fun state outcome =>
      match outcome with
      | .ok value => (next value).Ends state after
      | .error error => after state (.error error) := by
  change after (andThen first next state).1 (andThen first next state).2 ↔ _
  unfold Ends andThen
  rcases first state with ⟨middle, error | value⟩ <;> exact Iff.rfl

/-- Sequencing: what holds after `first` is passed on, or survives its error. -/
theorem Ends.bind {first : Code σ ε α} {next : α → Code σ ε β} (begins : first.Ends state post)
    (goesOn : ∀ state value, post state (.ok value) → (next value).Ends state after)
    (raises : ∀ state error, post state (.error error) → after state (.error error)) :
    (first >>= next).Ends state after := by
  rw [ends_bind]
  apply begins.mono
  intro state outcome holds
  cases outcome with
  | ok value => exact goesOn state value holds
  | error error => exact raises state error holds

/-- A value is handed straight to the code that follows it. -/
@[simp] theorem ends_pure_bind (value : α) (next : α → Code σ ε β) :
    ((pure value : Code σ ε α) >>= next).Ends state after ↔ (next value).Ends state after :=
  Iff.rfl

/-- The code that follows a look at the state is given the state itself. -/
@[simp] theorem ends_self_bind (next : σ → Code σ ε β) :
    (self >>= next).Ends state after ↔ (next state).Ends state after := Iff.rfl

/-- The code that follows a change runs from the changed state. -/
@[simp] theorem ends_modify_bind (change : σ → σ) (next : Unit → Code σ ε β) :
    (modify change >>= next).Ends state after ↔ (next ()).Ends (change state) after := Iff.rfl

/-- What follows a raised error never runs. -/
@[simp] theorem ends_raise_bind (error : ε) (next : α → Code σ ε β) :
    ((raise error : Code σ ε α) >>= next).Ends state after ↔ after state (.error error) := Iff.rfl

/-- The code that follows a step is given the step's value and runs from the state the
step left. -/
@[simp] theorem ends_step_bind (run : σ → α × σ) (next : α → Code σ ε β) :
    (step run >>= next).Ends state after ↔ (next (run state).1).Ends (run state).2 after := Iff.rfl

/-- A result that is already known goes on with its value or ends with its error. -/
@[simp] theorem ends_lift_bind (result : Except ε α) (next : α → Code σ ε β) :
    (lift result >>= next).Ends state after ↔
      match result with
      | .ok value => (next value).Ends state after
      | .error error => after state (.error error) := by
  cases result <;> exact Iff.rfl

/-- The code that follows a fallible step runs only where the step succeeded; a step
that failed leaves the state. -/
@[simp] theorem ends_stepOrRaise_bind (run : σ → Except ε (α × σ)) (next : α → Code σ ε β) :
    (stepOrRaise run >>= next).Ends state after ↔
      match run state with
      | .ok (value, middle) => (next value).Ends middle after
      | .error error => after state (.error error) := by
  rw [ends_bind]
  unfold Ends stepOrRaise
  rcases run state with error | ⟨value, middle⟩ <;> exact Iff.rfl

/-- Conditional code runs under its condition and does nothing otherwise. -/
@[simp] theorem ends_onlyIf (condition : Bool) (code : Code σ ε Unit)
    {post : σ → Except ε Unit → Prop} :
    (onlyIf condition code).Ends state post ↔
      if condition then code.Ends state post else post state (.ok ()) := by
  cases condition <;> exact Iff.rfl

/-- A handler takes over in the state where its code raised. -/
@[simp] theorem ends_catchAll (code : Code σ ε α) (handler : ε → Code σ ε α) :
    (code.catchAll handler).Ends state post ↔ code.Ends state fun state outcome =>
      match outcome with
      | .ok value => post state (.ok value)
      | .error error => (handler error).Ends state post := by
  unfold Ends catchAll
  rcases code state with ⟨middle, error | value⟩ <;> exact Iff.rfl

/-- Whatever state the code starts from, a value it returns is allowed. -/
def Returns (code : Code σ ε α) (allowed : α → Prop) : Prop :=
  ∀ state value, (code state).2 = .ok value → allowed value

namespace Returns

variable {allowed : α → Prop}

/-- Code that only gives a value returns what that value satisfies. -/
theorem pure {value : α} (holds : allowed value) : (pure value : Code σ ε α).Returns allowed := by
  rintro state _ ⟨⟩
  exact holds

/-- Code that raises returns no value, so it returns within any condition. -/
theorem raise (error : ε) : (raise error : Code σ ε α).Returns allowed := nofun

/-- What a sequence returns, its last part returns on a value of the first. -/
theorem bindOf {first : Code σ ε β} {next : β → Code σ ε α} {passes : β → Prop}
    (begins : first.Returns passes) (last : ∀ value, passes value → (next value).Returns allowed) :
    (first >>= next).Returns allowed := by
  intro state value returned
  change (andThen first next state).2 = .ok value at returned
  unfold andThen at returned
  split at returned
  next middle passed ended =>
    exact last passed (begins state passed (congrArg Prod.snd ended)) middle value returned
  next => cases returned

/-- What a sequence returns is what its last part returns. -/
theorem bind {first : Code σ ε β} {next : β → Code σ ε α}
    (last : ∀ value, (next value).Returns allowed) : (first >>= next).Returns allowed :=
  bindOf (fun _ _ _ => trivial) fun value (_ : True) => last value

/-- Code and its handler return within the same condition, whichever of them gives the
value. -/
theorem catchAll {code : Code σ ε α} {handler : ε → Code σ ε α} (returns : code.Returns allowed)
    (handles : ∀ error, (handler error).Returns allowed) :
    (code.catchAll handler).Returns allowed := by
  intro state value returned
  unfold Code.catchAll at returned
  split at returned
  next ended =>
    cases returned
    exact returns state value (congrArg Prod.snd ended)
  next middle error _ => exact handles error middle value returned

/-- Code that returns within a condition returns within every weaker one. -/
theorem mono {weaker : α → Prop} {code : Code σ ε α} (returns : code.Returns allowed)
    (implies : ∀ value, allowed value → weaker value) : code.Returns weaker :=
  fun state value returned => implies value (returns state value returned)

end Returns

/-- Whatever state the code starts from, it leaves a related state, also where it raises. -/
def Leaves (code : Code σ ε α) (relation : σ → σ → Prop) : Prop :=
  ∀ state, relation state (code state).1

namespace Leaves

variable {relation : σ → σ → Prop} [Std.Refl relation]

/-- A value leaves the state as it was. -/
theorem pure (value : α) : (pure value : Code σ ε α).Leaves relation := fun state =>
  Std.Refl.refl state

/-- A raised error leaves the state as it was. -/
theorem raise (error : ε) : (raise error : Code σ ε α).Leaves relation := fun state =>
  Std.Refl.refl state

/-- A result that is already known leaves the state as it was. -/
theorem lift (result : Except ε α) : (lift result : Code σ ε α).Leaves relation := fun state =>
  Std.Refl.refl state

/-- A look at the state leaves it as it was. -/
theorem self : (Code.self : Code σ ε σ).Leaves relation := fun state => Std.Refl.refl state

/-- Conditional code leaves at most what the code under the condition leaves. -/
theorem onlyIf {condition : Bool} {code : Code σ ε Unit} (leaves : code.Leaves relation) :
    (onlyIf condition code).Leaves relation := by
  cases condition with
  | false => exact pure ()
  | true => exact leaves

omit [Std.Refl relation] in
/-- A sequence leaves the composition of what its two parts leave, which transitivity
brings back into the relation. -/
theorem bind [IsTrans σ relation] {first : Code σ ε β} {next : β → Code σ ε α}
    (begins : first.Leaves relation) (goesOn : ∀ value, (next value).Leaves relation) :
    (first >>= next).Leaves relation := by
  intro state
  change relation state (andThen first next state).1
  have started := begins state
  unfold andThen
  split
  next middle value ended =>
    rw [ended] at started
    exact IsTrans.trans _ _ _ started (goesOn value middle)
  next middle error ended =>
    rw [ended] at started
    exact started

omit [Std.Refl relation] in
/-- A handler starts where its code raised, so the two compose like a sequence. -/
theorem catchAll [IsTrans σ relation] {code : Code σ ε α} {handler : ε → Code σ ε α}
    (leaves : code.Leaves relation) (handles : ∀ error, (handler error).Leaves relation) :
    (code.catchAll handler).Leaves relation := by
  intro state
  have started := leaves state
  unfold Code.catchAll
  split
  next middle value ended =>
    rw [ended] at started
    exact started
  next middle error ended =>
    rw [ended] at started
    exact IsTrans.trans _ _ _ started (handles error middle)

end Leaves

/-- Both raise the same error, or return related values. -/
inductive SameOutcome (related : α → α → Prop) : Except ε α → Except ε α → Prop
  | ok {first second : α} (values : related first second) :
      SameOutcome related (.ok first) (.ok second)
  | error (error : ε) : SameOutcome related (.error error) (.error error)

/-- From this state two codes write the same, and return related values or raise the same. -/
def AgreesFrom (related : α → α → Prop) (state : σ) (first second : Code σ ε α) : Prop :=
  (first state).1 = (second state).1 ∧ SameOutcome related (first state).2 (second state).2

/-- Two codes agree from every state. -/
def Agrees (related : α → α → Prop) (first second : Code σ ε α) : Prop :=
  ∀ state, AgreesFrom related state first second

variable {related : α → α → Prop}

/-- Code agrees with itself when values are related to themselves. -/
theorem AgreesFrom.refl [Std.Refl related] (code : Code σ ε α) :
    AgreesFrom related state code code := by
  refine ⟨rfl, ?_⟩
  cases (code state).2 with
  | ok value => exact .ok (Std.Refl.refl value)
  | error error => exact .error error

/-- Two continuations of a look at the state need to agree at that state only. -/
theorem AgreesFrom.self_bind {next other : σ → Code σ ε α}
    (goesOn : AgreesFrom related state (next state) (other state)) :
    AgreesFrom related state (self >>= next) (self >>= other) := goesOn

namespace Agrees

/-- Code agrees with itself from every state when values are related to themselves. -/
theorem refl [Std.Refl related] (code : Code σ ε α) : Agrees related code code :=
  fun _ => .refl code

/-- Related values agree as code. -/
theorem pure {first second : α} (values : related first second) :
    Agrees related (pure first : Code σ ε α) (pure second) := fun _ => ⟨rfl, .ok values⟩

/-- One code, and continuations that agree. -/
theorem bind (begins : Code σ ε β) {next other : β → Code σ ε α}
    (goesOn : ∀ value, Agrees related (next value) (other value)) :
    Agrees related (begins >>= next) (begins >>= other) := by
  intro state
  change (andThen begins next state).1 = (andThen begins other state).1 ∧
    SameOutcome related (andThen begins next state).2 (andThen begins other state).2
  unfold andThen
  rcases begins state with ⟨middle, error | value⟩
  · exact ⟨rfl, .error error⟩
  · exact goesOn value middle

/-- Agreeing code still agrees under one handler, since both raise the same error in the
same state. -/
theorem catchAll [Std.Refl related] {first second : Code σ ε α}
    (agrees : Agrees related first second) (handler : ε → Code σ ε α) :
    Agrees related (first.catchAll handler) (second.catchAll handler) := by
  intro state
  obtain ⟨written, outcomes⟩ := agrees state
  unfold AgreesFrom Code.catchAll
  generalize first state = one at *
  generalize second state = two at *
  obtain ⟨middle, outcome⟩ := one
  obtain ⟨other, result⟩ := two
  obtain rfl : middle = other := written
  cases outcomes with
  | ok values => exact ⟨rfl, .ok values⟩
  | error error => exact AgreesFrom.refl (handler error)

end Agrees

end Code

end Foundation
