import Mathlib.Control.Lawful
import Mathlib.Order.Defs.Unbundled

/-! # Transactions

Programs that run statements on data and may raise. A statement raises on its own account,
or because of a fault that the data does not explain; a statement that raises leaves the
data alone. A transaction undoes what its body did when the body raises
(`Foundation.Program.transaction`). A program is all or nothing for the results that mean
failure when none of them, and no exception, leaves the data changed
(`Foundation.Program.AllOrNothing`).
-/

namespace Foundation

/-- The data, and what the next statements raise, whatever they are: nothing once the list
is used up. -/
structure Setting (Data Error : Type) where
  data : Data
  faults : List (Option Error)

/-- A program that runs statements, and may raise. -/
abbrev Program (Data Error Result : Type) := ExceptT Error (StateM (Setting Data Error)) Result

namespace Program

variable {Data Error Result Other : Type}

/-- The outcome of a program, and the setting that it leaves. -/
def outcome (program : Program Data Error Result) (setting : Setting Data Error) :
    Except Error Result × Setting Data Error :=
  program.run.run setting

/-- What one statement does: it raises the next fault, or has its effect. -/
def perform (effect : Data → Except Error (Result × Data)) (setting : Setting Data Error) :
    Except Error Result × Setting Data Error :=
  match setting.faults with
  | some error :: rest => (.error error, { setting with faults := rest })
  | faults =>
      match effect setting.data with
      | .ok (result, data) => (.ok result, ⟨data, faults.tail⟩)
      | .error error => (.error error, { setting with faults := faults.tail })

/-- Run one statement. -/
def statement (effect : Data → Except Error (Result × Data)) : Program Data Error Result :=
  ExceptT.mk (perform effect)

/-- Run a statement that reads. -/
def select (read : Data → Result) : Program Data Error Result :=
  statement fun data => .ok (read data, data)

/-- Run a body, and undo what it did if it raises. -/
def transaction (body : Program Data Error Result) : Program Data Error Result :=
  ExceptT.mk fun setting =>
    match body.outcome setting with
    | (.ok result, after) => (.ok result, after)
    | (.error error, after) => (.error error, { after with data := setting.data })

section Outcomes

variable {setting after : Setting Data Error} {error : Error} {result : Result}

/-- A result leaves the setting as it was. -/
@[simp] theorem outcome_pure : (pure result : Program Data Error Result).outcome setting =
    (.ok result, setting) := rfl

/-- A raised error leaves the setting as it was. -/
@[simp] theorem outcome_throw : (throw error : Program Data Error Result).outcome setting =
    (.error error, setting) := rfl

/-- A sequence goes on from the setting that its first part left, unless that part
raised. -/
theorem outcome_bind (first : Program Data Error Other) (next : Other → Program Data Error Result) :
    (first >>= next).outcome setting = match first.outcome setting with
      | (.ok middle, after) => (next middle).outcome after
      | (.error error, after) => (.error error, after) := by
  unfold outcome
  change (ExceptT.bindCont next (first.run.run setting).1).run (first.run.run setting).2 = _
  rcases first.run.run setting with ⟨⟨error⟩ | ⟨middle⟩, after⟩ <;> rfl

/-- A handler runs in the setting in which the body raised. -/
theorem outcome_tryCatch (body : Program Data Error Result)
    (handler : Error → Program Data Error Result) :
    (tryCatch body handler).outcome setting = match body.outcome setting with
      | (.ok result, after) => (.ok result, after)
      | (.error error, after) => (handler error).outcome after := by
  unfold outcome
  have caught : (tryCatch body handler).run.run setting =
      (ExceptT.tryCatch body handler).run.run setting := rfl
  have run : StateT.run (body : StateM (Setting Data Error) (Except Error Result)) setting =
      body.run.run setting := rfl
  rw [caught, ExceptT.tryCatch, ExceptT.run_mk, StateT.run_bind, run]
  rcases body.run.run setting with ⟨⟨error⟩ | ⟨result⟩, after⟩ <;> rfl

/-- A statement takes the next fault or has its effect. -/
theorem outcome_statement (effect : Data → Except Error (Result × Data)) :
    (statement effect).outcome setting = perform effect setting := rfl

/-- A statement that returns did what its effect says. -/
theorem statement_ok {effect : Data → Except Error (Result × Data)}
    (ran : (statement effect).outcome setting = (.ok result, after)) :
    effect setting.data = .ok (result, after.data) := by
  rw [outcome_statement] at ran
  unfold perform at ran
  split at ran
  next => cases ran
  next =>
    split at ran
    next effected =>
      cases ran
      exact effected
    next => cases ran

/-- A statement that raises leaves the data alone. -/
theorem statement_error {effect : Data → Except Error (Result × Data)}
    (ran : (statement effect).outcome setting = (.error error, after)) :
    after.data = setting.data := by
  rw [outcome_statement] at ran
  unfold perform at ran
  split at ran
  next =>
    cases ran
    rfl
  next =>
    split at ran
    next => cases ran
    next =>
      cases ran
      rfl

/-- Without faults, a statement does what its effect says. -/
theorem statement_faultless {effect : Data → Except Error (Result × Data)} {data : Data}
    (faultless : ∀ fault ∈ setting.faults, fault = none)
    (effected : effect setting.data = .ok (result, data)) :
    (statement effect).outcome setting = (.ok result, ⟨data, setting.faults.tail⟩) := by
  rw [outcome_statement]
  unfold perform
  split
  next error rest head =>
    rw [head] at faultless
    cases faultless _ List.mem_cons_self
  next => rw [effected]

/-- Without faults, a statement raises what its effect raises. -/
theorem statement_raises {effect : Data → Except Error (Result × Data)}
    (faultless : ∀ fault ∈ setting.faults, fault = none)
    (ran : (statement effect).outcome setting = (.error error, after)) :
    effect setting.data = .error error := by
  rcases effected : effect setting.data with raised | ⟨result, data⟩
  · rw [outcome_statement] at ran
    unfold perform at ran
    split at ran
    next fault rest head =>
      rw [head] at faultless
      cases faultless _ List.mem_cons_self
    next =>
      rw [effected] at ran
      cases ran
      rfl
  · rw [statement_faultless faultless effected] at ran
    cases ran

/-- A transaction keeps what a body that returned did, and undoes what one that raised
did. -/
theorem outcome_transaction (body : Program Data Error Result) :
    (transaction body).outcome setting = match body.outcome setting with
      | (.ok result, after) => (.ok result, after)
      | (.error error, after) => (.error error, { after with data := setting.data }) := rfl

/-- Who returns from a sequence returned from both parts. -/
theorem bind_ok {first : Program Data Error Other} {next : Other → Program Data Error Result}
    (ran : (first >>= next).outcome setting = (.ok result, after)) :
    ∃ middle between, first.outcome setting = (.ok middle, between) ∧
      (next middle).outcome between = (.ok result, after) := by
  rw [outcome_bind] at ran
  rcases began : first.outcome setting with ⟨error | middle, between⟩
  · rw [began] at ran
    cases ran
  · rw [began] at ran
    exact ⟨middle, between, rfl, ran⟩

/-- A sequence raises what one of its parts raises. -/
theorem bind_error {first : Program Data Error Other} {next : Other → Program Data Error Result}
    (ran : (first >>= next).outcome setting = (.error error, after)) :
    first.outcome setting = (.error error, after) ∨
      ∃ middle between, first.outcome setting = (.ok middle, between) ∧
        (next middle).outcome between = (.error error, after) := by
  rw [outcome_bind] at ran
  rcases began : first.outcome setting with ⟨raised | middle, between⟩
  · rw [began] at ran
    cases ran
    exact Or.inl rfl
  · rw [began] at ran
    exact Or.inr ⟨middle, between, rfl, ran⟩

/-- Who returns from a transaction returned from its body. -/
theorem transaction_ok {body : Program Data Error Result}
    (ran : (transaction body).outcome setting = (.ok result, after)) :
    body.outcome setting = (.ok result, after) := by
  rw [outcome_transaction] at ran
  rcases inner : body.outcome setting with ⟨error | other, between⟩
  · rw [inner] at ran
    cases ran
  · rw [inner] at ran
    exact ran

/-- A transaction that raises leaves the data alone. -/
theorem transaction_error {body : Program Data Error Result}
    (ran : (transaction body).outcome setting = (.error error, after)) :
    after.data = setting.data := by
  rw [outcome_transaction] at ran
  rcases inner : body.outcome setting with ⟨raised | other, between⟩
  · rw [inner] at ran
    cases ran
    rfl
  · rw [inner] at ran
    cases ran

/-- What is raised was raised by the handler, after the body raised. -/
theorem tryCatch_cases {body : Program Data Error Result}
    {handler : Error → Program Data Error Result} {ended : Except Error Result}
    (ran : (tryCatch body handler).outcome setting = (ended, after)) :
    (∃ result, ended = .ok result ∧ body.outcome setting = (.ok result, after)) ∨
      ∃ error between, body.outcome setting = (.error error, between) ∧
        (handler error).outcome between = (ended, after) := by
  rw [outcome_tryCatch] at ran
  rcases tried : body.outcome setting with ⟨error | other, between⟩
  · rw [tried] at ran
    exact Or.inr ⟨error, between, rfl, ran⟩
  · rw [tried] at ran
    cases ran
    exact Or.inl ⟨other, rfl, rfl⟩

end Outcomes

section AllOrNothing

/-- The program never changes the data. -/
def Reads (program : Program Data Error Result) : Prop :=
  ∀ setting, (program.outcome setting).2.data = setting.data

/-- A result that means failure comes with unchanged data, whatever an exception leaves. -/
def Refuses (failed : Result → Prop) (program : Program Data Error Result) : Prop :=
  ∀ setting result after, program.outcome setting = (.ok result, after) → failed result →
    after.data = setting.data

/-- A result that means failure, and an exception, come with unchanged data. -/
structure AllOrNothing (failed : Result → Prop) (program : Program Data Error Result) : Prop where
  refuses : Refuses failed program
  raises : ∀ setting error after, program.outcome setting = (.error error, after) →
    after.data = setting.data

variable {failed : Result → Prop} {missed : Other → Prop} {first : Program Data Error Other}
  {next : Other → Program Data Error Result} {program : Program Data Error Result}

/-- A result changes no data. -/
theorem reads_pure (result : Result) : Reads (pure result : Program Data Error Result) :=
  fun _ => rfl

/-- A raised error changes no data. -/
theorem reads_throw (error : Error) : Reads (throw error : Program Data Error Result) :=
  fun _ => rfl

/-- A query changes no data. -/
theorem reads_select (read : Data → Result) : Reads (select read : Program Data Error Result) := by
  intro setting
  rcases ran : (select read).outcome setting with ⟨error | result, after⟩
  · exact statement_error ran
  · have same := statement_ok ran
    exact (congrArg Prod.snd (Except.ok.inj same)).symm

/-- A program reads when it reads whatever it returns, and whatever it raises. -/
theorem reads_of_cases
    (returns : ∀ setting result after, program.outcome setting = (.ok result, after) →
      after.data = setting.data)
    (raises : ∀ setting error after, program.outcome setting = (.error error, after) →
      after.data = setting.data) : Reads program := by
  intro setting
  rcases ran : program.outcome setting with ⟨error | result, after⟩
  · exact raises setting error after ran
  · exact returns setting result after ran

/-- A program that only reads returns over the same data. -/
theorem Reads.ok (reads : Reads program) {setting after : Setting Data Error} {result : Result}
    (ran : program.outcome setting = (.ok result, after)) : after.data = setting.data := by
  rw [← reads setting, ran]

/-- A program that only reads raises over the same data. -/
theorem Reads.error (reads : Reads program) {setting after : Setting Data Error} {error : Error}
    (ran : program.outcome setting = (.error error, after)) : after.data = setting.data := by
  rw [← reads setting, ran]

/-- A program that only reads is all or nothing, whatever counts as a failure. -/
theorem Reads.allOrNothing (reads : Reads program) : AllOrNothing failed program where
  refuses _ _ _ ran _ := reads.ok ran
  raises _ _ _ ran := reads.error ran

/-- Two programs that only read do so one after the other. -/
theorem Reads.bind (reads : Reads first) (rest : ∀ middle, Reads (next middle)) :
    Reads (first >>= next) := by
  refine reads_of_cases ?_ ?_
  · intro setting result after ran
    obtain ⟨middle, between, began, ended⟩ := bind_ok ran
    exact ((rest middle).ok ended).trans (reads.ok began)
  · intro setting error after ran
    rcases bind_error ran with raised | ⟨middle, between, began, ended⟩
    · exact reads.error raised
    · exact ((rest middle).error ended).trans (reads.ok began)

/-- What a program reads first changes nothing. -/
theorem AllOrNothing.bind (reads : Reads first)
    (rest : ∀ middle, AllOrNothing failed (next middle)) :
    AllOrNothing failed (first >>= next) where
  refuses := by
    intro setting result after ran failure
    obtain ⟨middle, between, began, ended⟩ := bind_ok ran
    exact ((rest middle).refuses between result after ended failure).trans (reads.ok began)
  raises := by
    intro setting error after ran
    rcases bind_error ran with raised | ⟨middle, between, began, ended⟩
    · exact reads.error raised
    · exact ((rest middle).raises between error after ended).trans (reads.ok began)

/-- A transaction is all or nothing when its body refuses nothing that it did. -/
theorem allOrNothing_transaction (refuses : Refuses failed program) :
    AllOrNothing failed (transaction program) where
  refuses setting result after ran failure :=
    refuses setting result after (transaction_ok ran) failure
  raises _ _ _ ran := transaction_error ran

/-- What handles an exception starts from unchanged data. -/
theorem AllOrNothing.tryCatch {handler : Error → Program Data Error Result}
    (body : AllOrNothing failed program) (handles : ∀ error, AllOrNothing failed (handler error)) :
    AllOrNothing failed (MonadExcept.tryCatch program handler) where
  refuses := by
    intro setting result after ran failure
    rcases tryCatch_cases ran with ⟨other, same, tried⟩ | ⟨error, between, tried, handled⟩
    · cases same
      exact body.refuses setting result after tried failure
    · exact ((handles error).refuses between result after handled failure).trans
        (body.raises setting error between tried)
  raises := by
    intro setting error after ran
    rcases tryCatch_cases ran with ⟨other, same, _⟩ | ⟨raised, between, tried, handled⟩
    · cases same
    · exact ((handles raised).raises between error after handled).trans
        (body.raises setting raised between tried)

/-- What a result means is read off it. -/
theorem AllOrNothing.map {meaning : Other → Result}
    (atomic : AllOrNothing (fun middle => failed (meaning middle)) first) :
    AllOrNothing failed (first >>= fun middle => pure (meaning middle)) where
  refuses := by
    intro setting result after ran failure
    obtain ⟨middle, between, began, ended⟩ := bind_ok ran
    cases ended
    exact atomic.refuses setting middle _ began failure
  raises := by
    intro setting error after ran
    rcases bind_error ran with raised | ⟨middle, between, _, ended⟩
    · exact atomic.raises setting error after raised
    · cases ended

/-- A program that is all or nothing stays so when fewer results count as failures. -/
theorem AllOrNothing.mono {weaker : Result → Prop} (atomic : AllOrNothing weaker program)
    (implies : ∀ result, failed result → weaker result) : AllOrNothing failed program where
  refuses setting result after ran failure :=
    atomic.refuses setting result after ran (implies result failure)
  raises := atomic.raises

/-- A list of programs that only read only reads. -/
theorem reads_mapM {Item : Type} {each : Item → Program Data Error Other}
    (reads : ∀ item, Reads (each item)) (items : List Item) : Reads (items.mapM each) := by
  induction items with
  | nil =>
      rw [List.mapM_nil]
      exact reads_pure _
  | cons item rest ih =>
      rw [List.mapM_cons]
      exact (reads item).bind fun _ => ih.bind fun _ => reads_pure _

end AllOrNothing

section Refusals

variable {failed : Result → Prop} {missed : Other → Prop} {first : Program Data Error Other}
  {next : Other → Program Data Error Result} {program : Program Data Error Result}

/-- A program that only reads changes nothing where it fails. -/
theorem Reads.refuses (reads : Reads program) : Refuses failed program :=
  reads.allOrNothing.refuses

/-- A statement refuses what has no effect. -/
theorem refuses_statement {effect : Data → Result × Data}
    (idle : ∀ data, failed (effect data).1 → (effect data).2 = data) :
    Refuses failed (statement fun data => (.ok (effect data) : Except Error (Result × Data))) := by
  intro setting result after ran failure
  have effected : effect setting.data = (result, after.data) := Except.ok.inj (statement_ok ran)
  have same := idle setting.data
  rw [effected] at same
  exact same failure

/-- The program returns no result that means failure. -/
def Accepts (failed : Result → Prop) (program : Program Data Error Result) : Prop :=
  ∀ setting result after, program.outcome setting = (.ok result, after) → ¬failed result

/-- A result that is no failure is accepted. -/
theorem accepts_pure {result : Result} (accepted : ¬failed result) :
    Accepts failed (pure result : Program Data Error Result) := by
  intro setting other after ran
  cases ran
  exact accepted

/-- A sequence whose last part never fails never fails. -/
theorem Accepts.bind (rest : ∀ middle, Accepts failed (next middle)) :
    Accepts failed (first >>= next) := by
  intro setting result after ran
  obtain ⟨middle, between, _, ended⟩ := bind_ok ran
  exact rest middle between result after ended

/-- A program refuses what its first statement missed, and nothing after that. -/
theorem Refuses.bind (refuses : Refuses missed first)
    (onMissed : ∀ middle, missed middle → Reads (next middle))
    (otherwise : ∀ middle, ¬missed middle → Accepts failed (next middle)) :
    Refuses failed (first >>= next) := by
  intro setting result after ran failure
  obtain ⟨middle, between, began, ended⟩ := bind_ok ran
  by_cases miss : missed middle
  · exact ((onMissed middle miss).ok ended).trans (refuses setting middle between began miss)
  · exact absurd failure (otherwise middle miss between result after ended)

/-- What a program reads first changes nothing. -/
theorem Refuses.of_reads (reads : Reads first) (rest : ∀ middle, Refuses failed (next middle)) :
    Refuses failed (first >>= next) := by
  intro setting result after ran failure
  obtain ⟨middle, between, began, ended⟩ := bind_ok ran
  exact (rest middle between result after ended failure).trans (reads.ok began)

end Refusals

section Within

/-- However the program ends, it leaves data that is related to what it started from. -/
def Within (related : Data → Data → Prop) (program : Program Data Error Result) : Prop :=
  ∀ setting, related setting.data (program.outcome setting).2.data

variable {related : Data → Data → Prop} {first : Program Data Error Other}
  {next : Other → Program Data Error Result} {program : Program Data Error Result}

/-- A program that only reads stays within every reflexive relation. -/
theorem Reads.within [Std.Refl related] (reads : Reads program) : Within related program := by
  intro setting
  rw [reads setting]
  exact Std.Refl.refl setting.data

/-- A statement whose effect stays within a reflexive relation does so when a fault
strikes as well. -/
theorem within_statement [Std.Refl related] {effect : Data → Except Error (Result × Data)}
    (effective : ∀ data result changed, effect data = .ok (result, changed) →
      related data changed) :
    Within related (statement effect) := by
  intro setting
  rcases ran : (statement effect).outcome setting with ⟨error | result, after⟩
  · dsimp only
    rw [statement_error ran]
    exact Std.Refl.refl setting.data
  · exact effective setting.data result after.data (statement_ok ran)

/-- Two programs stay within a transitive relation one after the other. -/
theorem Within.bind [IsTrans Data related] (within : Within related first)
    (rest : ∀ middle, Within related (next middle)) : Within related (first >>= next) := by
  intro setting
  have began := within setting
  rw [outcome_bind]
  rcases ran : first.outcome setting with ⟨error | middle, between⟩
  · rw [ran] at began
    exact began
  · rw [ran] at began
    exact IsTrans.trans _ _ _ began (rest middle between)

/-- What a transaction undoes is as it was. -/
theorem Within.transaction [Std.Refl related] (within : Within related program) :
    Within related (Program.transaction program) := by
  intro setting
  have inner := within setting
  rw [outcome_transaction]
  rcases ran : program.outcome setting with ⟨error | result, after⟩
  · exact Std.Refl.refl setting.data
  · rw [ran] at inner
    exact inner

/-- A program and its handler stay within a transitive relation together. -/
theorem Within.tryCatch [IsTrans Data related] {handler : Error → Program Data Error Result}
    (within : Within related program) (handles : ∀ error, Within related (handler error)) :
    Within related (MonadExcept.tryCatch program handler) := by
  intro setting
  have tried := within setting
  rcases ran : (MonadExcept.tryCatch program handler).outcome setting with ⟨ended, after⟩
  rcases tryCatch_cases ran with ⟨result, -, returned⟩ | ⟨error, between, raised, handled⟩
  · rw [returned] at tried
    exact tried
  · have rest := handles error between
    rw [raised] at tried
    rw [handled] at rest
    exact IsTrans.trans _ _ _ tried rest

end Within

end Program

end Foundation
