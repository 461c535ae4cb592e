import LarkBot.Foundation.Transaction

/-! # What a program commits

A program is deterministic up to the faults that strike it. `Foundation.Program.Computes` says how
it ends from some data unless a possible fault strikes, and `Foundation.Program.Commits` says
besides that a fault leaves the data as they were; a transaction turns the one into the other. Where
no fault is possible, both say exactly how the program ends.
-/

namespace Foundation

/-- The faults that are still to strike are possible ones. -/
def Setting.FaultsIn {Data Error : Type} (possible : Error → Prop) (setting : Setting Data Error) :
    Prop :=
  ∀ fault, some fault ∈ setting.faults → possible fault

namespace Program

variable {Data Error Result Other : Type}

/-- A possible fault ended the program. -/
def Struck (possible : Error → Prop) (ended : Except Error Result) : Prop :=
  ∃ fault, possible fault ∧ ended = .error fault

/-- Whatever possible faults are to come, the program ends as `post` says. -/
def Always (possible : Error → Prop) (program : Program Data Error Result) (data : Data)
    (post : Except Error Result → Data → Prop) : Prop :=
  ∀ setting : Setting Data Error, setting.data = data → setting.FaultsIn possible →
    post (program.outcome setting).1 (program.outcome setting).2.data ∧
      (program.outcome setting).2.FaultsIn possible

/-- The program ends like this, unless a fault strikes. -/
def Computes (possible : Error → Prop) (program : Program Data Error Result) (data : Data)
    (ended : Except Error Result) (after : Data) : Prop :=
  Always possible program data fun actual left => actual = ended ∧ left = after ∨
    Struck possible actual

/-- The program ends like this, unless a fault strikes, which leaves the data. -/
def Commits (possible : Error → Prop) (program : Program Data Error Result) (data : Data)
    (ended : Except Error Result) (after : Data) : Prop :=
  Always possible program data fun actual left => actual = ended ∧ left = after ∨
    Struck possible actual ∧ left = data

variable {possible : Error → Prop} {program : Program Data Error Result} {data after between : Data}
  {first : Program Data Error Other} {next : Other → Program Data Error Result}
  {ended : Except Error Result} {middle : Other} {error : Error} {result : Result}
  {post weaker : Except Error Result → Data → Prop} {begun : Except Error Other → Data → Prop}

/-- A program that always ends in a condition always ends in a weaker one. -/
theorem Always.mono (always : Always possible program data post)
    (implies : ∀ ended after, post ended after → weaker ended after) :
    Always possible program data weaker := by
  intro setting same faults
  obtain ⟨holds, left⟩ := always setting same faults
  exact ⟨implies _ _ holds, left⟩

/-- A result ends the program at once, whatever faults are to come. -/
theorem always_pure (holds : post (.ok result) data) :
    Always possible (pure result : Program Data Error Result) data post := by
  rintro setting rfl faults
  exact ⟨holds, faults⟩

/-- A raised error ends the program at once, whatever faults are to come. -/
theorem always_throw (holds : post (.error error) data) :
    Always possible (throw error : Program Data Error Result) data post := by
  rintro setting rfl faults
  exact ⟨holds, faults⟩

/-- A statement has its effect, or raises a fault. -/
theorem always_statement {effect : Data → Except Error (Result × Data)}
    (strikes : ∀ fault, possible fault → post (.error fault) data)
    (returns : ∀ result after, effect data = .ok (result, after) → post (.ok result) after)
    (raises : ∀ error, effect data = .error error → post (.error error) data) :
    Always possible (statement effect) data post := by
  rintro setting rfl faults
  rw [outcome_statement]
  have later : ∀ fault, some fault ∈ setting.faults.tail → possible fault :=
    fun fault member => faults fault (List.mem_of_mem_tail member)
  unfold perform
  split
  next fault rest head =>
    refine ⟨strikes fault (faults fault ?_), fun other member => later other ?_⟩
    · rw [head]
      exact List.mem_cons_self
    · rw [head]
      exact member
  next =>
    split
    next result after effected => exact ⟨returns result after effected, later⟩
    next error raised => exact ⟨raises error raised, later⟩

/-- A sequence is judged by its first part up to a middle condition, and from there by
the second. -/
theorem Always.bind (begins : Always possible first data begun)
    (goesOn : ∀ middle between, begun (.ok middle) between →
      Always possible (next middle) between post)
    (raises : ∀ error between, begun (.error error) between → post (.error error) between) :
    Always possible (first >>= next) data post := by
  intro setting same faults
  obtain ⟨holds, left⟩ := begins setting same faults
  rw [outcome_bind]
  rcases ran : first.outcome setting with ⟨error | middle, between⟩
  · rw [ran] at holds left
    exact ⟨raises error between.data holds, left⟩
  · rw [ran] at holds left
    exact goesOn middle between.data holds between rfl left

/-- A transaction keeps the data of a body that returned, and restores the earlier data
when it raised. -/
theorem Always.transaction (always : Always possible program data post)
    (returns : ∀ result after, post (.ok result) after → weaker (.ok result) after)
    (raises : ∀ error after, post (.error error) after → weaker (.error error) data) :
    Always possible (Program.transaction program) data weaker := by
  rintro setting rfl faults
  obtain ⟨holds, left⟩ := always setting rfl faults
  rw [outcome_transaction]
  rcases ran : program.outcome setting with ⟨error | result, after⟩
  · rw [ran] at holds left
    exact ⟨raises error after.data holds, left⟩
  · rw [ran] at holds left
    exact ⟨returns result after.data holds, left⟩

/-- A handler is judged from where the program raised, and a value passes it by. -/
theorem Always.tryCatch {handler : Error → Program Data Error Result}
    (always : Always possible program data post)
    (returns : ∀ result after, post (.ok result) after → weaker (.ok result) after)
    (handles : ∀ error after, post (.error error) after →
      Always possible (handler error) after weaker) :
    Always possible (MonadExcept.tryCatch program handler) data weaker := by
  intro setting same faults
  obtain ⟨holds, left⟩ := always setting same faults
  rw [outcome_tryCatch]
  rcases ran : program.outcome setting with ⟨error | result, after⟩
  · rw [ran] at holds left
    exact handles error after.data holds after rfl left
  · rw [ran] at holds left
    exact ⟨returns result after.data holds, left⟩

section Computes

/-- A result leaves the data. -/
theorem computes_pure : Computes possible (pure result : Program Data Error Result) data
    (.ok result) data :=
  always_pure (Or.inl ⟨rfl, rfl⟩)

/-- A raised error leaves the data. -/
theorem computes_throw : Computes possible (throw error : Program Data Error Result) data
    (.error error) data :=
  always_throw (Or.inl ⟨rfl, rfl⟩)

/-- A statement computes its effect when the effect succeeds. -/
theorem computes_statement {effect : Data → Except Error (Result × Data)}
    (effected : effect data = .ok (result, after)) :
    Computes possible (statement effect) data (.ok result) after := by
  refine always_statement (fun fault known => Or.inr ⟨fault, known, rfl⟩) ?_ ?_
  · intro other left same
    rw [effected] at same
    cases same
    exact Or.inl ⟨rfl, rfl⟩
  · intro error raised
    rw [effected] at raised
    cases raised

/-- A statement whose effect raises leaves the data. -/
theorem computes_raise {effect : Data → Except Error (Result × Data)}
    (raised : effect data = .error error) :
    Computes possible (statement effect) data (.error error) data := by
  refine always_statement (fun fault known => Or.inr ⟨fault, known, rfl⟩) ?_ ?_
  · intro other left same
    rw [raised] at same
    cases same
  · intro other same
    rw [raised] at same
    cases same
    exact Or.inl ⟨rfl, rfl⟩

/-- A query computes what it reads and leaves the data. -/
theorem computes_select (read : Data → Result) :
    Computes possible (select read : Program Data Error Result) data (.ok (read data)) data :=
  computes_statement rfl

/-- Two programs that compute what they should do so one after the other. -/
theorem Computes.bind (begins : Computes possible first data (.ok middle) between)
    (goesOn : Computes possible (next middle) between ended after) :
    Computes possible (first >>= next) data ended after := by
  refine Always.bind begins ?_ ?_
  · rintro other left (⟨same, rfl⟩ | ⟨fault, _, struck⟩)
    · cases same
      exact goesOn
    · cases struck
  · rintro other left (⟨same, _⟩ | ⟨fault, known, struck⟩)
    · cases same
    · cases struck
      exact Or.inr ⟨_, known, rfl⟩

/-- A program that raises does so in front of whatever follows it. -/
theorem Computes.bind_error (raises : Computes possible first data (.error error) between) :
    Computes possible (first >>= next) data (.error error) between := by
  refine Always.bind raises ?_ ?_
  · rintro other left (⟨same, _⟩ | ⟨fault, _, struck⟩)
    · cases same
    · cases struck
  · rintro other left (⟨same, rfl⟩ | ⟨fault, known, struck⟩)
    · cases same
      exact Or.inl ⟨rfl, rfl⟩
    · cases struck
      exact Or.inr ⟨_, known, rfl⟩

end Computes

section Commits

/-- A result leaves the data, so there is nothing to commit. -/
theorem commits_pure : Commits possible (pure result : Program Data Error Result) data
    (.ok result) data :=
  always_pure (Or.inl ⟨rfl, rfl⟩)

/-- A raised error leaves the data, so there is nothing to roll back. -/
theorem commits_throw : Commits possible (throw error : Program Data Error Result) data
    (.error error) data :=
  always_throw (Or.inl ⟨rfl, rfl⟩)

/-- A transaction commits what its body computes. -/
theorem Computes.commits (computes : Computes possible program data (.ok result) after) :
    Commits possible (transaction program) data (.ok result) after := by
  refine Always.transaction computes ?_ ?_
  · rintro other left (⟨same, rfl⟩ | ⟨fault, _, struck⟩)
    · exact Or.inl ⟨same, rfl⟩
    · cases struck
  · rintro other left (⟨same, _⟩ | struck)
    · cases same
    · exact Or.inr ⟨struck, rfl⟩

/-- A transaction undoes what a body that raises computed. -/
theorem Computes.undone (computes : Computes possible program data (.error error) after) :
    Commits possible (transaction program) data (.error error) data := by
  refine Always.transaction computes ?_ ?_
  · rintro other left (⟨same, _⟩ | ⟨fault, _, struck⟩)
    · cases same
    · cases struck
  · rintro other left (⟨same, _⟩ | struck)
    · exact Or.inl ⟨same, rfl⟩
    · exact Or.inr ⟨struck, rfl⟩

/-- What comes after the commit only returns. -/
theorem Commits.returns (commits : Commits possible first data (.ok middle) after)
    (returns : next middle = pure result) :
    Commits possible (first >>= next) data (.ok result) after := by
  refine Always.bind commits ?_ ?_
  · rintro other left (⟨same, rfl⟩ | ⟨⟨fault, _, struck⟩, _⟩)
    · cases same
      rw [returns]
      exact always_pure (Or.inl ⟨rfl, rfl⟩)
    · cases struck
  · rintro other left (⟨same, _⟩ | ⟨⟨fault, known, struck⟩, rfl⟩)
    · cases same
    · cases struck
      exact Or.inr ⟨⟨_, known, rfl⟩, rfl⟩

/-- What is returned is read off what was committed. -/
theorem Commits.map (meaning : Other → Result)
    (commits : Commits possible first data (.ok middle) after) :
    Commits possible (first >>= fun middle => pure (meaning middle)) data (.ok (meaning middle))
      after :=
  commits.returns rfl

/-- A program that raises commits what it did in front of whatever follows it. -/
theorem Commits.bind_error (raises : Commits possible first data (.error error) after) :
    Commits possible (first >>= next) data (.error error) after := by
  refine Always.bind raises ?_ ?_
  · rintro other left (⟨same, _⟩ | ⟨⟨fault, _, struck⟩, _⟩)
    · cases same
    · cases struck
  · rintro other left (⟨same, rfl⟩ | ⟨⟨fault, known, struck⟩, rfl⟩)
    · cases same
      exact Or.inl ⟨rfl, rfl⟩
    · cases struck
      exact Or.inr ⟨⟨_, known, rfl⟩, rfl⟩

end Commits

end Program

end Foundation
