import Mathlib.Data.List.Induction

/-! # Histories

What happened, in order. A history grows at its end, so a property of it is
proved by one rule: what holds of a history and survives one more action holds
after every run that only adds actions.
-/

namespace Foundation.History

variable {α : Type*}

/-- Every action was allowed after the actions before it. -/
def Throughout (allowed : List α → α → Prop) (history : List α) : Prop :=
  ∀ before action after, history = before ++ action :: after → allowed before action

/-- `rest` is what happened since some marked action. -/
def Since (marks : α → Prop) (history rest : List α) : Prop :=
  ∃ before mark, marks mark ∧ history = before ++ mark :: rest

/-- A marked action happened, and nothing since then closed it. -/
def Open (marks closes : α → Prop) (history : List α) : Prop :=
  ∃ rest, Since marks history rest ∧ ∀ action ∈ rest, ¬ closes action

variable {allowed : List α → α → Prop} {marks closes : α → Prop} {history rest : List α}
  {action : α}

/-- A split of a longer history splits the shorter one, or cuts off its last action. -/
theorem concat_eq_split {before after : List α} {mark : α} :
    history ++ [action] = before ++ mark :: after ↔
      after = [] ∧ before = history ∧ mark = action ∨
        ∃ shorter, after = shorter ++ [action] ∧ history = before ++ mark :: shorter := by
  constructor
  · intro split
    rcases List.eq_nil_or_concat after with rfl | ⟨shorter, last, rfl⟩
    · obtain ⟨same, lastSame⟩ := List.append_inj' split rfl
      exact Or.inl ⟨rfl, same.symm, (List.singleton_inj.mp lastSame).symm⟩
    · rw [List.concat_eq_append, ← List.cons_append, ← List.append_assoc] at split
      obtain ⟨same, lastSame⟩ := List.append_inj' split rfl
      obtain rfl : action = last := List.singleton_inj.mp lastSame
      exact Or.inr ⟨shorter, List.concat_eq_append, same⟩
  · rintro (⟨rfl, rfl, rfl⟩ | ⟨shorter, rfl, rfl⟩)
    · rfl
    · rw [List.append_assoc, List.cons_append]

/-- In the empty history everything was allowed. -/
@[simp] theorem throughout_nil : Throughout allowed [] := by
  intro before action after split
  cases before <;> cases split

/-- One more action is allowed after all that came before it. -/
@[simp] theorem throughout_concat :
    Throughout allowed (history ++ [action]) ↔
      Throughout allowed history ∧ allowed history action := by
  constructor
  · intro held
    refine ⟨fun before earlier after split => ?_, held history action [] rfl⟩
    apply held before earlier (after ++ [action])
    rw [split, List.append_assoc, List.cons_append]
  · rintro ⟨held, last⟩ before earlier after split
    rcases concat_eq_split.mp split with ⟨_, rfl, rfl⟩ | ⟨shorter, _, same⟩
    · exact last
    · exact held before earlier shorter same

/-- What came since a marked action still came since it in a longer history. -/
theorem Since.append (since : Since marks history rest) (added : List α) :
    Since marks (history ++ added) (rest ++ added) := by
  obtain ⟨before, mark, marked, rfl⟩ := since
  exact ⟨before, mark, marked, by rw [List.append_assoc, List.cons_append]⟩

/-- What happened came since the actions before it. -/
theorem since_of_mem (member : action ∈ history) (marked : marks action) :
    ∃ rest, Since marks history rest := by
  obtain ⟨before, rest, rfl⟩ := List.append_of_mem member
  exact ⟨rest, before, action, marked, rfl⟩

/-- The rule at one place of the history. -/
theorem Throughout.at {index : Nat} (held : Throughout allowed history)
    (found : history[index]? = some action) : allowed (history.take index) action := by
  obtain ⟨bound, rfl⟩ := List.getElem?_eq_some_iff.mp found
  apply held _ history[index] (history.drop (index + 1))
  rw [List.getElem_cons_drop, List.take_append_drop]

/-- Nothing happened since a mark that was never set. -/
@[simp] theorem not_since_nil : ¬ Since marks [] rest := by
  rintro ⟨before, mark, _, split⟩
  cases before <;> cases split

/-- What happened since a mark grows with the history, or starts anew at the mark. -/
@[simp] theorem since_concat :
    Since marks (history ++ [action]) rest ↔
      rest = [] ∧ marks action ∨
        ∃ shorter, rest = shorter ++ [action] ∧ Since marks history shorter := by
  constructor
  · rintro ⟨before, mark, marked, split⟩
    rcases concat_eq_split.mp split with ⟨rfl, _, rfl⟩ | ⟨shorter, rfl, same⟩
    · exact Or.inl ⟨rfl, marked⟩
    · exact Or.inr ⟨shorter, rfl, before, mark, marked, same⟩
  · rintro (⟨rfl, marked⟩ | ⟨shorter, rfl, before, mark, marked, rfl⟩)
    · exact ⟨history, action, marked, rfl⟩
    · exact ⟨before, mark, marked, by rw [List.append_assoc, List.cons_append]⟩

/-- What follows a marked action came since it. -/
theorem since_of_getElem? {index : Nat} (found : history[index]? = some action)
    (marked : marks action) : Since marks history (history.drop (index + 1)) := by
  obtain ⟨bound, rfl⟩ := List.getElem?_eq_some_iff.mp found
  refine ⟨history.take index, history[index], marked, ?_⟩
  rw [List.getElem_cons_drop, List.take_append_drop]

/-- Only a history that has a marked action has something since it. -/
theorem Since.marked (since : Since marks history rest) : ∃ mark ∈ history, marks mark := by
  obtain ⟨before, mark, marked, rfl⟩ := since
  exact ⟨mark, List.mem_append_right _ List.mem_cons_self, marked⟩

/-- Nothing is open in the empty history. -/
@[simp] theorem not_open_nil : ¬ Open marks closes [] := by
  rintro ⟨rest, since, _⟩
  exact not_since_nil since

/-- The last action opens, or it leaves open what was. -/
@[simp] theorem open_concat :
    Open marks closes (history ++ [action]) ↔
      marks action ∨ Open marks closes history ∧ ¬ closes action := by
  constructor
  · rintro ⟨rest, since, unclosed⟩
    rcases since_concat.mp since with ⟨_, marked⟩ | ⟨shorter, rfl, earlier⟩
    · exact Or.inl marked
    · refine Or.inr ⟨⟨shorter, earlier, fun other member => ?_⟩, ?_⟩
      · exact unclosed other (List.mem_append_left _ member)
      · exact unclosed action (List.mem_append_right _ List.mem_cons_self)
  · rintro (marked | ⟨⟨rest, since, unclosed⟩, keeps⟩)
    · exact ⟨[], since_concat.mpr (Or.inl ⟨rfl, marked⟩), nofun⟩
    · refine ⟨rest ++ [action], since_concat.mpr (Or.inr ⟨rest, rfl, since⟩), ?_⟩
      intro other member
      rcases List.mem_append.mp member with old | last
      · exact unclosed other old
      · rw [List.mem_singleton.mp last]
        exact keeps

/-- A marked action opens a history in which nothing closes. -/
theorem open_of_mem (member : action ∈ history) (marked : marks action)
    (unclosed : ∀ other ∈ history, ¬ closes other) : Open marks closes history := by
  obtain ⟨before, rest, rfl⟩ := List.append_of_mem member
  refine ⟨rest, ⟨before, action, marked, rfl⟩, fun other later => ?_⟩
  exact unclosed other (List.mem_append_right _ (List.mem_cons_of_mem _ later))

/-- What opened earlier stays open while nothing of the addition closes it. -/
theorem open_append {added : List α} :
    Open marks closes (history ++ added) ↔
      Open marks closes added ∨ Open marks closes history ∧ ∀ other ∈ added, ¬ closes other := by
  induction added using List.reverseRecOn with
  | nil => simp only [List.append_nil, not_open_nil, List.not_mem_nil, false_implies, implies_true,
      and_true, false_or]
  | append_singleton added last ih =>
      rw [← List.append_assoc, open_concat, open_concat, ih]
      simp only [List.mem_append, List.mem_singleton, or_imp, forall_and, forall_eq]
      tauto

/-- What happened since a mark of a longer history began in its first part or in what
was added. -/
theorem since_append {added : List α} (since : Since marks (history ++ added) rest) :
    (∃ shorter, rest = shorter ++ added ∧ Since marks history shorter) ∨
      Since marks added rest := by
  induction added using List.reverseRecOn generalizing rest with
  | nil =>
      rw [List.append_nil] at since
      exact Or.inl ⟨rest, (List.append_nil rest).symm, since⟩
  | append_singleton added last ih =>
      rw [← List.append_assoc, since_concat] at since
      rcases since with ⟨empty, marked⟩ | ⟨shorter, rfl, earlier⟩
      · exact Or.inr (since_concat.mpr (Or.inl ⟨empty, marked⟩))
      · rcases ih earlier with ⟨start, rfl, old⟩ | new
        · exact Or.inl ⟨start, List.append_assoc _ _ _, old⟩
        · exact Or.inr (since_concat.mpr (Or.inr ⟨shorter, rfl, new⟩))

/-- Appended actions are allowed one after the other. -/
theorem throughout_append {added : List α} :
    Throughout allowed (history ++ added) ↔ Throughout allowed history ∧
      Throughout (fun before action => allowed (history ++ before) action) added := by
  induction added using List.reverseRecOn with
  | nil => simp only [List.append_nil, throughout_nil, and_true]
  | append_singleton added last ih =>
      rw [← List.append_assoc, throughout_concat, throughout_concat, ih, and_assoc]

/-- The first action is allowed after nothing. -/
theorem throughout_singleton : Throughout allowed [action] ↔ allowed [] action := by
  rw [← List.nil_append [action], throughout_concat]
  exact ⟨And.right, fun last => ⟨throughout_nil, last⟩⟩

/-- Of two actions each is allowed after those before it. -/
theorem throughout_pair {second : α} :
    Throughout allowed [action, second] ↔ allowed [] action ∧ allowed [action] second := by
  rw [← List.singleton_append, throughout_concat, throughout_singleton]

end Foundation.History
