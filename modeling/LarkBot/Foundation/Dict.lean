import Mathlib.Data.List.Basic
import Mathlib.Data.List.Nodup

/-! # Insertion-ordered dictionaries

A dictionary is the list of its entries in insertion order, with every key at
most once. Writing an existing key keeps its place; writing a new key appends it.
-/

namespace Foundation

/-- Entries in insertion order, each key at most once. -/
structure Dict (κ ν : Type*) where
  entries : List (κ × ν)
  nodup : (entries.map Prod.fst).Nodup

namespace Dict

variable {κ ν : Type*}

/-- The dictionary without entries. -/
def empty : Dict κ ν := ⟨[], List.nodup_nil⟩

instance : Inhabited (Dict κ ν) := ⟨empty⟩

/-- Two dictionaries with the same entries in the same order are equal. -/
@[ext] theorem ext {left right : Dict κ ν} (entries : left.entries = right.entries) :
    left = right := by
  cases left
  cases right
  cases entries
  rfl

def keys (dict : Dict κ ν) : List κ := dict.entries.map Prod.fst

def values (dict : Dict κ ν) : List ν := dict.entries.map Prod.snd

/-- Keep the entries that satisfy `keep`, in order. -/
def filter (keep : κ × ν → Bool) (dict : Dict κ ν) : Dict κ ν :=
  ⟨dict.entries.filter keep, dict.nodup.sublist (List.filter_sublist.map _)⟩

/-- The entries of a filtered dict are those that the filter keeps. -/
theorem mem_filter {keep : κ × ν → Bool} {dict : Dict κ ν} {entry : κ × ν} :
    entry ∈ (dict.filter keep).entries ↔ entry ∈ dict.entries ∧ keep entry :=
  List.mem_filter

/-- Change every value, in its place. -/
def mapValues (change : ν → ν) (dict : Dict κ ν) : Dict κ ν :=
  ⟨dict.entries.map fun entry => (entry.1, change entry.2), by
    rw [List.map_map]
    exact dict.nodup⟩

/-- An entry of a mapped dict is the image of an entry under the same key. -/
theorem mem_mapValues {change : ν → ν} {dict : Dict κ ν} {key : κ} {value : ν} :
    (key, value) ∈ (dict.mapValues change).entries ↔
      ∃ old, (key, old) ∈ dict.entries ∧ change old = value := by
  constructor
  · intro member
    obtain ⟨⟨_, old⟩, inside, same⟩ := List.mem_map.mp member
    cases same
    exact ⟨old, inside, rfl⟩
  · rintro ⟨old, inside, rfl⟩
    exact List.mem_map.mpr ⟨(key, old), inside, rfl⟩

/-- Mapping the values leaves the keys and their order. -/
@[simp] theorem keys_mapValues {change : ν → ν} {dict : Dict κ ν} :
    (dict.mapValues change).keys = dict.keys := by
  unfold keys mapValues
  rw [List.map_map]
  rfl

/-- An entry is determined by its key. -/
theorem value_unique {dict : Dict κ ν} {key : κ} {first second : ν}
    (firstMem : (key, first) ∈ dict.entries) (secondMem : (key, second) ∈ dict.entries) :
    first = second :=
  congrArg Prod.snd (List.inj_on_of_nodup_map dict.nodup firstMem secondMem rfl)

/-- A key is in a dict exactly when some entry has it. -/
theorem mem_keys {dict : Dict κ ν} {key : κ} :
    key ∈ dict.keys ↔ ∃ value, (key, value) ∈ dict.entries := by
  constructor
  · intro member
    obtain ⟨⟨_, value⟩, inside, rfl⟩ := List.mem_map.mp member
    exact ⟨value, inside⟩
  · rintro ⟨value, inside⟩
    exact List.mem_map.mpr ⟨(key, value), inside, rfl⟩

variable [DecidableEq κ]

def get? (dict : Dict κ ν) (key : κ) : Option ν :=
  (dict.entries.find? fun entry => entry.1 == key).map Prod.snd

/-- Remove an entry, if it is present. -/
def pop (dict : Dict κ ν) (key : κ) : Dict κ ν := dict.filter fun entry => !(entry.1 == key)

/-- Write an entry: in its place when the key is present, else at the end. -/
def set (dict : Dict κ ν) (key : κ) (value : ν) : Dict κ ν :=
  if present : key ∈ dict.keys then
    ⟨dict.entries.map fun entry => if entry.1 = key then (key, value) else entry, by
      have sameKeys : (dict.entries.map fun entry =>
          if entry.1 = key then (key, value) else entry).map Prod.fst = dict.keys := by
        rw [List.map_map]
        apply List.map_congr_left
        intro entry _
        by_cases here : entry.1 = key
        · simp only [Function.comp_apply, here, ↓reduceIte]
        · simp only [Function.comp_apply, here, ↓reduceIte]
      exact sameKeys ▸ dict.nodup⟩
  else
    ⟨dict.entries ++ [(key, value)], by
      rw [List.map_append]
      refine List.nodup_append.mpr ⟨dict.nodup, List.nodup_singleton _, ?_⟩
      intro old oldMem new newMem same
      obtain rfl : new = key := List.mem_singleton.mp newMem
      exact present (same ▸ oldMem)⟩

/-- A lookup finds a value exactly when the dict holds that entry, since no key occurs
twice. -/
theorem get?_eq_some {dict : Dict κ ν} {key : κ} {value : ν} :
    dict.get? key = some value ↔ (key, value) ∈ dict.entries := by
  unfold get?
  rw [Option.map_eq_some_iff]
  constructor
  · rintro ⟨⟨found, _⟩, located, rfl⟩
    obtain rfl : found = key := by simpa only [beq_iff_eq] using List.find?_some located
    exact List.mem_of_find?_eq_some located
  · intro member
    cases located : dict.entries.find? fun entry => entry.1 == key with
    | none =>
        have absent := List.find?_eq_none.mp located (key, value) member
        simp only [beq_self_eq_true, not_true_eq_false] at absent
    | some entry =>
        obtain ⟨found, other⟩ := entry
        obtain rfl : found = key := by simpa only [beq_iff_eq] using List.find?_some located
        exact ⟨_, rfl, value_unique (List.mem_of_find?_eq_some located) member⟩

/-- A lookup finds nothing exactly when the key is not there. -/
theorem get?_eq_none {dict : Dict κ ν} {key : κ} : dict.get? key = none ↔ key ∉ dict.keys := by
  rw [mem_keys, Option.eq_none_iff_forall_ne_some]
  simp only [ne_eq, get?_eq_some, not_exists]

/-- Popping a key leaves the entries of all the others. -/
theorem mem_pop {dict : Dict κ ν} {key : κ} {entry : κ × ν} :
    entry ∈ (dict.pop key).entries ↔ entry ∈ dict.entries ∧ entry.1 ≠ key := by
  simp only [pop, mem_filter, Bool.not_eq_true', beq_eq_false_iff_ne, ne_eq]

/-- Writing a new key appends its entry. -/
theorem entries_set_of_not_mem {dict : Dict κ ν} {key : κ} (value : ν) (absent : key ∉ dict.keys) :
    (dict.set key value).entries = dict.entries ++ [(key, value)] := by
  simp only [set, absent, ↓reduceDIte]

/-- Setting a key replaces its entry and leaves the others. -/
theorem mem_set {dict : Dict κ ν} {key : κ} {value : ν} {entry : κ × ν} :
    entry ∈ (dict.set key value).entries ↔
      entry = (key, value) ∨ entry ∈ dict.entries ∧ entry.1 ≠ key := by
  by_cases present : key ∈ dict.keys
  · obtain ⟨old, oldMem⟩ := mem_keys.mp present
    simp only [set, present, ↓reduceDIte, List.mem_map]
    constructor
    · rintro ⟨before, member, rfl⟩
      by_cases here : before.1 = key
      · exact Or.inl (by simp only [here, ↓reduceIte])
      · exact Or.inr (by simpa only [here, ↓reduceIte] using ⟨member, here⟩)
    · rintro (rfl | ⟨member, other⟩)
      · exact ⟨(key, old), oldMem, by simp only [↓reduceIte]⟩
      · exact ⟨entry, member, by simp only [other, ↓reduceIte]⟩
  · rw [entries_set_of_not_mem value present, List.mem_append, List.mem_singleton]
    constructor
    · rintro (member | rfl)
      · exact Or.inr ⟨member, fun same => present (mem_keys.mpr ⟨entry.2, same ▸ member⟩)⟩
      · exact Or.inl rfl
    · rintro (rfl | ⟨member, _⟩)
      · exact Or.inr rfl
      · exact Or.inl member

/-- Writing an entry adds its key. -/
theorem mem_keys_set {dict : Dict κ ν} {key other : κ} {value : ν} :
    other ∈ (dict.set key value).keys ↔ other = key ∨ other ∈ dict.keys := by
  simp only [mem_keys, mem_set, Prod.mk.injEq]
  constructor
  · rintro ⟨found, ⟨rfl, _⟩ | ⟨old, _⟩⟩
    · exact Or.inl rfl
    · exact Or.inr ⟨found, old⟩
  · rintro (rfl | ⟨found, old⟩)
    · exact ⟨value, Or.inl ⟨rfl, rfl⟩⟩
    · by_cases same : other = key
      · exact ⟨value, Or.inl ⟨same, rfl⟩⟩
      · exact ⟨found, Or.inr ⟨old, same⟩⟩

/-- The keys after a pop are all but the popped one. -/
theorem mem_keys_pop {dict : Dict κ ν} {key other : κ} :
    other ∈ (dict.pop key).keys ↔ other ∈ dict.keys ∧ other ≠ key := by
  simp only [mem_keys, mem_pop, exists_and_right]

/-- A key is in a dict exactly when its lookup finds a value. -/
theorem mem_keys_iff_get? {dict : Dict κ ν} {key : κ} :
    key ∈ dict.keys ↔ ∃ value, dict.get? key = some value := by
  simp only [mem_keys, get?_eq_some]

/-- A lookup after setting a key finds the new value there, and elsewhere what it found
before. -/
theorem get?_set {dict : Dict κ ν} {key other : κ} {value : ν} :
    (dict.set key value).get? other = if other = key then some value else dict.get? other := by
  apply Option.ext
  intro found
  by_cases same : other = key
  · rw [if_pos same, get?_eq_some, mem_set, same, Option.some.injEq]
    simp only [Prod.mk.injEq, true_and, ne_eq, not_true_eq_false, and_false, or_false]
    exact eq_comm
  · rw [if_neg same, get?_eq_some, get?_eq_some, mem_set]
    simp only [Prod.mk.injEq, same, false_and, ne_eq, not_false_eq_true, and_true, false_or]

/-- A lookup after a pop finds nothing there, and elsewhere what it found before. -/
theorem get?_pop {dict : Dict κ ν} {key other : κ} :
    (dict.pop key).get? other = if other = key then none else dict.get? other := by
  apply Option.ext
  intro found
  by_cases same : other = key
  · rw [if_pos same, get?_eq_some, mem_pop]
    simp only [same, ne_eq, not_true_eq_false, and_false, reduceCtorEq]
  · rw [if_neg same, get?_eq_some, get?_eq_some, mem_pop]
    simp only [ne_eq, same, not_false_eq_true, and_true]

/-- A lookup in a mapped dict is the image of the lookup. -/
theorem get?_mapValues {change : ν → ν} {dict : Dict κ ν} {key : κ} :
    (dict.mapValues change).get? key = (dict.get? key).map change := by
  apply Option.ext
  intro found
  rw [get?_eq_some, mem_mapValues, Option.map_eq_some_iff]
  simp only [get?_eq_some]

end Dict

end Foundation
