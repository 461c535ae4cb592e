import Mathlib.Data.List.TakeWhile

/-! # The arguments of `lark-bot codex`

A `resume` without a session opens the picker of Codex, which the remote mode does not support.
Whether the arguments ask for it is read off the first argument that is no global option: the
scanner skips a flag, an option with its value in one argument and an option with its value in
the next one, whatever that value is.
-/

namespace LarkBot

/-- `CODEX_GLOBAL_OPTIONS_WITH_VALUE`. -/
def codexGlobalOptionsWithValue : List String :=
  ["-c", "--config", "--enable", "--disable", "--remote", "--remote-auth-token-env", "-i",
    "--image", "-m", "--model", "--local-provider", "-p", "--profile", "-s", "--sandbox", "-C",
    "--cd", "--add-dir", "-a", "--ask-for-approval"]

/-- `CODEX_GLOBAL_FLAG_OPTIONS`. -/
def codexGlobalFlagOptions : List String :=
  ["--oss", "--dangerously-bypass-approvals-and-sandbox", "--dangerously-bypass-hook-trust",
    "--search", "--no-alt-screen", "--strict-config"]

/-- `CODEX_ATTACHED_VALUE_SHORT_PREFIXES`. -/
def codexAttachedValueShortPrefixes : List String := ["-c", "-i", "-m", "-p", "-s", "-C", "-a"]

/-- `str.startswith`. -/
def startsWith (text start : String) : Bool := start.toList.isPrefixOf text.toList

/-- `str.partition`: what stands before the first separator, the separator if there is one, and
what stands after it. -/
def partition (text : String) (separator : Char) : String × String × String :=
  let rest := text.toList.dropWhile (· != separator)
  (String.ofList (text.toList.takeWhile (· != separator)), String.ofList (rest.take 1),
    String.ofList (rest.drop 1))

/-- Whether resume would require the unsupported remote picker; the arguments are those from the
index of the loop on. -/
def usesRemoteResumePicker : List String → Bool
  | [] => false
  | token :: rest =>
      if token = "--" then false
      else if token ∈ codexGlobalFlagOptions then usesRemoteResumePicker rest
      else
        let (option, separator, _) := partition token '='
        if separator ≠ "" ∧ option ∈ codexGlobalOptionsWithValue then usesRemoteResumePicker rest
        else if codexAttachedValueShortPrefixes.any fun start =>
            decide (start.length < token.length) && startsWith token start then
          usesRemoteResumePicker rest
        else if token ∈ codexGlobalOptionsWithValue then
          match rest with
          | [] => false
          | _ :: rest => usesRemoteResumePicker rest
        else if startsWith token "-" ∨ token ≠ "resume" then false
        else if rest.any fun token => token ∈ ["--last", "--last=true"] then false
        else
          match rest with
          | [] => true
          | next :: _ => startsWith next "-"

/-- The arguments that give one global option. -/
inductive GlobalOption : List String → Prop
  | flag {token : String} (listed : token ∈ codexGlobalFlagOptions) : GlobalOption [token]
  | separate {option : String} (listed : option ∈ codexGlobalOptionsWithValue) (value : String) :
      GlobalOption [option, value]
  | assigned {option : String} (listed : option ∈ codexGlobalOptionsWithValue) (value : String) :
      GlobalOption [option ++ "=" ++ value]
  | attached {option : String} (listed : option ∈ codexGlobalOptionsWithValue)
      (short : option.length = 2) {value : String} (text : value ≠ "") :
      GlobalOption [option ++ value]

section Tokens

variable {token option value : String} {rest : List String}

/-- The tables of options: an option is no separator of the arguments, no flag and no assignment,
and a short one takes an attached value and has no room for another; the prefixes are the short
options; and a flag starts like none of them. -/
theorem listed_signs :
    (∀ option ∈ codexGlobalOptionsWithValue,
      (option ≠ "--" ∧ option ∉ codexGlobalFlagOptions ∧ '=' ∉ option.toList ∧
        (codexAttachedValueShortPrefixes.any fun start =>
          decide (start.length < option.length) && startsWith option start) = false) ∧
      (option.length = 2 →
        option ∈ codexAttachedValueShortPrefixes ∧ ¬ startsWith option "--") ∧
      startsWith option "-") ∧
    (∀ token ∈ codexGlobalFlagOptions,
      (token ≠ "--" ∧ '=' ∉ token.toList ∧ startsWith token "--") ∧ startsWith token "-") ∧
    ∀ start ∈ codexAttachedValueShortPrefixes,
      start ∈ codexGlobalOptionsWithValue ∧ start.length = 2 := by
  decide +kernel

/-- An option that takes a value is neither the separator nor a flag, has no sign, and
is no attached value. -/
theorem listed_option (option : String) (listed : option ∈ codexGlobalOptionsWithValue) :
    option ≠ "--" ∧ option ∉ codexGlobalFlagOptions ∧ '=' ∉ option.toList ∧
      (codexAttachedValueShortPrefixes.any fun start =>
        decide (start.length < option.length) && startsWith option start) = false :=
  (listed_signs.1 option listed).1

/-- An option of two characters that takes a value takes it attached as well. -/
theorem short_option (option : String) (listed : option ∈ codexGlobalOptionsWithValue)
    (short : option.length = 2) :
    option ∈ codexAttachedValueShortPrefixes ∧ ¬ startsWith option "--" :=
  (listed_signs.1 option listed).2.1 short

/-- A flag is a long option without a sign, and not the separator. -/
theorem listed_flag (token : String) (listed : token ∈ codexGlobalFlagOptions) :
    token ≠ "--" ∧ '=' ∉ token.toList ∧ startsWith token "--" :=
  (listed_signs.2.1 token listed).1

/-- A prefix that takes an attached value is an option of two characters. -/
theorem attached_prefix (start : String) (listed : start ∈ codexAttachedValueShortPrefixes) :
    start ∈ codexGlobalOptionsWithValue ∧ start.length = 2 :=
  listed_signs.2.2 start listed

/-- Every option and flag starts with a dash. -/
theorem listed_dash (token : String)
    (listed : token ∈ codexGlobalFlagOptions ++ codexGlobalOptionsWithValue) :
    startsWith token "-" := by
  rcases List.mem_append.mp listed with flag | option
  · exact (listed_signs.2.1 token flag).2
  · exact (listed_signs.1 token option).2.2

/-- A text starts with another exactly when its characters do. -/
theorem startsWith_iff {text start : String} :
    startsWith text start ↔ start.toList <+: text.toList := List.isPrefixOf_iff_prefix

/-- A text starts with its first part. -/
theorem startsWith_append (start value : String) : startsWith (start ++ value) start := by
  rw [startsWith_iff, String.toList_append]
  exact List.prefix_append _ _

/-- The first of two texts of one length decides which of them a longer text starts with. -/
theorem startsWith_append_of_length {start : String} (same : option.length = start.length)
    (starts : startsWith (option ++ value) start) : startsWith option start := by
  rw [startsWith_iff, String.toList_append] at starts
  rw [startsWith_iff]
  apply List.prefix_of_prefix_length_le starts (List.prefix_append _ _)
  rw [String.length_toList, String.length_toList]
  exact Nat.le_of_eq same.symm

/-- What stands before the first sign is read up to it. -/
theorem takeWhile_sign {before after : List Char} (unsigned : '=' ∉ before) :
    (before ++ '=' :: after).takeWhile (· != '=') = before := by
  have plain : ∀ char ∈ before, (char != '=') = true := fun char member =>
    bne_iff_ne.mpr fun same => unsigned (same ▸ member)
  rw [List.takeWhile_append_of_pos plain]
  rw [List.takeWhile_cons_of_neg (by decide), List.append_nil]

/-- The first sign is left with all that comes after it. -/
theorem dropWhile_sign {before after : List Char} (unsigned : '=' ∉ before) :
    (before ++ '=' :: after).dropWhile (· != '=') = '=' :: after := by
  have plain : ∀ char ∈ before, (char != '=') = true := fun char member =>
    bne_iff_ne.mpr fun same => unsigned (same ▸ member)
  rw [List.dropWhile_append_of_pos plain]
  exact List.dropWhile_cons_of_neg (by decide)

/-- An assignment is taken apart at its first sign. -/
theorem partition_assigned (unsigned : '=' ∉ option.toList) :
    partition (option ++ "=" ++ value) '=' = (option, "=", value) := by
  have chars : (option ++ "=" ++ value).toList = option.toList ++ '=' :: value.toList := by
    rw [String.toList_append, String.toList_append, List.append_assoc]
    rfl
  unfold partition
  rw [chars, takeWhile_sign unsigned, dropWhile_sign unsigned, String.ofList_toList]
  refine congrArg (Prod.mk option) (congrArg₂ Prod.mk rfl ?_)
  exact String.ofList_toList

/-- The sign is not the empty text. -/
theorem sign_ne : "=" ≠ "" := by decide

/-- A token without a sign is split by none. -/
theorem separator_of_unsigned (unsigned : '=' ∉ token.toList) : (partition token '=').2.1 = "" := by
  have plain : ∀ char ∈ token.toList, (char != '=') = true := fun char member =>
    bne_iff_ne.mpr fun same => unsigned (same ▸ member)
  unfold partition
  dsimp only
  rw [List.dropWhile_eq_nil_iff.mpr plain]
  rfl

/-- The scanner skips a flag. -/
theorem uses_flag (listed : token ∈ codexGlobalFlagOptions) :
    usesRemoteResumePicker (token :: rest) = usesRemoteResumePicker rest := by
  rw [usesRemoteResumePicker.eq_def]
  dsimp only
  rw [if_neg (listed_flag token listed).1, if_pos listed]

/-- The scanner skips an option with its value after a sign. -/
theorem uses_assigned (listed : option ∈ codexGlobalOptionsWithValue) :
    usesRemoteResumePicker ((option ++ "=" ++ value) :: rest) = usesRemoteResumePicker rest := by
  have sign : '=' ∈ (option ++ "=" ++ value).toList := by
    rw [String.toList_append, String.toList_append]
    exact List.mem_append_left _ (List.mem_append_right _ List.mem_cons_self)
  have proper : option ++ "=" ++ value ≠ "--" := fun same => by
    rw [same] at sign
    exact absurd sign (by decide)
  have unlisted : option ++ "=" ++ value ∉ codexGlobalFlagOptions := fun flag =>
    (listed_flag _ flag).2.1 sign
  have parts : partition (option ++ "=" ++ value) '=' = (option, "=", value) :=
    partition_assigned (listed_option option listed).2.2.1
  rw [usesRemoteResumePicker.eq_def]
  dsimp only
  rw [if_neg proper, if_neg unlisted, parts]
  exact if_pos ⟨sign_ne, listed⟩

/-- The scanner skips a short option with its value attached. -/
theorem uses_attached (listed : option ∈ codexGlobalOptionsWithValue) (short : option.length = 2)
    (text : value ≠ "") :
    usesRemoteResumePicker ((option ++ value) :: rest) = usesRemoteResumePicker rest := by
  obtain ⟨takesValue, single⟩ := short_option option listed short
  have notLong : ¬ startsWith (option ++ value) "--" := fun starts =>
    single (startsWith_append_of_length short starts)
  have proper : option ++ value ≠ "--" := fun same => by
    rw [same] at notLong
    exact notLong (by decide)
  have unlisted : option ++ value ∉ codexGlobalFlagOptions := fun flag =>
    notLong (listed_flag _ flag).2.2
  have longer : option.length < (option ++ value).length := by
    rw [String.length_append]
    exact Nat.lt_add_of_pos_right (Nat.pos_of_ne_zero (String.length_eq_zero_iff.not.mpr text))
  have attaches : (codexAttachedValueShortPrefixes.any fun start =>
      decide (start.length < (option ++ value).length) && startsWith (option ++ value) start) =
        true := List.any_eq_true.mpr ⟨option, takesValue, by
    rw [startsWith_append, Bool.and_true]
    exact decide_eq_true longer⟩
  rw [usesRemoteResumePicker.eq_def]
  dsimp only
  rw [if_neg proper, if_neg unlisted, if_pos attaches, ite_self]

/-- The scanner skips an option with its value in the next argument. -/
theorem uses_separate (listed : option ∈ codexGlobalOptionsWithValue) :
    usesRemoteResumePicker (option :: value :: rest) = usesRemoteResumePicker rest := by
  obtain ⟨proper, unlisted, unsigned, bare⟩ := listed_option option listed
  rw [usesRemoteResumePicker.eq_def]
  dsimp only
  rw [if_neg proper, if_neg unlisted]
  rw [if_neg fun assigned => assigned.1 (separator_of_unsigned unsigned), bare,
    if_neg Bool.false_ne_true, if_pos listed]

/-- An option is skipped with its value. -/
theorem GlobalOption.skipped {tokens : List String} (option : GlobalOption tokens) :
    usesRemoteResumePicker (tokens ++ rest) = usesRemoteResumePicker rest := by
  cases option with
  | flag listed => exact uses_flag listed
  | separate listed value => exact uses_separate listed
  | assigned listed value => exact uses_assigned listed
  | attached listed short text => exact uses_attached listed short text

/-- What has a sign is an assignment of what stands before it. -/
theorem assigned_of_partition (signed : (partition token '=').2.1 ≠ "") :
    token = (partition token '=').1 ++ "=" ++ (partition token '=').2.2 := by
  have split := List.takeWhile_append_dropWhile (p := (· != '=')) (l := token.toList)
  unfold partition at signed ⊢
  dsimp only at signed ⊢
  cases rest : token.toList.dropWhile (· != '=') with
  | nil =>
      rw [rest] at signed
      exact absurd rfl signed
  | cons sign after =>
      have found : token.toList.dropWhile (· != '=') ≠ [] := by
        rw [rest]
        exact List.cons_ne_nil _ _
      have stops := List.head_dropWhile_not (· != '=') found
      simp only [rest, List.head_cons] at stops
      obtain rfl : sign = '=' := bne_eq_false_iff_eq.mp stops
      rw [rest] at split
      rw [← String.toList_inj, String.toList_append, String.toList_append, List.append_assoc]
      simp only [String.toList_ofList]
      exact split.symm

/-- What starts with a short option and goes on gives it a value. -/
theorem attached_of_startsWith {start : String} (listed : start ∈ codexAttachedValueShortPrefixes)
    (longer : start.length < token.length) (starts : startsWith token start) :
    GlobalOption [token] := by
  obtain ⟨value, chars⟩ := startsWith_iff.mp starts
  have same : token = start ++ String.ofList value := by
    rw [← String.toList_inj, String.toList_append, String.toList_ofList, chars]
  rw [same] at longer ⊢
  obtain ⟨takesValue, short⟩ := attached_prefix start listed
  refine .attached takesValue short fun empty => ?_
  rw [empty, String.append_empty] at longer
  exact Nat.lt_irrefl _ longer

/-- What a start of a text starts with, the text starts with. -/
theorem startsWith_trans {text middle start : String} (first : startsWith text middle)
    (second : startsWith middle start) : startsWith text start :=
  startsWith_iff.mpr ((startsWith_iff.mp second).trans (startsWith_iff.mp first))

/-- An argument without a dash is no option. -/
theorem not_option_of_undashed (undashed : ¬ startsWith token "-") (more : List String) :
    ¬ GlobalOption (token :: more) := by
  intro option
  cases option with
  | flag listed => exact undashed (listed_dash _ (List.mem_append_left _ listed))
  | separate listed value => exact undashed (listed_dash _ (List.mem_append_right _ listed))
  | assigned listed value =>
      have starts := listed_dash _ (List.mem_append_right _ listed)
      rw [String.append_assoc] at undashed
      exact undashed (startsWith_trans (startsWith_append _ _) starts)
  | attached listed short text =>
      have starts := listed_dash _ (List.mem_append_right _ listed)
      exact undashed (startsWith_trans (startsWith_append _ _) starts)

/-- The first argument that is no option decides. -/
theorem uses_word (word : ∀ more, ¬ GlobalOption (token :: more)) :
    usesRemoteResumePicker (token :: rest) ↔ token = "resume" ∧
      (∀ later ∈ rest, later ≠ "--last" ∧ later ≠ "--last=true") ∧
      ∀ next ∈ rest.head?, startsWith next "-" := by
  have noFlag : token ∉ codexGlobalFlagOptions := fun listed => word [] (.flag listed)
  have noOption : token ∉ codexGlobalOptionsWithValue := fun listed =>
    word [""] (.separate listed "")
  have noAssignment : ¬ ((partition token '=').2.1 ≠ "" ∧
      (partition token '=').1 ∈ codexGlobalOptionsWithValue) := by
    rintro ⟨signed, listed⟩
    apply word []
    rw [assigned_of_partition signed]
    exact .assigned listed _
  have noValue : ¬ (codexAttachedValueShortPrefixes.any fun start =>
      decide (start.length < token.length) && startsWith token start) = true := by
    intro attached
    obtain ⟨start, listed, starts⟩ := List.any_eq_true.mp attached
    obtain ⟨longer, begins⟩ := Bool.and_eq_true_iff.mp starts
    exact word [] (attached_of_startsWith listed (of_decide_eq_true longer) begins)
  rw [usesRemoteResumePicker.eq_def]
  dsimp only
  by_cases separator : token = "--"
  · rw [if_pos separator, separator]
    exact iff_of_false Bool.false_ne_true fun picks => absurd picks.1 (by decide)
  rw [if_neg separator, if_neg noFlag, if_neg noAssignment, if_neg noValue, if_neg noOption]
  by_cases resumes : token = "resume"
  · have undashed : ¬ startsWith token "-" := by
      rw [resumes]
      decide
    rw [if_neg fun other => other.elim undashed fun other => other resumes]
    by_cases last : (rest.any fun token => token ∈ ["--last", "--last=true"]) = true
    · rw [if_pos last]
      obtain ⟨later, member, named⟩ := List.any_eq_true.mp last
      refine iff_of_false Bool.false_ne_true fun ⟨_, unnamed, _⟩ => ?_
      rcases List.mem_cons.mp (of_decide_eq_true named) with same | same
      · exact (unnamed later member).1 same
      · exact (unnamed later member).2 (List.mem_singleton.mp same)
    · rw [if_neg last]
      have unnamed : ∀ later ∈ rest, later ≠ "--last" ∧ later ≠ "--last=true" := by
        intro later member
        refine ⟨fun same => last ?_, fun same => last ?_⟩
        · exact List.any_eq_true.mpr ⟨later, member, by rw [same]; decide⟩
        · exact List.any_eq_true.mpr ⟨later, member, by rw [same]; decide⟩
      cases rest with
      | nil => exact iff_of_true rfl ⟨resumes, unnamed, nofun⟩
      | cons next rest =>
          constructor
          · intro dashed
            refine ⟨resumes, unnamed, fun found same => ?_⟩
            cases same
            exact dashed
          · intro picks
            exact picks.2.2 next rfl
  · rw [if_pos (Or.inr resumes)]
    exact iff_of_false Bool.false_ne_true fun picks => resumes picks.1

end Tokens

/-- Global options do not change whether the arguments ask for the picker, whatever their values
are, and the first argument that is no option decides it. -/
theorem picker_behind_options {options : List (List String)}
    (wellFormed : ∀ tokens ∈ options, GlobalOption tokens) (args : List String) :
    usesRemoteResumePicker (options.flatten ++ args) = usesRemoteResumePicker args ∧
      ∀ token rest, args = token :: rest → (∀ more, ¬ GlobalOption (token :: more)) →
        (usesRemoteResumePicker (options.flatten ++ args) ↔ token = "resume" ∧
          (∀ later ∈ rest, later ≠ "--last" ∧ later ≠ "--last=true") ∧
          ∀ next ∈ rest.head?, startsWith next "-") := by
  have skipped : usesRemoteResumePicker (options.flatten ++ args) =
      usesRemoteResumePicker args := by
    induction options with
    | nil => rfl
    | cons tokens options ih =>
        rw [List.flatten_cons, List.append_assoc,
          (wellFormed tokens List.mem_cons_self).skipped]
        exact ih fun others member => wellFormed others (List.mem_cons_of_mem _ member)
  refine ⟨skipped, ?_⟩
  rintro token rest rfl word
  rw [skipped]
  exact uses_word word

/-- A value that reads like the subcommand is not taken for it. -/
theorem picker_behind_model : usesRemoteResumePicker
    ["-m", "resume", "--oss", "-c=--", "-C.", "resume", "--all"] ∧
      ¬ usesRemoteResumePicker ["-m", "resume", "--oss", "-c=--", "-C.", "exec", "resume"] := by
  have options : ∀ tokens ∈ [["-m", "resume"], ["--oss"], ["-c" ++ "=" ++ "--"], ["-C" ++ "."]],
      GlobalOption tokens := by
    intro tokens member
    simp only [List.mem_cons, List.not_mem_nil, or_false] at member
    rcases member with rfl | rfl | rfl | rfl
    · exact .separate (by decide) _
    · exact .flag (by decide)
    · exact .assigned (by decide) _
    · exact .attached (by decide) (by decide) (by decide)
  have resumes := (picker_behind_options options ["resume", "--all"]).2 "resume" ["--all"] rfl
    (not_option_of_undashed (by decide))
  have executes := (picker_behind_options options ["exec", "resume"]).1
  exact ⟨resumes.mpr (by decide), by
    rw [show usesRemoteResumePicker ["-m", "resume", "--oss", "-c=--", "-C.", "exec", "resume"] =
      usesRemoteResumePicker ["exec", "resume"] from executes]
    decide⟩

end LarkBot
