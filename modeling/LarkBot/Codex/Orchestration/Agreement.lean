import Mathlib.Data.List.Nodup
import Mathlib.Data.List.Perm.Basic
import LarkBot.Codex.Orchestration.Interaction

/-! # Two ways to a decision

An answer from Lark and a result from the terminal are validated by different code, and read as
decisions by different code. For user input both accept the same answers and put the same response
on the wire (`LarkBot.answers_accepted_alike`). A response that Lark decides is read as the same
decision, except where a request that asks for no permission is granted
(`LarkBot.decision_read_back_iff`).
-/

namespace LarkBot

section Questions

variable {notMapping : Json → PyError} {seen : List String}

/-- The id of a question, if it has one. -/
def questionIdOf : Json → Option String
  | .obj question =>
      match dictGet question "id" with
      | some (.str id) => if id == "" then none else some id
      | _ => none
  | _ => none

/-- The ids are read one question after the other, and each is new. -/
theorem questionIds_cons {question : Json} {questions : List Json} {ids : List String} :
    questionIds notMapping seen (question :: questions) = .ok ids ↔
      ∃ id rest, questionIdOf question = some id ∧ id ∉ seen ∧
        questionIds notMapping (seen ++ [id]) questions = .ok rest ∧ ids = id :: rest := by
  have unnamed : questionIdOf question = none →
      ∃ error, questionIds notMapping seen (question :: questions) = .error error := by
    intro none
    unfold questionIdOf at none
    cases question with
    | obj fields =>
        cases found : dictGet fields "id" with
        | none => exact ⟨_, by simp only [questionIds, found]; rfl⟩
        | some value =>
            cases value with
            | str id =>
                simp only [found] at none
                split at none
                next empty => exact ⟨_, by simp only [questionIds, found, empty, ↓reduceIte]; rfl⟩
                next => cases none
            | _ => exact ⟨_, by simp only [questionIds, found]; rfl⟩
    | _ => exact ⟨_, rfl⟩
  cases named : questionIdOf question with
  | none =>
      obtain ⟨error, raised⟩ := unnamed named
      rw [raised]
      constructor
      · intro impossible
        cases impossible
      · rintro ⟨_, _, impossible, _⟩
        cases impossible
  | some id =>
      unfold questionIdOf at named
      split at named
      next fields =>
        split at named
        next text found =>
          split at named
          next => cases named
          next nonempty =>
            cases named
            simp only [questionIds, found, if_neg nonempty]
            by_cases again : seen.contains id
            · rw [if_pos again]
              constructor
              · intro impossible
                cases impossible
              · rintro ⟨_, _, ⟨⟩, new, _⟩
                exact (new (List.contains_iff_mem.mp again)).elim
            · rw [if_neg again]
              have new : id ∉ seen := fun member => again (List.contains_iff_mem.mpr member)
              cases rest : questionIds notMapping (seen ++ [id]) questions with
              | error error =>
                  constructor
                  · intro impossible
                    cases impossible
                  · rintro ⟨_, _, ⟨⟩, _, impossible, _⟩
                    rw [rest] at impossible
                    cases impossible
              | ok others =>
                  constructor
                  · rintro ⟨⟩
                    exact ⟨id, others, rfl, new, rest, rfl⟩
                  · rintro ⟨_, _, ⟨⟩, _, same, rfl⟩
                    rw [rest] at same
                    cases same
                    rfl
        next => cases named
      next => cases named

/-- The ids of the questions are read exactly when every question has one, and they are new and
distinct. -/
theorem questionIds_eq_ok {questions : List Json} {ids : List String} :
    questionIds notMapping seen questions = .ok ids ↔
      questions.map questionIdOf = ids.map some ∧ ids.Nodup ∧ ∀ id ∈ ids, id ∉ seen := by
  induction questions generalizing seen ids with
  | nil =>
      constructor
      · rintro ⟨⟩
        exact ⟨rfl, List.nodup_nil, fun _ absent => (List.not_mem_nil absent).elim⟩
      · rintro ⟨named, _⟩
        rw [List.map_nil, eq_comm, List.map_eq_nil_iff] at named
        rw [named]
        rfl
  | cons question questions ih =>
      rw [questionIds_cons]
      constructor
      · rintro ⟨id, rest, named, new, read, rfl⟩
        obtain ⟨others, distinct, apart⟩ := ih.mp read
        refine ⟨?_, List.nodup_cons.mpr ⟨fun member => ?_, distinct⟩, ?_⟩
        · rw [List.map_cons, List.map_cons, named, others]
        · exact apart id member (List.mem_append_right _ (List.mem_singleton_self id))
        · intro other member
          rcases List.mem_cons.mp member with rfl | later
          · exact new
          · exact fun early => apart other later (List.mem_append_left _ early)
      · rintro ⟨named, distinct, apart⟩
        cases ids with
        | nil => cases named
        | cons id rest =>
            obtain ⟨first, others⟩ := List.cons.inj named
            obtain ⟨new, distinct⟩ := List.nodup_cons.mp distinct
            refine ⟨id, rest, first, apart id List.mem_cons_self, ih.mpr ⟨others, distinct, ?_⟩,
              rfl⟩
            intro other member early
            rcases List.mem_append.mp early with before | here
            · exact apart other (List.mem_cons_of_mem _ member) before
            · rw [List.mem_singleton.mp here] at member
              exact new member

end Questions

section Answers

/-- What the terminal sends for one answer to each of these questions. -/
def answerEntry (answer : String × String) : String × Json :=
  (answer.1, .obj [("answers", .arr [.str answer.2])])

/-- The result `{answers: {id: {answers: [text]}}}` of the terminal. -/
def terminalResult (answers : List (String × String)) : JsonObject :=
  [("answers", .obj (answers.map answerEntry))]

/-- The answers cover the questions, and no others. -/
def Covers (ids : List String) (answers : List (String × String)) : Prop :=
  (∀ id ∈ ids, id ∈ answers.map Prod.fst) ∧ ∀ id ∈ answers.map Prod.fst, id ∈ ids

/-- The entries that `user_input_response` makes, in the order of the questions. -/
def responseEntries (ids : List String) (answers : List (String × String)) : List (String × Json) :=
  ids.filterMap fun id => (answers.find? fun answer => answer.1 == id).map fun answer =>
    (id, .obj [("answers", .arr [.str answer.2])])

/-- A response to a request for user input is built exactly when the answers name each
question once and no other. -/
theorem userInputResponse_eq_ok {questions : List Json} {answers : List (String × String)}
    {response : Json} : userInputResponse questions answers = .ok response ↔
      ∃ ids, questionIds (fun question => ⟨.attributeError,
          "'" ++ question.typeName ++ "' object has no attribute 'get'"⟩) [] questions = .ok ids ∧
        Covers ids answers ∧ response = .obj [("answers", .obj (responseEntries ids answers))] := by
  have missing : ∀ ids : List String,
      (ids.filter fun id => !(answers.map Prod.fst).contains id) = [] ↔
        ∀ id ∈ ids, id ∈ answers.map Prod.fst := by
    intro ids
    simp only [List.filter_eq_nil_iff, Bool.not_eq_true', Bool.not_eq_false, List.contains_iff_mem]
  have unknown : ∀ ids : List String,
      ((answers.map Prod.fst).filter fun id => !ids.contains id) = [] ↔
        ∀ id ∈ answers.map Prod.fst, id ∈ ids := by
    intro ids
    simp only [List.filter_eq_nil_iff, Bool.not_eq_true', Bool.not_eq_false, List.contains_iff_mem]
  unfold userInputResponse
  cases read : questionIds (fun question => ⟨.attributeError,
      "'" ++ question.typeName ++ "' object has no attribute 'get'"⟩) [] questions with
  | error error =>
      constructor
      · intro impossible
        cases impossible
      · rintro ⟨_, impossible, _⟩
        cases impossible
  | ok ids =>
      simp only [bind, Except.bind]
      constructor
      · intro made
        split at made
        next => cases made
        next covered =>
          split at made
          next => cases made
          next known =>
            cases made
            exact ⟨ids, rfl, ⟨(missing ids).mp (not_not.mp covered),
              (unknown ids).mp (not_not.mp known)⟩, rfl⟩
      · rintro ⟨_, ⟨⟩, ⟨covered, known⟩, rfl⟩
        rw [if_neg (not_not.mpr ((missing ids).mpr covered)),
          if_neg (not_not.mpr ((unknown ids).mpr known))]
        rfl

/-- Entries that are all valid pass the check of each. -/
theorem forM_ok {entries : List (String × Json)}
    (plain : ∀ entry ∈ entries, validateTerminalAnswer entry.2 = .ok ()) :
    (entries.forM fun entry => validateTerminalAnswer entry.2) = .ok () := by
  induction entries with
  | nil => rfl
  | cons entry entries ih =>
      change (validateTerminalAnswer entry.2 >>= fun _ => _) = _
      rw [plain entry List.mem_cons_self]
      exact ih fun other member => plain other (List.mem_cons_of_mem _ member)

/-- Entries that are well formed are accepted exactly when they cover the questions. -/
theorem validateTerminalAnswers_eq_ok {request : ServerRequest} {questions : List Json}
    {entries : List (String × Json)}
    (asked : dictGet request.params "questions" = some (.arr questions))
    (plain : ∀ entry ∈ entries, validateTerminalAnswer entry.2 = .ok ()) :
    validateTerminalAnswers request [("answers", .obj entries)] = .ok () ↔
      ∃ ids, questionIds (fun _ => valueError "each question must be an object") [] questions =
        .ok ids ∧
        ∀ id, id ∈ ids ↔ id ∈ entries.map Prod.fst := by
  have answered : dictGet [("answers", .obj entries)] "answers" = some (.obj entries) := rfl
  unfold validateTerminalAnswers
  rw [asked, answered]
  dsimp only
  cases read : questionIds (fun _ => valueError "each question must be an object") [] questions with
  | error error =>
      constructor
      · intro impossible
        cases impossible
      · rintro ⟨_, impossible, _⟩
        cases impossible
  | ok ids =>
      have differs : ((entries.map Prod.fst).any (fun id => !ids.contains id) ||
          ids.any fun id => !(entries.map Prod.fst).contains id) = false ↔
            ∀ id, id ∈ ids ↔ id ∈ entries.map Prod.fst := by
        simp only [Bool.or_eq_false_iff, List.any_eq_false, Bool.not_eq_true', Bool.not_eq_false,
          List.contains_iff_mem]
        exact ⟨fun ⟨known, covered⟩ id => ⟨covered id, known id⟩,
          fun same => ⟨fun id => (same id).mpr, fun id => (same id).mp⟩⟩
      simp only [bind, Except.bind]
      constructor
      · intro accepted
        split at accepted
        next => cases accepted
        next covers => exact ⟨ids, rfl, differs.mp (Bool.not_eq_true _ ▸ covers)⟩
      · rintro ⟨_, ⟨⟩, covers⟩
        rw [differs.mpr covers, if_neg Bool.false_ne_true]
        exact forM_ok plain

/-- An answer as it is sent has the form that an answer of the terminal must have. -/
theorem validateTerminalAnswer_entry (answer : String × String) :
    validateTerminalAnswer (answerEntry answer).2 = .ok () := rfl

/-- The answer to a question is found by its id, when no id occurs twice. -/
theorem find?_key {answers : List (String × String)} (keys : (answers.map Prod.fst).Nodup)
    {answer : String × String} (member : answer ∈ answers) :
    (answers.find? fun other => other.1 == answer.1) = some answer := by
  cases found : answers.find? fun other => other.1 == answer.1 with
  | none =>
      have missed := List.find?_eq_none.mp found answer member
      rw [beq_self_eq_true] at missed
      exact (missed rfl).elim
  | some other =>
      have same : other.1 = answer.1 :=
        beq_iff_eq.mp (List.find?_some (p := fun other : String × String => other.1 == answer.1)
          found)
      rw [List.inj_on_of_nodup_map keys (List.mem_of_find?_eq_some found) member same]

/-- The entries of a response are those that the terminal would send, in the order of the
questions. -/
theorem responseEntries_perm {ids : List String} {answers : List (String × String)}
    (distinct : ids.Nodup) (keys : (answers.map Prod.fst).Nodup) (covers : Covers ids answers) :
    (responseEntries ids answers).Perm (answers.map answerEntry) := by
  have same : ids.Perm (answers.map Prod.fst) :=
    (List.perm_ext_iff_of_nodup distinct keys).mpr fun id => ⟨covers.1 id, covers.2 id⟩
  have ordered : responseEntries (answers.map Prod.fst) answers = answers.map answerEntry := by
    unfold responseEntries
    rw [List.filterMap_map, ← List.filterMap_eq_map]
    apply List.filterMap_congr
    intro answer member
    dsimp only [Function.comp]
    rw [find?_key keys member]
    rfl
  rw [← ordered]
  exact same.filterMap _

/-- Both paths accept the same answers to the same questions, and put the same response on the
wire. -/
theorem answers_accepted_alike {request : ServerRequest} {questions : List Json}
    {answers : List (String × String)}
    (asked : dictGet request.params "questions" = some (.arr questions))
    (keys : (answers.map Prod.fst).Nodup) :
    ((∃ response, userInputResponse questions answers = .ok response) ↔
        validateTerminalAnswers request (terminalResult answers) = .ok ()) ∧
      ∀ response, userInputResponse questions answers = .ok response →
        ∃ entries, response = .obj [("answers", .obj entries)] ∧
          entries.Perm (answers.map answerEntry) := by
  have plain : ∀ entry ∈ answers.map answerEntry, validateTerminalAnswer entry.2 = .ok () := by
    intro entry member
    obtain ⟨answer, _, rfl⟩ := List.mem_map.mp member
    exact validateTerminalAnswer_entry answer
  have entryKeys : (answers.map answerEntry).map Prod.fst = answers.map Prod.fst := by
    rw [List.map_map]
    rfl
  unfold terminalResult
  rw [validateTerminalAnswers_eq_ok asked plain, entryKeys]
  refine ⟨⟨?_, ?_⟩, ?_⟩
  · rintro ⟨response, made⟩
    obtain ⟨ids, read, covers, _⟩ := userInputResponse_eq_ok.mp made
    exact ⟨ids, questionIds_eq_ok.mpr (questionIds_eq_ok.mp read),
      fun id => ⟨covers.1 id, covers.2 id⟩⟩
  · rintro ⟨ids, read, covers⟩
    exact ⟨_, userInputResponse_eq_ok.mpr ⟨ids, questionIds_eq_ok.mpr (questionIds_eq_ok.mp read),
      ⟨fun id => (covers id).mp, fun id => (covers id).mpr⟩, rfl⟩⟩
  · intro response made
    obtain ⟨ids, read, covers, rfl⟩ := userInputResponse_eq_ok.mp made
    exact ⟨_, rfl, responseEntries_perm (questionIds_eq_ok.mp read).2.1 keys covers⟩

def confirmQuestion : JsonObject := [("questions", .arr [.obj [("id", .str "confirm")]])]

/-- An answer to one question is accepted from the terminal too. -/
theorem one_answer_accepted :
    validateTerminalAnswers ⟨.int 1, "item/tool/requestUserInput", confirmQuestion⟩
      (terminalResult [("confirm", "yes")]) = .ok () :=
  ((@answers_accepted_alike ⟨.int 1, "item/tool/requestUserInput", confirmQuestion⟩
    [.obj [("id", .str "confirm")]] [("confirm", "yes")] rfl (by decide)).1).mp
      ⟨.obj [("answers", .obj [("confirm", .obj [("answers", .arr [.str "yes"])])])], by rfl⟩

end Answers

section Decisions

variable {copyDepth : Nat}

/-- A request for permissions that asks for none is granted. -/
def GrantsNothing (kind : InteractionKind) (request : ServerRequest) (allow : Option Bool) : Prop :=
  kind = .permissionRequest ∧ allow = some true ∧
    (dictGet request.params "permissions").getD (.obj []) = .obj []

/-- The response of an approval is read as the decision that it stands for. -/
theorem terminalDecision_approval {kind : InteractionKind} {request : ServerRequest} (allow : Bool)
    (approval : kind = .execApproval ∨ kind = .fileChangeApproval) :
    terminalDecision kind request (approvalDecision allow) =
      .ok (if kind = .execApproval then if allow then "approved" else "denied"
        else if allow then "accept" else "decline") := by
  rcases approval with rfl | rfl <;> cases allow <;> rfl

/-- A copy succeeds exactly within the depth of the recursion, and copies everything. -/
theorem deepcopy_eq_ok {fields copied : JsonObject} :
    deepcopy copyDepth fields = .ok copied ↔
      (Json.obj fields).depth ≤ copyDepth ∧ copied = fields := by
  unfold deepcopy
  split
  next fits =>
    constructor
    · rintro ⟨⟩
      exact ⟨fits, rfl⟩
    · rintro ⟨_, rfl⟩
      rfl
  next deep =>
    constructor
    · intro impossible
      cases impossible
    · rintro ⟨fits, _⟩
      exact absurd fits deep

/-- Permissions are granted if they can be copied, and always denied. -/
theorem permissionResponse_eq_ok {params : JsonObject} {allow : Bool} {response : Json} :
    permissionResponse copyDepth params allow = .ok response ↔
      ∃ requested, (dictGet params "permissions").getD (.obj []) = .obj requested ∧
        (allow → (Json.obj requested).depth ≤ copyDepth) ∧
        response = .obj [("permissions", .obj (if allow then requested else [])),
          ("scope", .str "turn"), ("strictAutoReview", .bool false)] := by
  unfold permissionResponse
  cases (dictGet params "permissions").getD (.obj []) with
  | obj requested =>
      cases allow with
      | false =>
          constructor
          · rintro ⟨⟩
            exact ⟨requested, rfl, nofun, rfl⟩
          · rintro ⟨_, _, _, rfl⟩
            rfl
      | true =>
          simp only [↓reduceIte, forall_const, Json.obj.injEq]
          cases copied : deepcopy copyDepth requested with
          | ok granted =>
              obtain ⟨fits, rfl⟩ := deepcopy_eq_ok.mp copied
              constructor
              · rintro ⟨⟩
                exact ⟨granted, rfl, fits, rfl⟩
              · rintro ⟨_, rfl, _, rfl⟩
                rfl
          | error error =>
              constructor
              · intro impossible
                cases impossible
              · rintro ⟨_, rfl, fits, _⟩
                rw [deepcopy_eq_ok.mpr ⟨fits, rfl⟩] at copied
                cases copied
  | _ =>
      constructor
      · intro impossible
        cases impossible
      · rintro ⟨_, impossible, _⟩
        cases impossible

/-- A grant of the terminal is read as accepted exactly when it grants something. -/
theorem terminalDecision_permission {request : ServerRequest} (permissions : JsonObject) :
    terminalDecision .permissionRequest request (.obj [("permissions", .obj permissions),
      ("scope", .str "turn"), ("strictAutoReview", .bool false)]) =
        .ok (if permissions = [] then "denied" else "granted") := rfl

/-- A response to user input passes the check of the terminal's answers. -/
theorem terminalDecision_answers {request : ServerRequest} {questions : List Json}
    {answers : List (String × String)} {response : Json}
    (asked : dictGet request.params "questions" = some (.arr questions))
    (made : userInputResponse questions answers = .ok response) :
    terminalDecision .userInput request response = .ok "submitted" := by
  obtain ⟨ids, read, covers, rfl⟩ := userInputResponse_eq_ok.mp made
  have entryKeys : (responseEntries ids answers).map Prod.fst = ids := by
    unfold responseEntries
    rw [List.map_filterMap]
    conv => rhs; rw [← List.filterMap_some (l := ids)]
    apply List.filterMap_congr
    intro id member
    obtain ⟨answer, listed, same⟩ := List.mem_map.mp (covers.1 id member)
    have found : (answers.find? fun answer => answer.1 == id).isSome :=
      List.find?_isSome.mpr ⟨answer, listed, beq_iff_eq.mpr same⟩
    obtain ⟨other, located⟩ := Option.isSome_iff_exists.mp found
    rw [located]
    rfl
  have plain : ∀ entry ∈ responseEntries ids answers, validateTerminalAnswer entry.2 = .ok () := by
    intro entry member
    obtain ⟨id, _, made⟩ := List.mem_filterMap.mp member
    obtain ⟨answer, _, rfl⟩ := Option.map_eq_some_iff.mp made
    rfl
  have accepted : validateTerminalAnswers request
      [("answers", .obj (responseEntries ids answers))] =
      .ok () :=
    (validateTerminalAnswers_eq_ok asked plain).mpr
      ⟨ids, questionIds_eq_ok.mpr (questionIds_eq_ok.mp read), fun id => by rw [entryKeys]⟩
  unfold terminalDecision
  dsimp only
  rw [accepted]
  rfl

/-- Every kind but a permission request names its decision in the response. -/
theorem approval_read_back {kind : InteractionKind}
    (approval : kind = .execApproval ∨ kind = .fileChangeApproval) (request : ServerRequest)
    (answers : Option (List (String × String))) :
    (∀ allow response decision,
        resolution copyDepth kind request allow answers = .ok (response, decision) →
        (terminalDecision kind request response = .ok decision ↔ ¬ GrantsNothing kind request
          allow)) ∧
      ∀ response allowed refused,
        resolution copyDepth kind request (some true) answers = .ok (response, allowed) →
          resolution copyDepth kind request (some false) answers = .ok (response, refused) →
            (allowed = refused ↔ ¬ GrantsNothing kind request (some true)) := by
  have harmless : ∀ allow, ¬ GrantsNothing kind request allow := by
    intro allow grants
    rcases approval with rfl | rfl <;> cases grants.1
  have missing : resolution copyDepth kind request none answers =
      .error (valueError "allow is required for approvals") := by
    rcases approval with rfl | rfl <;> rfl
  have resolved : ∀ allow, resolution copyDepth kind request (some allow) answers =
      .ok (approvalDecision allow,
        if kind = .execApproval then if allow then "approved" else "denied"
        else if allow then "accept" else "decline") := by
    intro allow
    rcases approval with rfl | rfl <;> rfl
  refine ⟨fun allow response decision made => iff_of_true ?_ (harmless allow),
    fun response allowed refused first second => ?_⟩
  · cases allow with
    | none =>
        rw [missing] at made
        cases made
    | some allow =>
        rw [resolved] at made
        cases made
        exact terminalDecision_approval allow approval
  · rw [resolved] at first second
    have accepts := (Prod.mk.inj (Except.ok.inj first)).1
    have declines := (Prod.mk.inj (Except.ok.inj second)).1
    exact absurd (accepts.trans declines.symm) (by decide)

/-- A response that Lark decides is read as the same decision, and responses that are the same have
the same decision, exactly where no empty request for permissions is granted. -/
theorem decision_read_back_iff (copyDepth : Nat) (kind : InteractionKind) (request : ServerRequest)
    (answers : Option (List (String × String))) :
    (∀ allow response decision,
        resolution copyDepth kind request allow answers = .ok (response, decision) →
        (terminalDecision kind request response = .ok decision ↔ ¬ GrantsNothing kind request
          allow)) ∧
      ∀ response allowed refused,
        resolution copyDepth kind request (some true) answers = .ok (response, allowed) →
          resolution copyDepth kind request (some false) answers = .ok (response, refused) →
            (allowed = refused ↔ ¬ GrantsNothing kind request (some true)) := by
  cases kind with
  | userInput =>
      have harmless : ∀ allow, ¬ GrantsNothing .userInput request allow := fun _ grants => by
        cases grants.1
      refine ⟨fun allow response decision resolved => iff_of_true ?_ (harmless allow),
        fun response allowed refused first second => iff_of_true ?_ (harmless _)⟩
      · unfold resolution at resolved
        dsimp only at resolved
        split at resolved
        next => cases resolved
        next given =>
          split at resolved
          next questions asked =>
            cases made : userInputResponse questions given with
            | error error =>
                rw [made] at resolved
                cases resolved
            | ok _ =>
                rw [made] at resolved
                cases resolved
                exact terminalDecision_answers asked made
          next => cases resolved
      · have same : resolution copyDepth .userInput request (some true) answers =
          resolution copyDepth .userInput request (some false) answers := rfl
        rw [same, second] at first
        cases first
        rfl
  | permissionRequest =>
      have resolve : ∀ allow response decision,
          resolution copyDepth .permissionRequest request (some allow) answers =
              .ok (response, decision) ↔
            ∃ requested, (dictGet request.params "permissions").getD (.obj []) = .obj requested ∧
              (allow → (Json.obj requested).depth ≤ copyDepth) ∧
              response = .obj [("permissions", .obj (if allow then requested else [])),
                ("scope", .str "turn"), ("strictAutoReview", .bool false)] ∧
              decision = if allow then "granted" else "denied" := by
        intro allow response decision
        have step : resolution copyDepth .permissionRequest request (some allow) answers =
            (permissionResponse copyDepth request.params allow).map fun response =>
              (response, if allow then "granted" else "denied") := rfl
        rw [step]
        constructor
        · intro resolved
          cases made : permissionResponse copyDepth request.params allow with
          | error error =>
              rw [made] at resolved
              cases resolved
          | ok _ =>
              rw [made] at resolved
              cases resolved
              obtain ⟨requested, asked, fits, rfl⟩ := permissionResponse_eq_ok.mp made
              exact ⟨requested, asked, fits, rfl, rfl⟩
        · rintro ⟨requested, asked, fits, rfl, rfl⟩
          rw [permissionResponse_eq_ok.mpr ⟨requested, asked, fits, rfl⟩]
          rfl
      constructor
      · intro allow response decision resolved
        cases allow with
        | none => cases resolved
        | some allow =>
            obtain ⟨requested, asked, _, rfl, rfl⟩ := (resolve allow response decision).mp resolved
            rw [terminalDecision_permission]
            unfold GrantsNothing
            rw [asked]
            cases allow with
            | false => exact iff_of_true rfl fun grants => by cases grants.2.1
            | true =>
                simp only [↓reduceIte, Json.obj.injEq, true_and]
                by_cases empty : requested = []
                · rw [if_pos empty]
                  exact iff_of_false (fun same => absurd same (by decide)) (not_not.mpr empty)
                · rw [if_neg empty]
                  exact iff_of_true rfl empty
      · intro response allowed refused first second
        obtain ⟨requested, asked, _, rfl, rfl⟩ := (resolve true response allowed).mp first
        obtain ⟨_, also, _, same, rfl⟩ := (resolve false _ refused).mp second
        simp only [↓reduceIte, Bool.false_eq_true, Json.obj.injEq, List.cons.injEq, Prod.mk.injEq,
          true_and, and_true] at same
        unfold GrantsNothing
        rw [asked, same]
        exact iff_of_false (fun alike => absurd alike (by decide)) (not_not.mpr ⟨rfl, rfl, rfl⟩)
  | execApproval => exact approval_read_back (.inl rfl) request answers
  | fileChangeApproval => exact approval_read_back (.inr rfl) request answers

/-- A granted request that asks for nothing is sent as its refusal is, and recorded as granted. -/
theorem empty_grant_recorded :
    let request : ServerRequest :=
      ⟨.int 1, "item/permissions/requestApproval", [("permissions", .obj [])]⟩
    let response : Json := .obj [("permissions", .obj []), ("scope", .str "turn"),
      ("strictAutoReview", .bool false)]
    resolution 480 .permissionRequest request (some true) none = .ok (response, "granted") ∧
      resolution 480 .permissionRequest request (some false) none = .ok (response, "denied") ∧
      terminalDecision .permissionRequest request response = .ok "denied" :=
  ⟨rfl, rfl, rfl⟩

end Decisions

end LarkBot
