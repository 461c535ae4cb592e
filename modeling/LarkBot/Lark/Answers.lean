import LarkBot.Codex.Orchestration.Agreement
import LarkBot.Lark.Router

/-! # Answers that are read and accepted

Reading a reply raises only at a key of digits that `int` rejects, when every line
before it answers another question. What is read answers every question, and the
resolver makes a response of it exactly when the ids of the questions are distinct
(`LarkBot.read_answers_accepted_iff`).
-/

namespace LarkBot

open Foundation

section Lines

/-- The question that a line answers, by number or by id, with the answer. -/
def lineAnswer (questionIds : List String) (line : List Char) : Option (String × String) :=
  match lineParts line with
  | none => none
  | some (key, answer) =>
      match keyQuestion questionIds key with
      | .ok (some questionId) => if answer = "" then none else some (questionId, answer)
      | _ => none

/-- The key of a line is made of digits, and is no number. -/
def HasBadNumber (line : List Char) : Prop :=
  ∃ key answer, lineParts line = some (key, answer) ∧ isDigit key ∧ ¬ IsNumber key

/-- The lines answer questions, each another one. -/
structure AnsweredBy (questionIds : List String) (lines : List (List Char))
    (answers : List (String × String)) : Prop where
  read : lines.map (lineAnswer questionIds) = answers.map some
  distinct : (answers.map Prod.fst).Nodup

variable {questionIds : List String} {answered answers : List (String × String)}
  {lines : List (List Char)} {error : PyError}

/-- A key that raises is made of digits that Python does not read. -/
theorem keyQuestion_error {key : List Char} (raised : keyQuestion questionIds key = .error error) :
    isDigit key ∧ ¬ IsNumber key := by
  unfold keyQuestion numberedQuestion at raised
  by_cases digits : isDigit key
  · refine ⟨digits, fun number => ?_⟩
    obtain ⟨value, read⟩ := parseInt_ok number
    rw [if_pos digits, read] at raised
    cases raised
  · rw [if_neg digits] at raised
    cases raised

/-- A line that is taken over answers a question that no earlier line answers. -/
theorem lineAnswer_of_parts {line key : List Char} {answer questionId : String}
    (parts : lineParts line = some (key, answer))
    (named : keyQuestion questionIds key = .ok (some questionId)) (nonempty : answer ≠ "") :
    lineAnswer questionIds line = some (questionId, answer) := by
  simp only [lineAnswer, parts, named, if_neg nonempty]

/-- A new answer to a question without one leaves the answered questions distinct. -/
theorem distinct_append {questionId answer : String} (distinct : (answered.map Prod.fst).Nodup)
    (new : questionId ∉ answered.map Prod.fst) :
    ((answered ++ [(questionId, answer)]).map Prod.fst).Nodup := by
  rw [List.map_append, List.nodup_append]
  refine ⟨distinct, List.nodup_singleton _, ?_⟩
  rintro first member second last rfl
  obtain rfl : first = questionId := List.mem_singleton.mp last
  exact new member

/-- What is read of the lines was read before, or is the answer of a line. -/
theorem parseLines_ok (parsed : parseLines questionIds answered lines = .ok (some answers))
    (distinct : (answered.map Prod.fst).Nodup) :
    ∃ rest, answers = answered ++ rest ∧ lines.map (lineAnswer questionIds) = rest.map some ∧
      (answers.map Prod.fst).Nodup := by
  induction lines generalizing answered with
  | nil =>
      cases parsed
      exact ⟨[], (List.append_nil _).symm, rfl, distinct⟩
  | cons line lines ih =>
      unfold parseLines at parsed
      split at parsed
      next => cases parsed
      next key answer parts =>
        split at parsed
        next => cases parsed
        next => cases parsed
        next questionId named =>
          split at parsed
          next => cases parsed
          next taken =>
            rw [not_or] at taken
            obtain ⟨rest, rfl, read, kept⟩ := ih parsed (distinct_append distinct taken.2)
            refine ⟨(questionId, answer) :: rest, List.append_assoc _ _ _, ?_, kept⟩
            rw [List.map_cons, List.map_cons, read, lineAnswer_of_parts parts named taken.1]

/-- Lines that answer questions, each another one, are read. -/
theorem parseLines_of_answers {rest : List (String × String)}
    (read : lines.map (lineAnswer questionIds) = rest.map some)
    (distinct : ((answered ++ rest).map Prod.fst).Nodup) :
    parseLines questionIds answered lines = .ok (some (answered ++ rest)) := by
  induction lines generalizing answered rest with
  | nil =>
      rw [List.map_nil, eq_comm, List.map_eq_nil_iff] at read
      rw [read, List.append_nil]
      rfl
  | cons line lines ih =>
      cases rest with
      | nil => cases read
      | cons answer rest =>
          obtain ⟨first, others⟩ := List.cons.inj read
          have longer := @ih (answered ++ [answer]) rest others
          rw [List.append_assoc] at longer
          have new : answer.1 ∉ answered.map Prod.fst := by
            rw [List.map_append, List.nodup_append] at distinct
            exact fun member => distinct.2.2 _ member _ List.mem_cons_self rfl
          unfold lineAnswer at first
          split at first
          next => cases first
          next key text parts =>
            split at first
            next questionId named =>
              split at first
              next => cases first
              next nonempty =>
                cases first
                unfold parseLines
                simp only [parts, named]
                rw [if_neg (not_or.mpr ⟨nonempty, new⟩)]
                exact longer distinct
            next => cases first

/-- Reading raises at a key of digits that is no number. -/
theorem parseLines_error (raised : parseLines questionIds answered lines = .error error)
    (distinct : (answered.map Prod.fst).Nodup) :
    ∃ before line after rest, lines = before ++ line :: after ∧
      before.map (lineAnswer questionIds) = rest.map some ∧
      ((answered ++ rest).map Prod.fst).Nodup ∧ HasBadNumber line := by
  induction lines generalizing answered with
  | nil => cases raised
  | cons line lines ih =>
      unfold parseLines at raised
      split at raised
      next => cases raised
      next key answer parts =>
        split at raised
        next other fails =>
          refine ⟨[], line, lines, [], rfl, rfl, ?_, key, answer, parts, keyQuestion_error fails⟩
          rw [List.append_nil]
          exact distinct
        next => cases raised
        next questionId named =>
          split at raised
          next => cases raised
          next taken =>
            rw [not_or] at taken
            obtain ⟨before, bad, after, rest, rfl, read, kept, number⟩ :=
              ih raised (distinct_append distinct taken.2)
            refine ⟨line :: before, bad, after, (questionId, answer) :: rest, rfl, ?_, ?_, number⟩
            · rw [List.map_cons, List.map_cons, read, lineAnswer_of_parts parts named taken.1]
            · rw [List.append_assoc] at kept
              exact kept

end Lines

/-- A reply that is read without an exception, and accepted if it answers every question. -/
structure ReadableReply (questionIds : List String) (text : List Char) : Prop where
  /-- A line with a number that `int` rejects comes after a line that answers no
  question, or a question that was answered before. -/
  numbers : 1 < questionIds.length → ∀ before line after answers,
    splitLines text = before ++ line :: after → AnsweredBy questionIds before answers →
      ¬ HasBadNumber line
  distinct : ∀ answers, AnsweredBy questionIds (splitLines text) answers →
    answersAll questionIds answers → questionIds.Nodup

/-- A readable reply is read; what it is read as answers every question, and the ids of
the questions are distinct. -/
theorem parseAnswers_ok {questionIds : List String} {text : List Char}
    (readable : ReadableReply questionIds text) :
    ∃ parsed, parseAnswers text questionIds = .ok parsed ∧ ∀ answers, parsed = some answers →
      questionIds ≠ [] ∧ questionIds.Nodup ∧ answersAll questionIds answers := by
  unfold parseAnswers
  split
  next => exact ⟨none, rfl, fun _ impossible => by cases impossible⟩
  next =>
    split
    next => exact ⟨none, rfl, fun _ impossible => by cases impossible⟩
    next questionId =>
      refine ⟨_, rfl, ?_⟩
      rintro _ ⟨⟩
      refine ⟨List.cons_ne_nil _ _, List.nodup_singleton _, ?_⟩
      simp only [answersAll, List.map_cons, List.map_nil, List.all_cons, List.all_nil,
        List.contains_cons, List.contains_nil, beq_self_eq_true, Bool.true_or, Bool.and_self]
    next several single =>
      cases parsed : parseLines questionIds [] (splitLines text) with
      | error error =>
          obtain ⟨before, line, after, rest, whole, read, kept, number⟩ :=
            parseLines_error parsed List.nodup_nil
          have more : 1 < questionIds.length := by
            match questionIds, several, single with
            | [], several, _ => exact absurd rfl several
            | [questionId], _, single => exact absurd rfl (single questionId)
            | _ :: _ :: _, _, _ => exact Nat.succ_lt_succ (Nat.succ_pos _)
          exact absurd number (readable.numbers more before line after rest whole ⟨read, kept⟩)
      | ok found =>
          refine ⟨_, rfl, fun answers same => ?_⟩
          obtain ⟨rfl, all⟩ := Option.filter_eq_some_iff.mp same
          obtain ⟨rest, rfl, read, kept⟩ := parseLines_ok parsed List.nodup_nil
          exact ⟨several, readable.distinct _ ⟨read, kept⟩ all, all⟩

section Responses

variable {questions : List Json}

/-- Answers to every question make a response. -/
theorem userInputResponse_ok {ids : List String} {answers : List (String × String)}
    (named : questions.map questionIdOf = ids.map some) (distinct : ids.Nodup)
    (all : answersAll ids answers) : ∃ response, userInputResponse questions answers =
    .ok response := by
  obtain ⟨covered, known⟩ := Bool.and_eq_true_iff.mp all
  refine ⟨_, userInputResponse_eq_ok.mpr ⟨ids, questionIds_eq_ok.mpr ⟨named, distinct, ?_⟩,
    ⟨?_, ?_⟩,
    rfl⟩⟩
  · exact fun _ _ => List.not_mem_nil
  · exact fun id member => List.contains_iff_mem.mp (List.all_eq_true.mp covered id member)
  · exact fun id member => List.contains_iff_mem.mp (List.all_eq_true.mp known id member)

/-- Values that are all present are those that are kept. -/
theorem map_some_filterMap_id {values : List (Option String)} (present : values.all Option.isSome) :
    (values.filterMap id).map some = values := by
  induction values with
  | nil => rfl
  | cons value values ih =>
      rw [List.all_cons, Bool.and_eq_true] at present
      obtain ⟨content, rfl⟩ := Option.isSome_iff_exists.mp present.1
      exact congrArg (some content :: ·) (ih present.2)

/-- Ids of questions are those of the questions of a live entry, in order. -/
theorem questions_of_ids {live : Dict String LiveInteraction} {interactionId : String}
    (asked : getUserInputQuestionIds live interactionId ≠ []) :
    ∃ entry questions, live.get? interactionId = some entry ∧
      entry.interaction.kind = .userInput ∧
      dictGet entry.request.params "questions" = some (.arr questions) ∧
      questions.map questionIdOf = (getUserInputQuestionIds live interactionId).map some := by
  unfold getUserInputQuestionIds at asked ⊢
  split at asked
  next => exact absurd rfl asked
  next entry found =>
    split_ifs at asked with input
    · exact absurd rfl asked
    · split at asked
      next questions given =>
        refine ⟨entry, questions, found, not_not.mp input, given, ?_⟩
        simp only [input, ↓reduceIte]
        dsimp only at asked
        split_ifs at asked ⊢ with present
        · exact (map_some_filterMap_id present).symm
        · exact absurd rfl asked
      next => exact absurd rfl asked

/-- What is read of a reply answers every question, and no other. -/
theorem parseAnswers_covers {questionIds : List String} {text : List Char}
    {answers : List (String × String)}
    (parsed : parseAnswers text questionIds = .ok (some answers)) :
    questionIds ≠ [] ∧ Covers questionIds answers := by
  unfold parseAnswers at parsed
  split at parsed
  next => cases parsed
  next =>
    split at parsed
    next => cases parsed
    next questionId =>
      cases parsed
      exact ⟨List.cons_ne_nil _ _, fun _ member => member, fun _ member => member⟩
    next several _ =>
      cases read : parseLines questionIds [] (splitLines text) with
      | error error =>
          rw [read] at parsed
          cases parsed
      | ok found =>
          rw [read] at parsed
          obtain ⟨rfl, all⟩ := Option.filter_eq_some_iff.mp (Except.ok.inj parsed)
          obtain ⟨covered, known⟩ := Bool.and_eq_true_iff.mp all
          exact ⟨several, fun id member => List.contains_iff_mem.mp
            (List.all_eq_true.mp covered id member),
            fun id member => List.contains_iff_mem.mp (List.all_eq_true.mp known id member)⟩

/-- What is read of a reply is accepted exactly when the ids of the questions are distinct. -/
theorem read_answers_accepted_iff {live : Dict String LiveInteraction} {interactionId : String}
    {text : List Char} {answers : List (String × String)}
    (parsed : parseAnswers text (getUserInputQuestionIds live interactionId) = .ok (some answers)) :
    ∃ entry questions, live.get? interactionId = some entry ∧
      dictGet entry.request.params "questions" = some (.arr questions) ∧
      ((∃ response, userInputResponse questions answers = .ok response) ↔
        (getUserInputQuestionIds live interactionId).Nodup) := by
  obtain ⟨asked, covers⟩ := parseAnswers_covers parsed
  obtain ⟨entry, questions, found, _, given, named⟩ := questions_of_ids asked
  refine ⟨entry, questions, found, given, ?_⟩
  constructor
  · rintro ⟨response, made⟩
    obtain ⟨ids, read, _⟩ := userInputResponse_eq_ok.mp made
    obtain ⟨also, distinct, _⟩ := questionIds_eq_ok.mp read
    rw [named] at also
    rwa [List.map_injective_iff.mpr (Option.some_injective String) also]
  · intro distinct
    exact ⟨_, userInputResponse_eq_ok.mpr ⟨_,
      questionIds_eq_ok.mpr ⟨named, distinct, fun _ _ => List.not_mem_nil⟩, covers, rfl⟩⟩

/-- A request that asks questions with these ids. -/
def questionsEntry (questionIds : List String) : LiveInteraction where
  request := ⟨.int 1, "item/tool/requestUserInput",
    [("questions", .arr (questionIds.map fun id => .obj [("id", .str id)]))]⟩
  interaction := ⟨"ask", "session", "1", .userInput, .pending, none, "", 0, none, 0, none, none⟩
  responder := .appServer

/-- A reply that answers both questions of a request is accepted. -/
theorem two_answers_accepted :
    ∃ entry questions, (Dict.empty.set "ask" (questionsEntry ["q1", "q2"])).get? "ask" =
      some entry ∧
      dictGet entry.request.params "questions" = some (.arr questions) ∧
      ((∃ response, userInputResponse questions [("q1", "a"), ("q2", "b")] = .ok response) ↔
        (getUserInputQuestionIds (Dict.empty.set "ask" (questionsEntry ["q1", "q2"]))
          "ask").Nodup) :=
  @read_answers_accepted_iff (Dict.empty.set "ask" (questionsEntry ["q1", "q2"])) "ask"
    "1: a\n2: b".toList [("q1", "a"), ("q2", "b")] (by decide)

/-- One answer is read for two questions with one id, and the resolver raises. -/
theorem repeated_id_raises :
    let live := Dict.empty.set "ask" (questionsEntry ["q", "q"])
    parseAnswers "1: a".toList (getUserInputQuestionIds live "ask") = .ok (some [("q", "a")]) ∧
      userInputResponse [.obj [("id", .str "q")], .obj [("id", .str "q")]] [("q", "a")] =
        .error (valueError "duplicate question id: q") := by
  decide

end Responses

end LarkBot
