import Mathlib.Data.List.Basic

/-! # Notifications about tasks

The result of a task, what was detected in its output, and the session of an agent that it ran
in. The dedupe key of a notification joins what makes it a repeat of an earlier one, so it only
tells apart what differs between its colons (`LarkBot.NotificationRequest.dedupeKey_eq_iff_pieces`).
-/

namespace LarkBot

inductive AgentKind where
  | codex
  | claude
  deriving DecidableEq

def AgentKind.value : AgentKind → String
  | .codex => "codex"
  | .claude => "claude"

/-- `AgentKind(value)`, which raises on a text that names no agent. -/
def AgentKind.ofValue? (value : String) : Option AgentKind :=
  [AgentKind.codex, .claude].find? fun agent => agent.value == value

inductive TaskStatus where
  | succeeded
  | failed
  | waitingForInput
  deriving DecidableEq

def TaskStatus.value : TaskStatus → String
  | .succeeded => "succeeded"
  | .failed => "failed"
  | .waitingForInput => "waiting_for_input"

structure DetectionResult where
  status : TaskStatus
  tags : List String
  deriving DecidableEq

/-- The result of a task, with its duration as the format `.1f` writes it. -/
structure TaskResult where
  name : String
  command : List String
  exitCode : Int
  durationSeconds : String
  stdoutTail : List String
  stderrTail : List String
  source : String
  deriving DecidableEq

structure NotificationContext where
  agent : AgentKind
  sessionId : String
  sessionName : String
  deriving DecidableEq

structure NotificationRequest where
  task : TaskResult
  detection : DetectionResult
  context : Option NotificationContext
  deriving DecidableEq

/-- A text is cut at its first sign in one way. -/
theorem cut_at_sign {α : Type*} {sign : α} {start other rest others : List α} (plain : sign ∉ start)
    (otherPlain : sign ∉ other) (same : start ++ sign :: rest = other ++ sign :: others) :
    start = other ∧ rest = others := by
  induction start generalizing other with
  | nil =>
      cases other with
      | nil => exact ⟨rfl, (List.cons.inj same).2⟩
      | cons first other =>
          obtain ⟨rfl, _⟩ := List.cons.inj same
          exact absurd List.mem_cons_self otherPlain
  | cons first start ih =>
      cases other with
      | nil =>
          obtain ⟨rfl, _⟩ := List.cons.inj same
          exact absurd List.mem_cons_self plain
      | cons letter other =>
          rw [List.cons_append, List.cons_append] at same
          obtain ⟨rfl, later⟩ := List.cons.inj same
          obtain ⟨rfl, rfl⟩ := ih (List.not_mem_of_not_mem_cons plain)
            (List.not_mem_of_not_mem_cons otherPlain) later
          exact ⟨rfl, rfl⟩

/-- A text is cut at its last sign in one way. -/
theorem cut_at_last_sign {α : Type*} {sign : α} {start other rest others : List α}
    (plain : sign ∉ rest) (otherPlain : sign ∉ others)
    (same : start ++ sign :: rest = other ++ sign :: others) : start = other ∧ rest = others := by
  have reversed := congrArg List.reverse same
  rw [List.reverse_append, List.reverse_append, List.reverse_cons, List.reverse_cons,
    List.append_assoc, List.append_assoc, List.singleton_append, List.singleton_append] at reversed
  obtain ⟨ends, starts⟩ := cut_at_sign (fun member => plain (List.mem_reverse.mp member))
    (fun member => otherPlain (List.mem_reverse.mp member)) reversed
  exact ⟨List.reverse_inj.mp starts, List.reverse_inj.mp ends⟩

/-- Words without a space are read back from the text that joins them. -/
theorem intercalate_space_inj {words others : List String}
    (plain : ∀ word ∈ words, word ≠ "" ∧ ' ' ∉ word.toList)
    (otherPlain : ∀ word ∈ others, word ≠ "" ∧ ' ' ∉ word.toList)
    (same : " ".intercalate words = " ".intercalate others) : words = others := by
  have read : ∀ words : List String, (∀ word ∈ words, word ≠ "" ∧ ' ' ∉ word.toList) → words ≠ [] →
      (" ".intercalate words).toList.splitOn ' ' = words.map String.toList := by
    intro words plain nonempty
    rw [String.toList_intercalate]
    refine List.splitOn_intercalate ' ' (fun letters member => ?_)
      (List.map_eq_nil_iff.not.mpr nonempty)
    obtain ⟨word, listed, rfl⟩ := List.mem_map.mp member
    exact (plain word listed).2
  have shown : ∀ words : List String, (∀ word ∈ words, word ≠ "" ∧ ' ' ∉ word.toList) →
      " ".intercalate words = "" → words = [] := by
    intro words plain empty
    by_contra nonempty
    have split := read words plain nonempty
    rw [empty] at split
    cases words with
    | nil => exact nonempty rfl
    | cons word words =>
        have first : ([] : List Char) = word.toList := (List.cons.inj split).1
        exact (plain word List.mem_cons_self).1 (String.toList_inj.mp first.symm)
  by_cases nonempty : words = []
  · subst nonempty
    exact (shown others otherPlain same.symm).symm
  · by_cases other : others = []
    · subst other
      exact absurd (shown words plain same) nonempty
    · have split := read words plain nonempty
      rw [same, read others otherPlain other] at split
      exact (List.map_inj_right fun _ _ => String.toList_inj.mp).mp split.symm

namespace NotificationRequest

/-- The session in the key. -/
def keySession (context : Option NotificationContext) : String :=
  match context with
  | some context => context.sessionId
  | none => "-"

/-- `NotificationRequest.dedupe_key`. -/
def dedupeKey (request : NotificationRequest) : String :=
  let commandText := " ".intercalate request.task.command
  let session := keySession request.context
  request.task.source ++ ":" ++ session ++ ":" ++ request.task.name ++ ":" ++ commandText ++ ":" ++
    request.detection.status.value

/-- What a notification is about: source, session, task name, command and status. -/
def subject (request : NotificationRequest) :
    String × Option String × String × List String × TaskStatus :=
  (request.task.source, request.context.map NotificationContext.sessionId, request.task.name,
    request.task.command, request.detection.status)

/-- Notifications about the same have the same key. -/
theorem dedupeKey_of_subject {first second : NotificationRequest}
    (same : first.subject = second.subject) : first.dedupeKey = second.dedupeKey := by
  simp only [subject, Prod.mk.injEq] at same
  obtain ⟨source, session, name, command, status⟩ := same
  unfold dedupeKey keySession
  rw [source, name, command, status]
  cases context : first.context with
  | none =>
      rw [context, Option.map_none, eq_comm, Option.map_eq_none_iff] at session
      rw [session]
  | some given =>
      rw [context, Option.map_some, eq_comm, Option.map_eq_some_iff] at session
      obtain ⟨other, otherContext, sameId⟩ := session
      rw [otherContext]
      dsimp only
      rw [sameId]

/-- The parts of the key, in order, cut at every colon in them. -/
def keyPieces (request : NotificationRequest) : List (List Char) :=
  [request.task.source, keySession request.context, request.task.name,
    " ".intercalate request.task.command].flatMap fun part => part.toList.splitOn ':'

/-- The statuses are the same, and the other parts are between their colons. -/
def SharesPieces (first second : NotificationRequest) : Prop :=
  first.detection.status = second.detection.status ∧ first.keyPieces = second.keyPieces

instance (first second : NotificationRequest) : Decidable (SharesPieces first second) :=
  inferInstanceAs (Decidable (_ ∧ _))

/-- The parts of the key keep apart in it: source, session and name have no colon, no argument is
empty or has a space, and the session does not have the name that stands for none. -/
structure Plain (request : NotificationRequest) : Prop where
  source : ':' ∉ request.task.source.toList
  session : ∀ context, request.context = some context →
    ':' ∉ context.sessionId.toList ∧ context.sessionId ≠ "-"
  name : ':' ∉ request.task.name.toList
  command : ∀ argument ∈ request.task.command, argument ≠ "" ∧ ' ' ∉ argument.toList

/-- A key is its five pieces with signs between them. -/
theorem dedupeKey_toList (request : NotificationRequest) : request.dedupeKey.toList =
    request.task.source.toList ++ ':' :: ((keySession request.context).toList ++ ':' ::
      (request.task.name.toList ++ ':' :: ((" ".intercalate request.task.command).toList ++ ':' ::
        request.detection.status.value.toList))) := by
  unfold dedupeKey keySession
  simp only [String.toList_append, List.append_assoc]
  rfl

/-- The text of a status has no sign. -/
theorem value_signless (status : TaskStatus) : ':' ∉ status.value.toList := by
  cases status <;> decide

/-- Two statuses with the same text are the same. -/
theorem value_injective {status other : TaskStatus} (same : status.value = other.value) :
    status = other := by
  revert same
  cases status <;> cases other <;> decide

/-- The key is cut at its colons into the pieces of its parts and the status. -/
theorem splitOn_dedupeKey (request : NotificationRequest) : request.dedupeKey.toList.splitOn ':' =
    request.keyPieces ++ [request.detection.status.value.toList] := by
  have status : request.detection.status.value.toList.splitOn ':' =
      [request.detection.status.value.toList] :=
    List.splitOn_eq_singleton (value_signless request.detection.status)
  rw [dedupeKey_toList, List.splitOn_append_cons_self, List.splitOn_append_cons_self,
    List.splitOn_append_cons_self, List.splitOn_append_cons_self, status]
  unfold keyPieces
  simp only [List.flatMap_cons, List.flatMap_nil, List.append_assoc, List.nil_append]

variable {first second : NotificationRequest}

/-- Two notifications have one key if and only if they share their pieces. -/
theorem dedupeKey_eq_iff_pieces :
    first.dedupeKey = second.dedupeKey ↔ SharesPieces first second := by
  constructor
  · intro same
    have pieces := congrArg (fun key : String => key.toList.splitOn ':') same
    rw [splitOn_dedupeKey, splitOn_dedupeKey] at pieces
    obtain ⟨parts, status⟩ := List.append_inj' pieces rfl
    exact ⟨value_injective (String.toList_inj.mp (List.singleton_inj.mp status)), parts⟩
  · rintro ⟨status, parts⟩
    have pieces : first.dedupeKey.toList.splitOn ':' = second.dedupeKey.toList.splitOn ':' := by
      rw [splitOn_dedupeKey, splitOn_dedupeKey, status, parts]
    have joined := congrArg [':'].intercalate pieces
    rw [List.intercalate_splitOn, List.intercalate_splitOn] at joined
    exact String.toList_inj.mp joined

/-- The session of a plain request has no sign in its key. -/
theorem Plain.keySession_signless (plain : first.Plain) :
    ':' ∉ (keySession first.context).toList := by
  unfold keySession
  split
  next context given => exact (plain.session context given).1
  next => decide

/-- Two plain requests with the same session in their keys have the same session. -/
theorem Plain.session_of_keySession (plain : first.Plain) (otherPlain : second.Plain)
    (same : keySession first.context = keySession second.context) :
    first.context.map NotificationContext.sessionId =
      second.context.map NotificationContext.sessionId := by
  unfold keySession at same
  cases given : first.context with
  | none =>
      cases otherGiven : second.context with
      | none => rfl
      | some context =>
          rw [given, otherGiven] at same
          exact absurd same.symm (otherPlain.session context otherGiven).2
  | some context =>
      cases otherGiven : second.context with
      | none =>
          rw [given, otherGiven] at same
          exact absurd same (plain.session context given).2
      | some other =>
          rw [given, otherGiven] at same
          exact congrArg some same

/-- Plain notifications have one key if and only if they are about the same. -/
theorem dedupeKey_eq_iff (plain : first.Plain) (otherPlain : second.Plain) :
    first.dedupeKey = second.dedupeKey ↔ first.subject = second.subject := by
  refine ⟨fun same => ?_, dedupeKey_of_subject⟩
  have texts := congrArg String.toList same
  rw [dedupeKey_toList, dedupeKey_toList] at texts
  obtain ⟨source, texts⟩ := cut_at_sign plain.source otherPlain.source texts
  obtain ⟨session, texts⟩ :=
    cut_at_sign plain.keySession_signless otherPlain.keySession_signless texts
  obtain ⟨name, texts⟩ := cut_at_sign plain.name otherPlain.name texts
  obtain ⟨command, status⟩ := cut_at_last_sign (value_signless _) (value_signless _) texts
  unfold subject
  rw [String.toList_inj.mp source, String.toList_inj.mp name,
    plain.session_of_keySession otherPlain (String.toList_inj.mp session),
    intercalate_space_inj plain.command otherPlain.command (String.toList_inj.mp command),
    value_injective (String.toList_inj.mp status)]

end NotificationRequest

end LarkBot
