import LarkBot.Foundation.Table
import LarkBot.Codex.Model

/-! # The session and interaction tables

The two tables every arbitration goes through, with the constraints of the
schema carried by the structure: primary keys, the partial unique index on the
request ids of pending interactions, and the reference from an interaction to
its session. An insert that would break one raises; an update keeps them all.
-/

namespace LarkBot

open Foundation

/-- `codex_sessions` and `codex_interactions` under the constraints of `codex_schema.py`. -/
structure CodexTables where
  sessions : List CodexSession
  interactions : List PendingInteraction
  sessionIds : UniqueOn (fun _ => true) CodexSession.id sessions
  interactionIds : UniqueOn (fun _ => true) PendingInteraction.id interactions
  pendingRequests :
    UniqueOn PendingInteraction.isPending PendingInteraction.requestId interactions
  interactionSessions : ∀ interaction ∈ interactions, ∃ session ∈ sessions,
    session.id = interaction.sessionId

namespace CodexTables

/-- Tables with the same rows are equal. -/
theorem eq_of_rows {left right : CodexTables} (sessions : left.sessions = right.sessions)
    (interactions : left.interactions = right.interactions) : left = right := by
  cases left
  cases right
  cases sessions
  cases interactions
  rfl

/-- The tables right after the schema was installed. -/
def empty : CodexTables where
  sessions := []
  interactions := []
  sessionIds := .nil _ _
  interactionIds := .nil _ _
  pendingRequests := .nil _ _
  interactionSessions := by simp only [List.not_mem_nil, false_implies, implies_true]

variable (tables : CodexTables)

/-- `UPDATE codex_sessions SET change WHERE scope`. -/
def updateSessions (scope : CodexSession → Bool) (change : CodexSession → CodexSession)
    (keepsId : ∀ session, (change session).id = session.id) : CodexTables where
  sessions := updateWhere scope change tables.sessions
  interactions := tables.interactions
  sessionIds := tables.sessionIds.updateWhere scope change keepsId fun _ inScope => inScope
  interactionIds := tables.interactionIds
  pendingRequests := tables.pendingRequests
  interactionSessions := by
    intro interaction member
    obtain ⟨session, present, same⟩ := tables.interactionSessions interaction member
    by_cases selected : scope session
    · exact ⟨change session, mem_updateWhere_of_selected present selected,
        (keepsId session).trans same⟩
    · exact ⟨session, mem_updateWhere_of_unselected present (Bool.not_eq_true _ ▸ selected), same⟩

/-- An assignment that keeps the columns under a constraint and reopens no interaction. -/
structure Settles (change : PendingInteraction → PendingInteraction) : Prop where
  id : ∀ interaction, (change interaction).id = interaction.id
  sessionId : ∀ interaction, (change interaction).sessionId = interaction.sessionId
  requestId : ∀ interaction, (change interaction).requestId = interaction.requestId
  isPending : ∀ interaction, (change interaction).isPending → interaction.isPending

/-- `UPDATE codex_interactions SET change WHERE scope`. -/
def updateInteractions (scope : PendingInteraction → Bool)
    (change : PendingInteraction → PendingInteraction) (settles : Settles change) :
    CodexTables where
  sessions := tables.sessions
  interactions := updateWhere scope change tables.interactions
  sessionIds := tables.sessionIds
  interactionIds := tables.interactionIds.updateWhere scope change settles.id
    fun _ inScope => inScope
  pendingRequests := tables.pendingRequests.updateWhere scope change settles.requestId
    settles.isPending
  interactionSessions := by
    intro interaction member
    obtain ⟨old, present, rfl⟩ := mem_updateWhere.mp member
    obtain ⟨session, owner, same⟩ := tables.interactionSessions old present
    refine ⟨session, owner, ?_⟩
    by_cases selected : scope old
    · simp only [selected, ↓reduceIte, settles.sessionId, same]
    · simp only [selected, Bool.false_eq_true, ↓reduceIte, same]

def integrityError (constraint : String) : PyError :=
  ⟨.integrityError, constraint ++ " constraint failed"⟩

/-- `INSERT INTO codex_sessions`. -/
def insertSession (session : CodexSession) : Except PyError CodexTables :=
  if fresh : ∀ old ∈ tables.sessions, old.id ≠ session.id then
    .ok {
      sessions := tables.sessions ++ [session]
      interactions := tables.interactions
      sessionIds := tables.sessionIds.append_singleton session fun old member _ _ =>
        fresh old member
      interactionIds := tables.interactionIds
      pendingRequests := tables.pendingRequests
      interactionSessions := fun interaction member =>
        have ⟨owner, present, same⟩ := tables.interactionSessions interaction member
        ⟨owner, List.mem_append_left _ present, same⟩ }
  else .error (integrityError "UNIQUE")

/-- `INSERT INTO codex_interactions`. -/
def insertInteraction (interaction : PendingInteraction) : Except PyError CodexTables :=
  if owned : ∃ session ∈ tables.sessions, session.id = interaction.sessionId then
    if fresh : ∀ old ∈ tables.interactions, old.id ≠ interaction.id then
      if unclaimed : ∀ old ∈ tables.interactions, old.isPending → interaction.isPending →
          old.requestId ≠ interaction.requestId then
        .ok {
          sessions := tables.sessions
          interactions := tables.interactions ++ [interaction]
          sessionIds := tables.sessionIds
          interactionIds := tables.interactionIds.append_singleton interaction
            fun old member _ _ => fresh old member
          pendingRequests := tables.pendingRequests.append_singleton interaction unclaimed
          interactionSessions := fun other member =>
            (List.mem_append.mp member).elim (tables.interactionSessions other)
              fun last => List.mem_singleton.mp last ▸ owned }
      else .error (integrityError "UNIQUE")
    else .error (integrityError "UNIQUE")
  else .error (integrityError "FOREIGN KEY")

/-- Two rows of one session id are the same row. -/
theorem session_unique {tables : CodexTables} {first second : CodexSession}
    (firstMem : first ∈ tables.sessions) (secondMem : second ∈ tables.sessions)
    (same : first.id = second.id) : first = second :=
  tables.sessionIds.eq_of_mem firstMem secondMem rfl rfl same

/-- Two rows of one interaction id are the same row. -/
theorem interaction_unique {tables : CodexTables} {first second : PendingInteraction}
    (firstMem : first ∈ tables.interactions) (secondMem : second ∈ tables.interactions)
    (same : first.id = second.id) : first = second :=
  tables.interactionIds.eq_of_mem firstMem secondMem rfl rfl same

/-- What a successful insert of a session did. -/
theorem insertSession_ok {tables after : CodexTables} {session : CodexSession}
    (inserted : tables.insertSession session = .ok after) :
    (∀ old ∈ tables.sessions, old.id ≠ session.id) ∧
      after.sessions = tables.sessions ++ [session] ∧
      after.interactions = tables.interactions := by
  unfold insertSession at inserted
  split at inserted
  next fresh =>
    cases inserted
    exact ⟨fresh, rfl, rfl⟩
  next => cases inserted

/-- What a successful insert of an interaction did. -/
theorem insertInteraction_ok {tables after : CodexTables} {interaction : PendingInteraction}
    (inserted : tables.insertInteraction interaction = .ok after) :
    (∃ session ∈ tables.sessions, session.id = interaction.sessionId) ∧
      (∀ old ∈ tables.interactions, old.id ≠ interaction.id) ∧
      after.sessions = tables.sessions ∧
      after.interactions = tables.interactions ++ [interaction] := by
  unfold insertInteraction at inserted
  split at inserted
  next owned =>
    split at inserted
    next fresh =>
      split at inserted
      next =>
        cases inserted
        exact ⟨owned, fresh, rfl, rfl⟩
      next => cases inserted
    next => cases inserted
  next => cases inserted

/-- An insert fails exactly on a missing session, a used id or a request id
that a pending interaction of any session holds. -/
theorem insertInteraction_isOk_iff {tables : CodexTables} {interaction : PendingInteraction} :
    (∃ after, tables.insertInteraction interaction = .ok after) ↔
      (∃ session ∈ tables.sessions, session.id = interaction.sessionId) ∧
        (∀ old ∈ tables.interactions, old.id ≠ interaction.id) ∧
        ∀ old ∈ tables.interactions, old.isPending → interaction.isPending →
          old.requestId ≠ interaction.requestId := by
  unfold insertInteraction
  constructor
  · rintro ⟨after, inserted⟩
    split at inserted
    next owned =>
      split at inserted
      next fresh =>
        split at inserted
        next unclaimed => exact ⟨owned, fresh, unclaimed⟩
        next => cases inserted
      next => cases inserted
    next => cases inserted
  · rintro ⟨owned, fresh, unclaimed⟩
    rw [dif_pos owned, dif_pos fresh, dif_pos unclaimed]
    exact ⟨_, rfl⟩

end CodexTables

end LarkBot
