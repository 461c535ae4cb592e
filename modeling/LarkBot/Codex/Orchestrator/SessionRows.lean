import LarkBot.Codex.Orchestrator.Core

/-! # What an action does to the row of a session

Every row after an action is a new session, an old row, or the row of an active
session that was rewritten. Only `update_session_if_status` writes a thread or a
turn into a row, and only the completion of a turn takes one out
(`LarkBot.Core.sessionFrom_of_perform`).
-/

namespace LarkBot

open Foundation

namespace Core

/-- Where a session row after an action comes from. -/
inductive SessionFrom (core : Core) : CoreAction → CodexSession → Prop
  | created (session : CodexSession) : SessionFrom core (.createSession session)
      { session with summary := safeSummary session.summary }
  | kept {action : CoreAction} (session : CodexSession) : session ∈ core.tables.sessions →
      SessionFrom core action session
  | updated {sessionId : String} {update : SessionUpdate} {updatedAt : Instant}
      (old : CodexSession) : old ∈ core.tables.sessions → old.id = sessionId →
      update.expectedStatuses.contains old.status →
      SessionFrom core (.updateSession sessionId update updatedAt)
        { old with
          status := .running
          threadId := update.threadId.getD old.threadId
          turnId := update.turnId.getD old.turnId
          updatedAt }
  | rewritten {action : CoreAction} (old next : CodexSession) : old ∈ core.tables.sessions →
      old.status.isActive → next.id = old.id → next.threadId = old.threadId →
      next.turnId = old.turnId ∨ next.turnId = none → next.status ≠ .starting →
      SessionFrom core action next

/-- A row after an update is an old one, or one that the update selected. -/
theorem session_of_updateWhere {tables after : CodexTables} {selected : CodexSession → Bool}
    {change : CodexSession → CodexSession} {session : CodexSession}
    (rows : after.sessions = updateWhere selected change tables.sessions)
    (member : session ∈ after.sessions) :
    session ∈ tables.sessions ∨
      ∃ old ∈ tables.sessions, selected old ∧ session = change old := by
  rw [rows] at member
  obtain ⟨old, oldMem, rfl⟩ := mem_updateWhere.mp member
  by_cases chosen : selected old
  · exact Or.inr ⟨old, oldMem, chosen, if_pos chosen⟩
  · exact Or.inl (by rwa [if_neg chosen])

variable {core : Core} {action : CoreAction} {session : CodexSession}

/-- The update of an active session that leaves its thread and turn. -/
theorem sessionFrom_of_updateWhere {tables : CodexTables} {selected : CodexSession → Bool}
    {change : CodexSession → CodexSession}
    (rows : tables.sessions = updateWhere selected change core.tables.sessions)
    (active : ∀ old, selected old → old.status.isActive)
    (same : ∀ old, (change old).id = old.id ∧ (change old).threadId = old.threadId ∧
      ((change old).turnId = old.turnId ∨ (change old).turnId = none) ∧
      (change old).status ≠ .starting)
    (member : session ∈ tables.sessions) : core.SessionFrom action session := by
  rcases session_of_updateWhere rows member with old | ⟨old, oldMem, chosen, rfl⟩
  · exact .kept session old
  · obtain ⟨sameId, sameThread, turn, started⟩ := same old
    exact .rewritten old _ oldMem (active old chosen) sameId sameThread turn started

/-- After a claim a session is one from before, with its status recomputed at most. -/
theorem sessionFrom_of_claimed {tables : CodexTables} {row : PendingInteraction}
    {change : PendingInteraction → PendingInteraction} {updatedAt : Instant}
    (claimed : core.tables.Claimed row change updatedAt tables)
    (member : session ∈ tables.sessions) : core.SessionFrom action session :=
  sessionFrom_of_updateWhere claimed.sessions (fun _ chosen => ((Bool.and_eq_true _ _).mp chosen).2)
    (fun _ => ⟨rfl, rfl, Or.inl rfl, CodexTables.nextStatus_ne_starting _⟩) member

/-- After the end of a session every row is one from before, or the one that ended. -/
theorem sessionFrom_of_ended {tables : CodexTables} {sessionId summary : String}
    {status : SessionStatus} {pendingStatus : InteractionStatus} {updatedAt : Instant}
    {ids : List String}
    (done : core.tables.claimSessionTerminal sessionId status summary pendingStatus updatedAt =
      .ok (some ids, tables)) (member : session ∈ tables.sessions) :
    core.SessionFrom action session := by
  obtain ⟨terminal, _, _, _, sessions, _⟩ := CodexTables.claimSessionTerminal_some done
  refine sessionFrom_of_updateWhere sessions
    (fun _ chosen => ((Bool.and_eq_true _ _).mp chosen).2)
    (fun _ => ⟨rfl, rfl, Or.inl rfl, ?_⟩) member
  rintro rfl
  cases terminal

/-- After any action a session is one that the action accounts for. -/
theorem sessionFrom_of_perform (core : Core) (action : CoreAction) {session : CodexSession}
    (member : session ∈ (core.perform action).tables.sessions) :
    core.SessionFrom action session := by
  cases action with
  | createSession created =>
      cases done : core.tables.createSession created with
      | error error =>
          simp only [perform, done] at member
          exact .kept _ member
      | ok tables =>
          rw [perform_createSession core done] at member
          obtain ⟨_, sessions, _⟩ := CodexTables.insertSession_ok done
          rcases List.mem_append.mp (sessions ▸ member) with old | new
          · exact .kept session old
          · obtain rfl := List.mem_singleton.mp new
            exact .created _
  | updateSession sessionId update updatedAt =>
      rcases session_of_updateWhere rfl member with old | ⟨old, oldMem, chosen, rfl⟩
      · exact .kept session old
      · obtain ⟨same, expected⟩ := (Bool.and_eq_true _ _).mp chosen
        exact .updated old oldMem (beq_iff_eq.mp same) expected
  | admitInteraction live status updatedAt =>
      simp only [perform] at member
      split at member
      next tables created =>
        obtain ⟨_, _, _, sessions, _⟩ := CodexTables.createInteractionAndMarkWaiting_true created
        refine sessionFrom_of_updateWhere sessions
          (fun _ chosen => ((Bool.and_eq_true _ _).mp chosen).2)
          (fun _ => ⟨rfl, rfl, Or.inl rfl, ?_⟩) member
        rintro rfl
        cases created
      next => exact .kept session member
  | claim interactionId decision actorId updatedAt status =>
      simp only [perform] at member
      split at member
      next tables done =>
        obtain ⟨_, _, _, _, _, claimed⟩ :=
          CodexTables.resolveInteractionAndRefreshSession_true done
        exact sessionFrom_of_claimed claimed member
      next => exact .kept session member
  | cancel interactionId updatedAt =>
      rcases done : core.tables.cancelInteractionAndRefreshSession interactionId updatedAt with
        ⟨won, tables⟩
      simp only [perform, done] at member
      cases won with
      | true =>
          obtain ⟨_, _, claimed⟩ := CodexTables.cancelInteractionAndRefreshSession_true done
          exact sessionFrom_of_claimed claimed member
      | false =>
          obtain ⟨rfl, _⟩ := CodexTables.cancelInteractionAndRefreshSession_false done
          exact .kept session member
  | endSession sessionId status summary updatedAt =>
      simp only [perform] at member
      split at member
      next done => exact sessionFrom_of_ended done member
      next => exact .kept session member
  | failStartup sessionId summary updatedAt =>
      simp only [perform] at member
      split at member
      next done => exact sessionFrom_of_ended done member
      next => exact .kept session member
  | finishTurn sessionId turnId summary updatedAt =>
      simp only [perform] at member
      split at member
      next done =>
        obtain ⟨_, _, sessions, _⟩ := CodexTables.finishInteractiveTurn_some done
        exact sessionFrom_of_updateWhere sessions
          (fun _ chosen => ((Bool.and_eq_true _ _).mp chosen).2)
          (fun _ => ⟨rfl, rfl, Or.inr rfl, SessionStatus.noConfusion⟩) member
      next => exact .kept session member
  | hostSession | releaseSession | attachLarkMessageId => exact .kept session member

/-- A session that has a thread is no longer starting. -/
def BoundStarted (core : Core) : Prop :=
  ∀ session ∈ core.tables.sessions, session.threadId.isSome → session.status ≠ .starting

/-- An action leaves every bound session started. -/
theorem BoundStarted.perform (bound : core.BoundStarted) (wellFormed : action.WellFormed) :
    (core.perform action).BoundStarted := by
  intro session member hasThread
  cases core.sessionFrom_of_perform action member with
  | created session =>
      have absent : session.threadId = none := wellFormed.threadId_eq
      rw [absent] at hasThread
      cases hasThread
  | kept session old => exact bound session old hasThread
  | updated => exact SessionStatus.noConfusion
  | rewritten old next oldMem active sameId sameThread sameTurn started => exact started

/-- The thread of a row after an action was in the row before, or was just written. -/
theorem thread_of_perform (wellFormed : action.WellFormed) {threadId : String}
    (member : session ∈ (core.perform action).tables.sessions)
    (hasThread : session.threadId = some threadId) :
    (∃ old ∈ core.tables.sessions, old.id = session.id ∧ old.threadId = some threadId) ∨
      ∃ update updatedAt, action = .updateSession session.id update updatedAt ∧
        update.threadId = some (some threadId) := by
  cases core.sessionFrom_of_perform action member with
  | created session =>
      have absent : session.threadId = none := wellFormed.threadId_eq
      rw [absent] at hasThread
      cases hasThread
  | kept session old => exact Or.inl ⟨session, old, rfl, hasThread⟩
  | @updated sessionId update updatedAt old oldMem own expected =>
      cases written : update.threadId with
      | none =>
          simp only [written, Option.getD_none] at hasThread
          exact Or.inl ⟨old, oldMem, rfl, hasThread⟩
      | some threadId =>
          simp only [written, Option.getD_some] at hasThread
          exact Or.inr ⟨update, updatedAt, own ▸ rfl, hasThread ▸ written⟩
  | rewritten old next oldMem active sameId sameThread =>
      exact Or.inl ⟨old, oldMem, sameId.symm, sameThread.symm.trans hasThread⟩

/-- An update that writes a thread finds a session that is starting. -/
theorem starting_of_expected {update : SessionUpdate} {threadId : Option String}
    {status : SessionStatus} (writes : update.threadId = some threadId)
    (expected : update.expectedStatuses.contains status) : status = .starting := by
  cases update with
  | recordTurn => cases writes
  | startThread | bindInteractiveThread =>
      simpa only [SessionUpdate.expectedStatuses, List.contains_cons, List.contains_nil,
        Bool.or_false, beq_iff_eq] using expected

/-- No action changes the thread of a session that has one. -/
theorem BoundStarted.keeps (bound : core.BoundStarted) (action : CoreAction)
    (member : session ∈ core.tables.sessions) (hasThread : session.threadId.isSome) :
    ∃ next ∈ (core.perform action).tables.sessions,
      next.id = session.id ∧ next.threadId = session.threadId := by
  obtain ⟨next, nextMem, same, _⟩ := core.perform_sessionsKept action session member
  by_cases creates : ∃ created, action = .createSession created
  · obtain ⟨created, rfl⟩ := creates
    simp only [Core.perform]
    split
    next tables inserted =>
      obtain ⟨_, sessions, _⟩ := CodexTables.insertSession_ok inserted
      exact ⟨session, sessions ▸ List.mem_append_left _ member, rfl, rfl⟩
    next => exact ⟨session, member, rfl, rfl⟩
  · refine ⟨next, nextMem, same, ?_⟩
    cases core.sessionFrom_of_perform action nextMem with
    | created session => exact absurd ⟨session, rfl⟩ creates
    | kept next old =>
        obtain rfl := CodexTables.session_unique old member same
        rfl
    | @updated sessionId update updatedAt old oldMem own expected =>
        obtain rfl := CodexTables.session_unique oldMem member same
        cases written : update.threadId with
        | none => simp only [Option.getD_none]
        | some threadId =>
            exact absurd (starting_of_expected written expected) (bound old oldMem hasThread)
    | rewritten old next oldMem active sameId sameThread =>
        obtain rfl := CodexTables.session_unique oldMem member (sameId.symm.trans same)
        exact sameThread

end Core

end LarkBot
