import LarkBot.Codex.Orchestrator.ResponseDelivery
import LarkBot.Codex.Orchestrator.SessionRows

/-! # What an action does to the row of an interaction

Every row after an action was there before, for the same session, or was just
admitted. The actions that end a turn or a session record no decision: what was
pending for a session that left its turn is cancelled
(`LarkBot.Core.InTurn.perform`).
-/

namespace LarkBot

open Foundation

namespace Core

/-- Every row of the rewritten list was there before, for the same session. -/
theorem origin_of_updateWhere {tables after : CodexTables}
    {selected : PendingInteraction → Bool} {change : PendingInteraction → PendingInteraction}
    (rows : after.interactions = updateWhere selected change tables.interactions)
    (keeps : ∀ row, (change row).id = row.id ∧ (change row).sessionId = row.sessionId)
    {row : PendingInteraction} (member : row ∈ after.interactions) :
    ∃ old ∈ tables.interactions, old.id = row.id ∧ old.sessionId = row.sessionId := by
  rw [rows] at member
  obtain ⟨old, oldMem, rfl⟩ := mem_updateWhere.mp member
  refine ⟨old, oldMem, ?_⟩
  split
  next => exact ⟨(keeps old).1.symm, (keeps old).2.symm⟩
  next => exact ⟨rfl, rfl⟩

variable {core : Core} {action : CoreAction} {row : PendingInteraction}

/-- A row after an action was there before, or was just admitted. -/
theorem origin_of_perform (member : row ∈ (core.perform action).tables.interactions) :
    (∃ old ∈ core.tables.interactions, old.id = row.id ∧ old.sessionId = row.sessionId) ∨
      ∃ live status updatedAt, action = .admitInteraction live status updatedAt ∧
        row.sessionId = live.interaction.sessionId := by
  have kept (old : row ∈ core.tables.interactions) :
      ∃ old ∈ core.tables.interactions, old.id = row.id ∧ old.sessionId = row.sessionId :=
    ⟨row, old, rfl, rfl⟩
  cases action with
  | createSession session =>
      simp only [perform] at member
      split at member
      next created => exact Or.inl (kept ((CodexTables.insertSession_ok created).2.2 ▸ member))
      next => exact Or.inl (kept member)
  | hostSession | releaseSession | updateSession => exact Or.inl (kept member)
  | admitInteraction live status updatedAt =>
      simp only [perform] at member
      split at member
      next created =>
        obtain ⟨_, _, _, _, _, interactions⟩ :=
          CodexTables.createInteractionAndMarkWaiting_true created
        rcases List.mem_append.mp (interactions ▸ member) with old | new
        · exact Or.inl (kept old)
        · obtain rfl := List.mem_singleton.mp new
          exact Or.inr ⟨live, status, updatedAt, rfl, rfl⟩
      next => exact Or.inl (kept member)
  | claim interactionId decision actorId updatedAt status =>
      simp only [perform] at member
      split at member
      next done =>
        obtain ⟨_, _, _, _, _, claimed⟩ :=
          CodexTables.resolveInteractionAndRefreshSession_true done
        exact Or.inl (origin_of_updateWhere claimed.interactions (fun _ => ⟨rfl, rfl⟩) member)
      next => exact Or.inl (kept member)
  | cancel interactionId updatedAt =>
      simp only [perform] at member
      rcases done : core.tables.cancelInteractionAndRefreshSession interactionId updatedAt with
        ⟨won, tables⟩
      rw [done] at member
      cases won with
      | true =>
          obtain ⟨_, _, claimed⟩ := CodexTables.cancelInteractionAndRefreshSession_true done
          exact Or.inl (origin_of_updateWhere claimed.interactions (fun _ => ⟨rfl, rfl⟩) member)
      | false =>
          obtain ⟨rfl, _⟩ := CodexTables.cancelInteractionAndRefreshSession_false done
          exact Or.inl (kept member)
  | endSession sessionId status summary updatedAt =>
      simp only [perform] at member
      split at member
      next done =>
        obtain ⟨_, _, _, _, _, interactions⟩ := CodexTables.claimSessionTerminal_some done
        exact Or.inl (origin_of_updateWhere interactions (fun _ => ⟨rfl, rfl⟩) member)
      next => exact Or.inl (kept member)
  | failStartup sessionId summary updatedAt =>
      simp only [perform] at member
      split at member
      next done =>
        obtain ⟨_, _, _, _, _, interactions⟩ := CodexTables.claimSessionTerminal_some done
        exact Or.inl (origin_of_updateWhere interactions (fun _ => ⟨rfl, rfl⟩) member)
      next => exact Or.inl (kept member)
  | finishTurn sessionId turnId summary updatedAt =>
      simp only [perform] at member
      split at member
      next done =>
        obtain ⟨_, _, _, interactions⟩ := CodexTables.finishInteractiveTurn_some done
        exact Or.inl (origin_of_updateWhere interactions (fun _ => ⟨rfl, rfl⟩) member)
      next => exact Or.inl (kept member)
  | attachLarkMessageId interactionId messageId =>
      obtain ⟨old, oldMem, same⟩ := mem_updateWhere.mp member
      refine Or.inl ⟨old, oldMem, ?_⟩
      split at same <;> exact same ▸ ⟨rfl, rfl⟩

end Core

namespace CodexTables

/-- The session is in this turn. -/
def IsInTurn (tables : CodexTables) (sessionId turnId : String) : Prop :=
  ∃ session ∈ tables.sessions, session.id = sessionId ∧ session.turnId = some turnId

instance (tables : CodexTables) (sessionId turnId : String) :
    Decidable (tables.IsInTurn sessionId turnId) :=
  inferInstanceAs (Decidable (∃ _ ∈ _, _))

/-- A session of which every pending row was just ended waits for nothing. -/
theorem nothingWaits_of_closed {tables after : CodexTables} {sessionId : String}
    {status : InteractionStatus} {resolvedAt : Instant} (settled : status ≠ .pending)
    (rows : after.interactions = closed sessionId status resolvedAt tables.interactions) :
    after.NothingWaits sessionId := by
  intro row member pending owner
  rw [rows] at member
  obtain ⟨old, oldMem, rfl⟩ := mem_updateWhere.mp member
  split at pending
  next => exact settled (beq_iff_eq.mp pending)
  next unselected =>
    rw [if_neg unselected] at owner
    apply unselected
    rw [owner, pending, beq_self_eq_true, Bool.and_self]

/-- An update that leaves turns leaves a session in its turn. -/
theorem IsInTurn.of_updateWhere {tables after : CodexTables} {sessionId turnId : String}
    {selected : CodexSession → Bool} {change : CodexSession → CodexSession}
    (inTurn : tables.IsInTurn sessionId turnId)
    (rows : after.sessions = updateWhere selected change tables.sessions)
    (keeps : ∀ session, selected session → session.id = sessionId →
      (change session).id = session.id ∧ (change session).turnId = session.turnId) :
    after.IsInTurn sessionId turnId := by
  obtain ⟨session, member, rfl, turn⟩ := inTurn
  by_cases chosen : selected session
  · obtain ⟨sameId, sameTurn⟩ := keeps session chosen rfl
    refine ⟨change session, ?_, sameId, sameTurn.trans turn⟩
    rw [rows]
    exact mem_updateWhere_of_selected member chosen
  · refine ⟨session, ?_, rfl, turn⟩
    rw [rows]
    exact mem_updateWhere_of_unselected member (Bool.not_eq_true _ ▸ chosen)

end CodexTables

/-- The actions of a turn that ends, which start no turn of the session. -/
def CoreAction.Ends (sessionId : String) : CoreAction → Prop
  | .endSession _ _ _ _ | .failStartup _ _ _ | .finishTurn _ _ _ _ => True
  | .updateSession updated _ _ => updated ≠ sessionId
  | _ => False

/-- An action that ends a session records no decision. -/
theorem CoreAction.Ends.claims {action : CoreAction} {sessionId : String}
    (ends : action.Ends sessionId) : action.claims = none := by
  cases action <;> first | rfl | exact False.elim ends

/-- The session is in the turn, or nothing waits for it any more. -/
def Core.InTurn (core : Core) (sessionId turnId : String) : Prop :=
  core.tables.IsInTurn sessionId turnId ∨ core.tables.NothingWaits sessionId

namespace Core

variable {core : Core} {action : CoreAction} {sessionId turnId : String}

/-- What no longer waits does not wait after an action that admits nothing. -/
theorem nothingWaits_of_ends (ends : action.Ends sessionId)
    (quiet : core.tables.NothingWaits sessionId) :
    (core.perform action).tables.NothingWaits sessionId := by
  obtain ⟨_, settling⟩ := core.perform_settling action
  intro row member pending owner
  rcases origin_of_perform member with ⟨old, oldMem, sameId, sameOwner⟩ | ⟨_, _, _, rfl, _⟩
  · obtain ⟨next, nextMem, step⟩ := settling.step old oldMem
    obtain rfl := CodexTables.interaction_unique nextMem member (step.id_eq.trans sameId)
    refine quiet old oldMem ?_ (sameOwner.trans owner)
    by_contra done
    rw [(step.eq_of_not_isPending (Bool.not_eq_true _ |>.mp done)).2] at pending
    exact done pending
  · exact ends

/-- The session stays in its turn until nothing waits for it. -/
theorem InTurn.perform (inTurn : core.InTurn sessionId turnId) (ends : action.Ends sessionId) :
    (core.perform action).InTurn sessionId turnId := by
  rcases inTurn with inTurn | quiet
  · cases action with
    | updateSession updated update updatedAt =>
        refine Or.inl (inTurn.of_updateWhere rfl fun session chosen same => ?_)
        exact absurd ((beq_iff_eq.mp ((Bool.and_eq_true _ _).mp chosen).1).symm.trans same) ends
    | endSession ended status summary updatedAt =>
        simp only [perform]
        split
        next done =>
          obtain ⟨_, _, _, _, sessions, _⟩ := CodexTables.claimSessionTerminal_some done
          exact Or.inl (inTurn.of_updateWhere sessions fun _ _ _ => ⟨rfl, rfl⟩)
        next => exact Or.inl inTurn
    | failStartup ended summary updatedAt =>
        simp only [perform]
        split
        next done =>
          obtain ⟨_, _, _, _, sessions, _⟩ := CodexTables.claimSessionTerminal_some done
          exact Or.inl (inTurn.of_updateWhere sessions fun _ _ _ => ⟨rfl, rfl⟩)
        next => exact Or.inl inTurn
    | finishTurn finished turn summary updatedAt =>
        simp only [perform]
        split
        next done =>
          obtain ⟨_, _, sessions, interactions⟩ := CodexTables.finishInteractiveTurn_some done
          by_cases same : finished = sessionId
          · exact Or.inr (CodexTables.nothingWaits_of_closed (by decide) (same ▸ interactions))
          · refine Or.inl (inTurn.of_updateWhere sessions fun session chosen owner => ?_)
            simp only [Bool.and_eq_true, beq_iff_eq] at chosen
            exact absurd (chosen.1.1.symm.trans owner) same
        next => exact Or.inl inTurn
    | _ => exact False.elim ends
  · exact Or.inr (nothingWaits_of_ends ends quiet)

end Core

end LarkBot
