import Mathlib.Data.List.Induction
import LarkBot.Codex.Store.Settlement

/-! # Terminal sessions are final

A call rewrites a session row only while the session is active
(`CodexTables.SessionsKept`), and no interaction waits for a session that has
ended (`CodexTables.PendingActive`): the call that ends a session closes what it
still waited for, and a session that has ended takes no new interaction.
-/

namespace LarkBot

open Foundation

namespace CodexTables

variable {tables after : CodexTables}

/-- Every session row is kept, or was active and is rewritten under its id. -/
def SessionsKept (tables after : CodexTables) : Prop :=
  ∀ session ∈ tables.sessions, ∃ next ∈ after.sessions,
    next.id = session.id ∧ (next = session ∨ session.status.isActive)

/-- No interaction waits for the session. -/
def NothingWaits (tables : CodexTables) (sessionId : String) : Prop :=
  ∀ row ∈ tables.interactions, row.isPending → row.sessionId ≠ sessionId

instance (tables : CodexTables) (sessionId : String) :
    Decidable (tables.NothingWaits sessionId) :=
  inferInstanceAs (Decidable (∀ _ ∈ _, _))

/-- An interaction waits only for an active session. -/
def PendingActive (tables : CodexTables) : Prop :=
  ∀ row ∈ tables.interactions, row.isPending →
    ∀ session ∈ tables.sessions, session.id = row.sessionId → session.status.isActive

/-- An update that selects active sessions only keeps the rows of the others. -/
theorem SessionsKept.of_updateWhere {selected : CodexSession → Bool}
    {change : CodexSession → CodexSession}
    (rows : after.sessions = updateWhere selected change tables.sessions)
    (keepsId : ∀ session, (change session).id = session.id)
    (active : ∀ session ∈ tables.sessions, selected session → session.status.isActive) :
    tables.SessionsKept after := by
  intro session member
  by_cases chosen : selected session
  · exact ⟨change session, rows ▸ mem_updateWhere_of_selected member chosen, keepsId session,
      Or.inr (active session member chosen)⟩
  · exact ⟨session, rows ▸ mem_updateWhere_of_unselected member (Bool.not_eq_true _ ▸ chosen),
      rfl, Or.inl rfl⟩

/-- Inserting sessions keeps the rows that were there. -/
theorem SessionsKept.of_append {inserted : List CodexSession}
    (rows : after.sessions = tables.sessions ++ inserted) : tables.SessionsKept after :=
  fun session member => ⟨session, rows ▸ List.mem_append_left _ member, rfl, Or.inl rfl⟩

/-- A call that leaves the sessions keeps their rows. -/
theorem SessionsKept.of_eq (rows : after.sessions = tables.sessions) :
    tables.SessionsKept after :=
  .of_append (rows.trans (List.append_nil _).symm)

/-- The interactions that wait afterwards waited before for the same session,
which is still active if it was. -/
theorem PendingActive.mono (sound : tables.PendingActive)
    (waited : ∀ row ∈ after.interactions, row.isPending → ∃ old ∈ tables.interactions,
      old.isPending ∧ old.sessionId = row.sessionId)
    (active : ∀ session ∈ after.sessions, ∃ old ∈ tables.sessions, old.id = session.id ∧
      (old.status.isActive → session.status.isActive)) : after.PendingActive := by
  intro row member pending session sessionMem owner
  obtain ⟨old, oldMem, oldPending, sameOwner⟩ := waited row member pending
  obtain ⟨before, beforeMem, sameId, stays⟩ := active session sessionMem
  exact stays (sound old oldMem oldPending before beforeMem
    (sameId.trans (owner.trans sameOwner.symm)))

/-- An update that leaves no session inactive keeps every session active. -/
theorem activity_of_updateWhere {selected : CodexSession → Bool}
    {change : CodexSession → CodexSession}
    (rows : after.sessions = updateWhere selected change tables.sessions)
    (keepsId : ∀ session, (change session).id = session.id)
    (active : ∀ session, (change session).status.isActive) :
    ∀ session ∈ after.sessions, ∃ old ∈ tables.sessions, old.id = session.id ∧
      (old.status.isActive → session.status.isActive) := by
  intro session member
  obtain ⟨old, oldMem, rfl⟩ := mem_updateWhere.mp (rows ▸ member)
  refine ⟨old, oldMem, ?_⟩
  by_cases chosen : selected old
  · simp only [chosen, ↓reduceIte]
    exact ⟨(keepsId old).symm, fun _ => active old⟩
  · simp only [chosen, Bool.false_eq_true, ↓reduceIte, imp_self, and_self]

/-- An update that reopens nothing leaves the waiting rows it does not select. -/
theorem waiting_of_updateWhere {selected : PendingInteraction → Bool}
    {change : PendingInteraction → PendingInteraction}
    (rows : after.interactions = updateWhere selected change tables.interactions)
    (settles : Settles change) :
    ∀ row ∈ after.interactions, row.isPending → ∃ old ∈ tables.interactions,
      old.isPending ∧ old.sessionId = row.sessionId := by
  intro row member pending
  obtain ⟨old, oldMem, rfl⟩ := mem_updateWhere.mp (rows ▸ member)
  by_cases chosen : selected old
  · simp only [chosen, ↓reduceIte] at pending ⊢
    exact ⟨old, oldMem, settles.isPending old pending, (settles.sessionId old).symm⟩
  · simp only [chosen, Bool.false_eq_true, ↓reduceIte] at pending ⊢
    exact ⟨old, oldMem, pending, rfl⟩

/-- A recomputed status is one of an active session. -/
theorem nextStatus_isActive (kinds : List InteractionKind) : (nextStatus kinds).isActive := by
  unfold nextStatus
  split
  next => rfl
  next =>
    split
    next => rfl
    next => rfl

/-- A recomputed status is never the starting one. -/
theorem nextStatus_ne_starting (kinds : List InteractionKind) : nextStatus kinds ≠ .starting := by
  unfold nextStatus
  split_ifs <;> decide

/-- Claiming one interaction keeps the invariant and every session. -/
theorem Claimed.pendingActive {row : PendingInteraction}
    {change : PendingInteraction → PendingInteraction} {updatedAt : Instant}
    (claimed : tables.Claimed row change updatedAt after) (settles : Settles change)
    (sound : tables.PendingActive) : after.PendingActive :=
  sound.mono (waiting_of_updateWhere claimed.interactions settles)
    (activity_of_updateWhere claimed.sessions (fun _ => rfl) fun _ => nextStatus_isActive _)

/-- Claiming an interaction rewrites the row of an active session only. -/
theorem Claimed.sessionsKept {row : PendingInteraction}
    {change : PendingInteraction → PendingInteraction} {updatedAt : Instant}
    (claimed : tables.Claimed row change updatedAt after) : tables.SessionsKept after :=
  .of_updateWhere claimed.sessions (fun _ => rfl) fun _ _ chosen =>
    ((Bool.and_eq_true _ _).mp chosen).2

/-- A session that was inserted has no interaction yet. -/
theorem createSession_pendingActive {session : CodexSession}
    (created : tables.createSession session = .ok after) (sound : tables.PendingActive) :
    after.PendingActive := by
  obtain ⟨fresh, sessions, interactions⟩ := insertSession_ok created
  intro row member pending owner ownerMem same
  rw [interactions] at member
  rw [sessions] at ownerMem
  rcases List.mem_append.mp ownerMem with old | new
  · exact sound row member pending owner old same
  · obtain rfl := List.mem_singleton.mp new
    obtain ⟨existing, existingMem, sameId⟩ := tables.interactionSessions row member
    exact (fresh existing existingMem (sameId.trans same.symm)).elim

/-- An interaction that was inserted with its waiting session waits for an active one. -/
theorem createInteractionAndMarkWaiting_pendingActive {interaction : PendingInteraction}
    {waitingStatus : SessionStatus} {updatedAt : Instant} {created : Bool}
    (done : tables.createInteractionAndMarkWaiting interaction waitingStatus updatedAt =
      .ok (created, after)) (sound : tables.PendingActive) : after.PendingActive := by
  cases created with
  | false =>
      obtain rfl := createInteractionAndMarkWaiting_false done
      exact sound
  | true =>
      obtain ⟨⟨owner, ownerMem, ownerId, ownerActive⟩, _, waiting, sessions, _, interactions⟩ :=
        createInteractionAndMarkWaiting_true done
      intro row member pending session sessionMem same
      obtain ⟨before, beforeMem, sameId, stays⟩ := activity_of_updateWhere sessions
        (fun _ => rfl) (fun _ => waiting) session sessionMem
      rw [interactions] at member
      rcases List.mem_append.mp member with old | new
      · exact stays (sound row old pending before beforeMem (sameId.trans same))
      · obtain rfl := List.mem_singleton.mp new
        obtain rfl := session_unique beforeMem ownerMem
          (sameId.trans (same.trans ownerId.symm))
        exact stays ownerActive

/-- Ending the active row of a session together with what it waited for keeps the
invariant. -/
theorem closed_pendingActive {sessionId : String} {status : InteractionStatus}
    {resolvedAt : Instant} {selected : CodexSession → Bool}
    {change : CodexSession → CodexSession}
    (sessions : after.sessions = updateWhere selected change tables.sessions)
    (interactions : after.interactions = closed sessionId status resolvedAt tables.interactions)
    (settled : status ≠ .pending) (keepsId : ∀ session, (change session).id = session.id)
    (ofSession : ∀ session, selected session → session.id = sessionId)
    (sound : tables.PendingActive) : after.PendingActive := by
  intro row member pending session sessionMem same
  obtain ⟨old, oldMem, rfl⟩ := mem_updateWhere.mp (interactions ▸ member)
  obtain ⟨before, beforeMem, rfl⟩ := mem_updateWhere.mp (sessions ▸ sessionMem)
  by_cases ended : (old.sessionId == sessionId && old.isPending) = true
  · simp only [ended, ↓reduceIte] at pending
    exact absurd (beq_iff_eq.mp pending) settled
  · simp only [ended, Bool.false_eq_true, ↓reduceIte] at pending same
    have other : old.sessionId ≠ sessionId := by
      simpa only [Bool.and_eq_true, beq_iff_eq, pending, and_true] using ended
    have unselected : ¬ selected before = true := by
      intro chosen
      simp only [chosen, ↓reduceIte, keepsId] at same
      exact other (same.symm.trans (ofSession before chosen))
    simp only [unselected, Bool.false_eq_true, ↓reduceIte] at same ⊢
    exact sound old oldMem pending before beforeMem same

/-- After a restart no session is active and no interaction waits. -/
theorem reconcileStartup_inactive (tables : CodexTables) (now : Instant) :
    (∀ session ∈ (tables.reconcileStartup now).2.sessions, session.status.isActive = false) ∧
      ∀ row ∈ (tables.reconcileStartup now).2.interactions, row.isPending = false := by
  constructor
  · intro session member
    obtain ⟨old, _, rfl⟩ := mem_updateWhere.mp member
    by_cases active : old.status.isActive
    · simp only [active, ↓reduceIte]
      rfl
    · simp only [active, Bool.false_eq_true, ↓reduceIte]
  · intro row member
    obtain ⟨old, _, rfl⟩ := mem_updateWhere.mp member
    by_cases pending : old.isPending
    · simp only [pending, ↓reduceIte]
      rfl
    · simp only [pending, Bool.false_eq_true, ↓reduceIte]

end CodexTables

namespace SharedStore

open CodexTables

/-- Every call leaves interactions waiting for active sessions only, one case for each
call. -/
theorem execute_pendingActive {store : SharedStore} (sound : store.tables.PendingActive)
    {call : StoreCall} (marks : call.MarksWaiting) : (store.execute call).1.PendingActive := by
  cases call with
  | createSession session =>
      simp only [execute]
      split
      next created => exact createSession_pendingActive created sound
      next => exact sound
  | updateSessionIfStatus sessionId update updatedAt =>
      exact sound.mono (fun row member pending => ⟨row, member, pending, rfl⟩)
        (activity_of_updateWhere rfl (fun _ => rfl) fun _ => rfl)
  | createInteraction interaction => exact absurd marks id
  | createInteractionAndMarkWaiting interaction waitingStatus updatedAt =>
      simp only [execute]
      split
      next done => exact createInteractionAndMarkWaiting_pendingActive done sound
      next => exact sound
  | attachLarkMessageId interactionId messageId =>
      exact sound.mono
        (waiting_of_updateWhere rfl ⟨fun _ => rfl, fun _ => rfl, fun _ => rfl, fun _ => id⟩)
        fun session member => ⟨session, member, rfl, id⟩
  | selectKind connection interactionId => exact sound
  | resolveSelected connection decision actorId resolvedAt =>
      simp only [execute]
      split
      next => exact sound
      next =>
        split
        next done =>
          unfold resolveSelected at done
          split at done
          next => cases done
          next =>
            cases done
            exact sound.mono (waiting_of_updateWhere rfl (resolve_settles (by decide) _ _ _))
              fun session member => ⟨session, member, rfl, id⟩
        next => exact sound
  | resolveInteractionAndRefreshSession interactionId decision actorId updatedAt status =>
      simp only [execute]
      split
      next outcome done =>
        obtain ⟨won, tables⟩ := outcome
        cases won with
        | true =>
            obtain ⟨row, normalized, rfl, ended, _, claimed⟩ :=
              resolveInteractionAndRefreshSession_true done
            refine claimed.pendingActive (resolve_settles ?_ _ _ _) sound
            rcases ended with rfl | rfl <;> decide
        | false =>
            obtain ⟨rfl, _⟩ := resolveInteractionAndRefreshSession_false done
            exact sound
      next => exact sound
  | cancelInteractionAndRefreshSession interactionId updatedAt =>
      simp only [execute, reporting]
      cases done : store.tables.cancelInteractionAndRefreshSession interactionId updatedAt with
      | mk won tables =>
          cases won with
          | true =>
              obtain ⟨row, rfl, claimed⟩ := cancelInteractionAndRefreshSession_true done
              exact claimed.pendingActive (close_settles (by decide) _) sound
          | false =>
              obtain ⟨rfl, _⟩ := cancelInteractionAndRefreshSession_false done
              exact sound
  | claimSessionTerminal sessionId terminalStatus summary pendingStatus updatedAt =>
      simp only [execute]
      split
      next ids tables done =>
        cases ids with
        | some ids =>
            obtain ⟨_, ended, _, _, sessions, interactions⟩ := claimSessionTerminal_some done
            refine closed_pendingActive sessions interactions ?_ (fun _ => rfl) ?_ sound
            · rcases ended with rfl | rfl <;> decide
            · exact fun session chosen => beq_iff_eq.mp ((Bool.and_eq_true _ _).mp chosen).1
        | none =>
            obtain ⟨rfl, _⟩ := claimSessionTerminal_none done
            exact sound
      next => exact sound
  | finishInteractiveTurn sessionId turnId summary updatedAt =>
      simp only [execute]
      split
      next ids tables done =>
        cases ids with
        | some ids =>
            obtain ⟨_, _, sessions, interactions⟩ := finishInteractiveTurn_some done
            refine closed_pendingActive sessions interactions (by decide) (fun _ => rfl) ?_ sound
            intro session chosen
            simp only [Bool.and_eq_true, beq_iff_eq] at chosen
            exact chosen.1.1
        | none =>
            obtain ⟨rfl, _⟩ := finishInteractiveTurn_none done
            exact sound
      next => exact sound
  | expireInteraction interactionId resolvedAt =>
      exact sound.mono (waiting_of_updateWhere rfl (close_settles (by decide) _))
        fun session member => ⟨session, member, rfl, id⟩
  | cancelPendingInteractions sessionId status resolvedAt =>
      simp only [execute]
      split
      next ids tables done =>
        unfold cancelPendingInteractions at done
        split at done
        next ended =>
          cases done
          refine sound.mono (waiting_of_updateWhere rfl (close_settles ?_ _))
            fun session member => ⟨session, member, rfl, id⟩
          rcases ended with rfl | rfl <;> decide
        next => cases done
      next => exact sound
  | reconcileStartup now =>
      intro row member pending
      rw [(reconcileStartup_inactive _ now).2 row member] at pending
      cases pending

/-- A call rewrites a session row only while the session is active. -/
theorem execute_sessionsKept (store : SharedStore) (call : StoreCall) :
    store.tables.SessionsKept (store.execute call).1 := by
  cases call with
  | createSession session =>
      simp only [execute]
      split
      next created => exact .of_append (insertSession_ok created).2.1
      next => exact .of_eq rfl
  | updateSessionIfStatus sessionId update updatedAt =>
      refine .of_updateWhere rfl (fun _ => rfl) fun session _ chosen => ?_
      exact update.isActive_of_expected ((Bool.and_eq_true _ _).mp chosen).2
  | createInteraction interaction =>
      simp only [execute]
      split
      next created => exact .of_eq (createInteraction_ok created).1
      next => exact .of_eq rfl
  | createInteractionAndMarkWaiting interaction waitingStatus updatedAt =>
      simp only [execute]
      split
      next created tables done =>
        cases created with
        | true =>
            obtain ⟨_, _, _, sessions, _⟩ := createInteractionAndMarkWaiting_true done
            exact .of_updateWhere sessions (fun _ => rfl) fun _ _ chosen =>
              ((Bool.and_eq_true _ _).mp chosen).2
        | false =>
            obtain rfl := createInteractionAndMarkWaiting_false done
            exact .of_eq rfl
      next => exact .of_eq rfl
  | resolveSelected connection decision actorId resolvedAt =>
      simp only [execute]
      split
      next => exact .of_eq rfl
      next =>
        split
        next done =>
          unfold resolveSelected at done
          split at done
          next => cases done
          next =>
            cases done
            exact .of_eq rfl
        next => exact .of_eq rfl
  | resolveInteractionAndRefreshSession interactionId decision actorId updatedAt status =>
      simp only [execute]
      split
      next outcome done =>
        obtain ⟨won, tables⟩ := outcome
        cases won with
        | true =>
            obtain ⟨_, _, _, _, _, claimed⟩ := resolveInteractionAndRefreshSession_true done
            exact claimed.sessionsKept
        | false =>
            obtain ⟨rfl, _⟩ := resolveInteractionAndRefreshSession_false done
            exact .of_eq rfl
      next => exact .of_eq rfl
  | cancelInteractionAndRefreshSession interactionId updatedAt =>
      simp only [execute, reporting]
      cases done : store.tables.cancelInteractionAndRefreshSession interactionId updatedAt with
      | mk won tables =>
          cases won with
          | true =>
              obtain ⟨_, _, claimed⟩ := cancelInteractionAndRefreshSession_true done
              exact claimed.sessionsKept
          | false =>
              obtain ⟨rfl, _⟩ := cancelInteractionAndRefreshSession_false done
              exact .of_eq rfl
  | claimSessionTerminal sessionId terminalStatus summary pendingStatus updatedAt =>
      simp only [execute]
      split
      next ids tables done =>
        cases ids with
        | some ids =>
            obtain ⟨_, _, _, _, sessions, _⟩ := claimSessionTerminal_some done
            exact .of_updateWhere sessions (fun _ => rfl) fun _ _ chosen =>
              ((Bool.and_eq_true _ _).mp chosen).2
        | none =>
            obtain ⟨rfl, _⟩ := claimSessionTerminal_none done
            exact .of_eq rfl
      next => exact .of_eq rfl
  | finishInteractiveTurn sessionId turnId summary updatedAt =>
      simp only [execute]
      split
      next ids tables done =>
        cases ids with
        | some ids =>
            obtain ⟨_, _, sessions, _⟩ := finishInteractiveTurn_some done
            exact .of_updateWhere sessions (fun _ => rfl) fun _ _ chosen =>
              ((Bool.and_eq_true _ _).mp chosen).2
        | none =>
            obtain ⟨rfl, _⟩ := finishInteractiveTurn_none done
            exact .of_eq rfl
      next => exact .of_eq rfl
  | cancelPendingInteractions sessionId status resolvedAt =>
      simp only [execute]
      split
      next ids tables done =>
        unfold cancelPendingInteractions at done
        split at done
        next =>
          cases done
          exact .of_eq rfl
        next => cases done
      next => exact .of_eq rfl
  | reconcileStartup now =>
      exact .of_updateWhere rfl (fun _ => rfl) fun _ _ chosen => chosen
  | attachLarkMessageId | selectKind | expireInteraction => exact .of_eq rfl

/-- Calls that mark the sessions of their interactions leave none waiting for an ended one. -/
theorem after_pendingActive {calls : List StoreCall}
    (marks : ∀ call ∈ calls, call.MarksWaiting) :
    (initial.after calls).tables.PendingActive := by
  induction calls using List.reverseRecOn with
  | nil =>
      simp only [after_nil, PendingActive, initial, empty, List.not_mem_nil, false_implies,
        implies_true]
  | append_singleton calls call ih =>
      rw [after_concat]
      have sound := ih fun earlier member => marks earlier (List.mem_append_left _ member)
      exact execute_pendingActive sound (marks call List.mem_concat_self)

/-- The status of a session after a sequence of calls. -/
def sessionStatus (calls : List StoreCall) (sessionId : String) : Option SessionStatus :=
  ((initial.after calls).tables.getSession sessionId).map CodexSession.status

/-- The session is stored and has ended. -/
def Ended (calls : List StoreCall) (sessionId : String) : Prop :=
  ∃ status, sessionStatus calls sessionId = some status ∧ status.isTerminal

/-- A row that has ended is kept by every sequence of calls. -/
theorem ended_row_kept (store : SharedStore) (calls : List StoreCall) {session : CodexSession}
    (member : session ∈ store.tables.sessions) (ended : session.status.isTerminal) :
    session ∈ (store.after calls).tables.sessions := by
  induction calls generalizing store with
  | nil => exact member
  | cons call calls ih =>
      obtain ⟨next, nextMem, _, kept | active⟩ := execute_sessionsKept store call session member
      · exact ih (store.perform call) (kept ▸ nextMem)
      · rw [SessionStatus.isTerminal_eq_not_isActive, active] at ended
        cases ended

/-- A session has ended exactly when its row says so after the calls. -/
theorem ended_iff {calls : List StoreCall} {sessionId : String} :
    Ended calls sessionId ↔ ∃ session ∈ (initial.after calls).tables.sessions,
      session.id = sessionId ∧ session.status.isTerminal := by
  unfold Ended sessionStatus
  constructor
  · rintro ⟨status, found, terminal⟩
    obtain ⟨session, stored, rfl⟩ := Option.map_eq_some_iff.mp found
    obtain ⟨member, same⟩ := getSession_eq_some.mp stored
    exact ⟨session, member, same, terminal⟩
  · rintro ⟨session, member, same, terminal⟩
    exact ⟨session.status, by rw [getSession_eq_some.mpr ⟨member, same⟩, Option.map_some],
      terminal⟩

/-- A session that has ended stays so after more calls. -/
theorem Ended.append {calls : List StoreCall} {sessionId : String} (ended : Ended calls sessionId)
    (more : List StoreCall) : Ended (calls ++ more) sessionId := by
  obtain ⟨session, member, same, terminal⟩ := ended_iff.mp ended
  rw [ended_iff, after_append]
  exact ⟨session, ended_row_kept _ more member terminal, same, terminal⟩

/-- Exactly one call of a sequence ends a session that has ended after it. -/
theorem ended_by_exactly_one {calls : List StoreCall} {sessionId : String}
    (ended : Ended calls sessionId) :
    ∃! position, position < calls.length ∧ ¬ Ended (calls.take position) sessionId ∧
      Ended (calls.take (position + 1)) sessionId := by
  have later : ∀ {earlier wanted : Nat}, earlier ≤ wanted →
      Ended (calls.take earlier) sessionId → Ended (calls.take wanted) sessionId := by
    intro earlier wanted before endedEarlier
    obtain ⟨more, split⟩ := List.take_prefix_take_left before
    rw [← split]
    exact endedEarlier.append more
  have whole : Ended (calls.take calls.length) sessionId := by rwa [List.take_length]
  have notInitially : ¬ Ended (calls.take 0) sessionId := by
    rw [ended_iff, List.take_zero, after_nil]
    rintro ⟨_, member, _⟩
    cases member
  have exists_first : ∃ first, Ended (calls.take first) sessionId := ⟨_, whole⟩
  classical
  -- the first prefix that ends the session is its successor prefix
  obtain ⟨position, first⟩ : ∃ position, Nat.find exists_first = position + 1 := by
    refine Nat.exists_eq_succ_of_ne_zero fun zero => notInitially ?_
    exact zero ▸ Nat.find_spec exists_first
  refine ⟨position, ⟨?_, ?_, first ▸ Nat.find_spec exists_first⟩, ?_⟩
  · have bound : Nat.find exists_first ≤ calls.length := Nat.find_min' exists_first whole
    omega
  · exact Nat.find_min exists_first (by omega)
  · rintro other ⟨_, before, after⟩
    have lower : position + 1 ≤ other + 1 := first ▸ Nat.find_min' exists_first after
    by_contra different
    exact before (later (by omega) (first ▸ Nat.find_spec exists_first))

/-- Sessions end once and for good, and hold nothing pending from then on. -/
structure TerminalFinal (calls : List StoreCall) : Prop where
  /-- The row of a session that has ended never changes again. -/
  kept : ∀ session ∈ (initial.after calls).tables.sessions, session.status.isTerminal →
    ∀ more, session ∈ (initial.after (calls ++ more)).tables.sessions
  /-- Exactly one call ended it. -/
  once : ∀ sessionId, Ended calls sessionId →
    ∃! position, position < calls.length ∧ ¬ Ended (calls.take position) sessionId ∧
      Ended (calls.take (position + 1)) sessionId
  /-- No interaction waits for it, if the calls are those of the orchestrator and the daemon. -/
  settled : (∀ call ∈ calls, call.MarksWaiting) → ∀ session ∈ (initial.after calls).tables.sessions,
    session.status.isTerminal → ∀ row ∈ (initial.after calls).tables.interactions,
      row.sessionId = session.id → row.isPending = false
  /-- A restart leaves no active session and no waiting interaction. -/
  restarted : ∀ now, (∀ session ∈
    (initial.after (calls ++ [.reconcileStartup now])).tables.sessions,
      session.status.isActive = false) ∧
    ∀ row ∈ (initial.after (calls ++ [.reconcileStartup now])).tables.interactions,
      row.isPending = false

/-- A session that has ended is changed by no sequence of calls, and exactly one call ended it.
Nothing waits for it when every interaction was created with its waiting session, and a restart
leaves nothing active and nothing waiting. -/
theorem terminal_sessions_final (calls : List StoreCall) : TerminalFinal calls := by
  refine ⟨?_, fun _ => ended_by_exactly_one, ?_, ?_⟩
  · intro session member terminal more
    rw [after_append]
    exact ended_row_kept _ more member terminal
  · intro marks session member terminal row rowMem owner
    by_contra pending
    have active := after_pendingActive marks row rowMem (Bool.not_eq_false _ ▸ pending) session
      member owner.symm
    rw [SessionStatus.isTerminal_eq_not_isActive, active] at terminal
    cases terminal
  · intro now
    rw [after_concat]
    exact reconcileStartup_inactive _ now

end SharedStore

end LarkBot
