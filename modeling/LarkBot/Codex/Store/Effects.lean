import LarkBot.Codex.Store.Operations

/-! # What each store operation did

One lemma for each operation says what its success means for the two tables:
which row it found, and how both tables were rewritten. Failures leave the
tables as they were. The proofs of later modules cite these lemmas and do not
unfold the operations.
-/

namespace LarkBot

open Foundation

namespace CodexTables

variable {tables after : CodexTables}

/-- Looking a session up finds the stored session with that id. -/
theorem getSession_eq_some {sessionId : String} {session : CodexSession} :
    tables.getSession sessionId = some session ↔
      session ∈ tables.sessions ∧ session.id = sessionId := by
  unfold getSession
  constructor
  · intro found
    exact ⟨List.mem_of_find?_eq_some found, beq_iff_eq.mp (List.find?_some found :)⟩
  · rintro ⟨member, rfl⟩
    cases found : tables.sessions.find? fun other => other.id == session.id with
    | none =>
        have absent := List.find?_eq_none.mp found session member
        simp only [beq_self_eq_true, not_true_eq_false] at absent
    | some other =>
        have same : other.id = session.id := beq_iff_eq.mp (List.find?_some found :)
        rw [session_unique (List.mem_of_find?_eq_some found) member same]

/-- Looking an interaction up finds the stored interaction with that id. -/
theorem getInteraction_eq_some {interactionId : String} {interaction : PendingInteraction} :
    tables.getInteraction interactionId = some interaction ↔
      interaction ∈ tables.interactions ∧ interaction.id = interactionId := by
  unfold getInteraction
  constructor
  · intro found
    exact ⟨List.mem_of_find?_eq_some found, beq_iff_eq.mp (List.find?_some found :)⟩
  · rintro ⟨member, rfl⟩
    cases found : tables.interactions.find? fun other => other.id == interaction.id with
    | none =>
        have absent := List.find?_eq_none.mp found interaction member
        simp only [beq_self_eq_true, not_true_eq_false] at absent
    | some other =>
        have same : other.id = interaction.id := beq_iff_eq.mp (List.find?_some found :)
        rw [interaction_unique (List.mem_of_find?_eq_some found) member same]

/-- The pending interactions of a session are the pending ones among its rows. -/
theorem mem_pendingOf {sessionId : String} {interaction : PendingInteraction} :
    interaction ∈ tables.pendingOf sessionId ↔ interaction ∈ tables.interactions ∧
      interaction.sessionId = sessionId ∧ interaction.isPending := by
  simp only [pendingOf, List.mem_filter, Bool.and_eq_true, beq_iff_eq]

/-- The pending ids of a session are those of its pending interactions. -/
theorem mem_pendingIds {sessionId interactionId : String} :
    interactionId ∈ tables.pendingIds sessionId ↔
      ∃ interaction ∈ tables.pendingOf sessionId, interaction.id = interactionId := by
  simp only [pendingIds, List.mem_insertionSort, List.mem_map]

/-- An update by session id finds its row exactly when the row meets the other conditions. -/
theorem rowcount_session {sessionId : String} {condition : CodexSession → Bool} :
    rowcount (fun session => session.id == sessionId && condition session) tables.sessions = 1 ↔
      ∃ session ∈ tables.sessions, session.id = sessionId ∧ condition session := by
  rw [rowcount_eq_one_iff tables.sessionIds sessionId _ fun session selected =>
    ⟨rfl, beq_iff_eq.mp (Bool.and_eq_true _ _ ▸ selected).1⟩]
  simp only [Bool.and_eq_true, beq_iff_eq]

/-- An update by interaction id finds its row exactly when the row meets the other conditions. -/
theorem rowcount_interaction {interactionId : String} {condition : PendingInteraction → Bool} :
    rowcount (fun interaction => interaction.id == interactionId && condition interaction)
        tables.interactions = 1 ↔
      ∃ interaction ∈ tables.interactions,
        interaction.id = interactionId ∧ condition interaction := by
  rw [rowcount_eq_one_iff tables.interactionIds interactionId _ fun interaction selected =>
    ⟨rfl, beq_iff_eq.mp (Bool.and_eq_true _ _ ▸ selected).1⟩]
  simp only [Bool.and_eq_true, beq_iff_eq]

/-- An update under a condition on the status reports success exactly when its session
has one of the statuses. -/
theorem updateSessionIfStatus_fst {sessionId : String} {expected : List SessionStatus}
    {status : SessionStatus} {threadId turnId : Option (Option String)} {updatedAt : Instant} :
    (tables.updateSessionIfStatus sessionId expected status threadId turnId updatedAt).1 = true ↔
      ∃ session ∈ tables.sessions, session.id = sessionId ∧ expected.contains session.status := by
  unfold updateSessionIfStatus
  rw [beq_iff_eq, rowcount_session]

/-- An update that finds no row in an expected status leaves the tables. -/
theorem updateSessionIfStatus_of_false {sessionId : String} {expected : List SessionStatus}
    {status : SessionStatus} {threadId turnId : Option (Option String)} {updatedAt : Instant}
    (refused : (tables.updateSessionIfStatus sessionId expected status threadId turnId
      updatedAt).1 = false) :
    (tables.updateSessionIfStatus sessionId expected status threadId turnId updatedAt).2 =
      tables := by
  refine eq_of_rows (updateWhere_eq_self fun session member => ?_) rfl
  by_contra selected
  simp only [Bool.not_eq_false, Bool.and_eq_true, beq_iff_eq] at selected
  rw [updateSessionIfStatus_fst.mpr ⟨session, member, selected⟩] at refused
  cases refused

/-- The pending row that an update of one interaction rewrites. -/
def IsPendingRow (tables : CodexTables) (interactionId : String) (row : PendingInteraction) :
    Prop :=
  row ∈ tables.interactions ∧ row.id = interactionId ∧ row.isPending

/-- An update of one interaction reports success exactly when its row is pending. -/
theorem settleInteraction_fst {interactionId : String}
    {change : PendingInteraction → PendingInteraction} {settles : Settles change} :
    (tables.settleInteraction interactionId change settles).1 = true ↔
      ∃ row, tables.IsPendingRow interactionId row := by
  unfold settleInteraction IsPendingRow
  rw [beq_iff_eq, rowcount_interaction]

/-- An update of one interaction that rewrites nothing found no pending row. -/
theorem settleInteraction_false {interactionId : String}
    {change : PendingInteraction → PendingInteraction} {settles : Settles change}
    {unchanged : CodexTables}
    (missed : tables.settleInteraction interactionId change settles = (false, unchanged))
    (row : PendingInteraction) : ¬ tables.IsPendingRow interactionId row := by
  intro pending
  have claimed : (tables.settleInteraction interactionId change settles).1 = true :=
    settleInteraction_fst.mpr ⟨row, pending⟩
  rw [missed] at claimed
  cases claimed

/-- The rows of a session after its status was recomputed from `remaining`. -/
def refreshed (remaining : CodexTables) (sessionId : String) (updatedAt : Instant)
    (sessions : List CodexSession) : List CodexSession :=
  updateWhere (fun session => session.id == sessionId && session.status.isActive)
    (fun session => { session with
      status := nextStatus ((remaining.pendingOf sessionId).map PendingInteraction.kind),
      updatedAt }) sessions

/-- One interaction was claimed: the pending row with this id was rewritten, and
the status of its session recomputed from what is still pending. -/
structure Claimed (tables : CodexTables) (row : PendingInteraction)
    (change : PendingInteraction → PendingInteraction) (updatedAt : Instant)
    (after : CodexTables) : Prop where
  isPendingRow : tables.IsPendingRow row.id row
  interactions : after.interactions = updateWhere
    (fun interaction => interaction.id == row.id && interaction.isPending) change
    tables.interactions
  sessions : after.sessions = refreshed after row.sessionId updatedAt tables.sessions

/-- Settling a row and refreshing its session claims the row. -/
private theorem claimed_of_settled {row : PendingInteraction}
    {change : PendingInteraction → PendingInteraction} {settles : Settles change}
    {settled : CodexTables} (member : row ∈ tables.interactions)
    (done : tables.settleInteraction row.id change settles = (true, settled))
    (updatedAt : Instant) :
    tables.Claimed row change updatedAt (settled.refreshSession row.sessionId updatedAt) := by
  obtain ⟨found, foundMem, sameId, pending⟩ :=
    settleInteraction_fst.mp (congrArg Prod.fst done)
  obtain rfl := interaction_unique foundMem member sameId
  have tablesEq : (tables.settleInteraction found.id change settles).2 = settled :=
    congrArg Prod.snd done
  subst tablesEq
  exact ⟨⟨member, rfl, pending⟩, rfl, rfl⟩

/-- A resolution that won claimed its pending row with a decision that the kind allows. -/
theorem resolveInteractionAndRefreshSession_true {interactionId decision actorId : String}
    {updatedAt : Instant} {status : InteractionStatus}
    (done : tables.resolveInteractionAndRefreshSession interactionId decision actorId updatedAt
      status = .ok (true, after)) :
    ∃ row normalized, row.id = interactionId ∧ (status = .resolved ∨ status = .expired) ∧
      normalizeDecision row.kind decision = .ok normalized ∧
      tables.Claimed row (resolve status normalized actorId updatedAt) updatedAt after := by
  unfold resolveInteractionAndRefreshSession at done
  split at done
  next settled =>
    split at done
    next => cases done
    next row found =>
      obtain ⟨member, rfl⟩ := getInteraction_eq_some.mp found
      split at done
      next => cases done
      next normalized allowed =>
        split at done
        next => cases done
        next claimed settledRow =>
          cases done
          exact ⟨row, normalized, rfl, settled, allowed,
            claimed_of_settled member settledRow updatedAt⟩
  next => cases done

/-- A resolution that does not win leaves the tables. -/
theorem resolveInteractionAndRefreshSession_false {interactionId decision actorId : String}
    {updatedAt : Instant} {status : InteractionStatus}
    (done : tables.resolveInteractionAndRefreshSession interactionId decision actorId updatedAt
      status = .ok (false, after)) :
    after = tables ∧ ∀ row, ¬ tables.IsPendingRow interactionId row := by
  unfold resolveInteractionAndRefreshSession at done
  split at done
  next settled =>
    split at done
    next absent =>
      cases done
      refine ⟨rfl, ?_⟩
      rintro row ⟨member, same, _⟩
      rw [getInteraction_eq_some.mpr ⟨member, same⟩] at absent
      cases absent
    next row found =>
      split at done
      next => cases done
      next normalized _ =>
        split at done
        next unsettled =>
          cases done
          exact ⟨rfl, settleInteraction_false unsettled⟩
        next => cases done
  next => cases done

/-- A pending row is claimed by every decision that is allowed for its kind. -/
theorem resolveInteractionAndRefreshSession_of_pending {row : PendingInteraction}
    {decision actorId : String} {updatedAt : Instant} {status : InteractionStatus}
    {normalized : InteractionDecision} (pending : tables.IsPendingRow row.id row)
    (settled : status = .resolved ∨ status = .expired)
    (allowed : normalizeDecision row.kind decision = .ok normalized) :
    ∃ after, tables.resolveInteractionAndRefreshSession row.id decision actorId updatedAt status =
      .ok (true, after) := by
  unfold resolveInteractionAndRefreshSession
  rw [dif_pos settled, getInteraction_eq_some.mpr ⟨pending.1, rfl⟩]
  simp only [allowed]
  have claimed : (tables.settleInteraction row.id (resolve status normalized actorId updatedAt)
      (resolve_settles (by rcases settled with rfl | rfl <;> decide) _ _ _)).1 = true :=
    settleInteraction_fst.mpr ⟨row, pending⟩
  split
  next unclaimed =>
    rw [unclaimed] at claimed
    cases claimed
  next => exact ⟨_, rfl⟩

/-- A cancellation that won claimed its pending row. -/
theorem cancelInteractionAndRefreshSession_true {interactionId : String} {updatedAt : Instant}
    (done : tables.cancelInteractionAndRefreshSession interactionId updatedAt = (true, after)) :
    ∃ row, row.id = interactionId ∧
      tables.Claimed row (close .cancelled updatedAt) updatedAt after := by
  unfold cancelInteractionAndRefreshSession at done
  split at done
  next => cases done
  next row found =>
    obtain ⟨member, rfl⟩ := getInteraction_eq_some.mp found
    split at done
    next => cases done
    next cancelled settledRow =>
      cases done
      exact ⟨row, rfl, claimed_of_settled member settledRow updatedAt⟩

/-- A cancellation that lost found no pending row, and changed nothing. -/
theorem cancelInteractionAndRefreshSession_false {interactionId : String} {updatedAt : Instant}
    (done : tables.cancelInteractionAndRefreshSession interactionId updatedAt = (false, after)) :
    after = tables ∧ ∀ row, ¬ tables.IsPendingRow interactionId row := by
  unfold cancelInteractionAndRefreshSession at done
  split at done
  next absent =>
    cases done
    refine ⟨rfl, ?_⟩
    rintro row ⟨member, same, _⟩
    rw [getInteraction_eq_some.mpr ⟨member, same⟩] at absent
    cases absent
  next row found =>
    split at done
    next unsettled =>
      cases done
      exact ⟨rfl, settleInteraction_false unsettled⟩
    next => cases done

/-- The pending rows of a session after all of them were ended. -/
def closed (sessionId : String) (status : InteractionStatus) (resolvedAt : Instant)
    (interactions : List PendingInteraction) : List PendingInteraction :=
  updateWhere (fun interaction => interaction.sessionId == sessionId && interaction.isPending)
    (close status resolvedAt) interactions

/-- A claim that won ended an active session and closed what was pending in it. -/
theorem claimSessionTerminal_some {sessionId summary : String} {terminalStatus : SessionStatus}
    {pendingStatus : InteractionStatus} {updatedAt : Instant} {ids : List String}
    (done : tables.claimSessionTerminal sessionId terminalStatus summary pendingStatus updatedAt =
      .ok (some ids, after)) :
    terminalStatus.isTerminal ∧ (pendingStatus = .expired ∨ pendingStatus = .cancelled) ∧
      (∃ session ∈ tables.sessions, session.id = sessionId ∧ session.status.isActive) ∧
      ids = tables.pendingIds sessionId ∧
      after.sessions = updateWhere
        (fun session => session.id == sessionId && session.status.isActive)
        (fun session => { session with
          status := terminalStatus, summary := safeSummary summary, updatedAt }) tables.sessions ∧
      after.interactions = closed sessionId pendingStatus updatedAt tables.interactions := by
  unfold claimSessionTerminal at done
  split at done
  next terminal =>
    split at done
    next settled =>
      simp only at done
      split at done
      next => cases done
      next found =>
        cases done
        exact ⟨terminal, settled, rowcount_session.mp (not_not.mp found), rfl, rfl, rfl⟩
    next => cases done
  next => cases done

/-- A claim to a terminal status does not raise. -/
theorem claimSessionTerminal_ne_error {sessionId summary : String} {terminalStatus : SessionStatus}
    {pendingStatus : InteractionStatus} {updatedAt : Instant} {error : PyError}
    (terminal : terminalStatus.isTerminal)
    (settled : pendingStatus = .expired ∨ pendingStatus = .cancelled) :
    tables.claimSessionTerminal sessionId terminalStatus summary pendingStatus updatedAt ≠
      .error error := by
  intro raised
  unfold claimSessionTerminal at raised
  rw [if_pos terminal, dif_pos settled] at raised
  dsimp only at raised
  split at raised <;> cases raised

/-- A claim on an inactive session leaves the tables. -/
theorem claimSessionTerminal_none {sessionId summary : String} {terminalStatus : SessionStatus}
    {pendingStatus : InteractionStatus} {updatedAt : Instant}
    (done : tables.claimSessionTerminal sessionId terminalStatus summary pendingStatus updatedAt =
      .ok (none, after)) :
    after = tables ∧ ∀ session ∈ tables.sessions, session.id = sessionId →
      session.status.isActive = false := by
  unfold claimSessionTerminal at done
  split at done
  next =>
    split at done
    next =>
      simp only at done
      split at done
      next unfound =>
        cases done
        refine ⟨rfl, fun session member same => ?_⟩
        by_contra active
        exact unfound (rowcount_session.mpr ⟨session, member, same, Bool.not_eq_false _ ▸ active⟩)
      next => cases done
    next => cases done
  next => cases done

/-- An active session is claimed. -/
theorem claimSessionTerminal_of_active {session : CodexSession} {summary : String}
    {terminalStatus : SessionStatus} {pendingStatus : InteractionStatus} {updatedAt : Instant}
    (member : session ∈ tables.sessions) (active : session.status.isActive)
    (terminal : terminalStatus.isTerminal)
    (settled : pendingStatus = .expired ∨ pendingStatus = .cancelled) :
    ∃ ids after, tables.claimSessionTerminal session.id terminalStatus summary pendingStatus
      updatedAt = .ok (some ids, after) := by
  rcases done : tables.claimSessionTerminal session.id terminalStatus summary pendingStatus
    updatedAt with error | ⟨_ | ids, after⟩
  · exact absurd done (claimSessionTerminal_ne_error terminal settled)
  · have inactive := (claimSessionTerminal_none done).2 session member rfl
    rw [active] at inactive
    cases inactive
  · exact ⟨ids, after, rfl⟩

/-- A turn that was finished was the current one of an active session, and what was
pending in it is closed. -/
theorem finishInteractiveTurn_some {sessionId turnId summary : String} {updatedAt : Instant}
    {ids : List String}
    (done : tables.finishInteractiveTurn sessionId turnId summary updatedAt =
      .ok (some ids, after)) :
    (∃ session ∈ tables.sessions, session.id = sessionId ∧ session.turnId = some turnId ∧
        session.status.isActive) ∧
      ids = tables.pendingIds sessionId ∧
      after.sessions = updateWhere
        (fun session => session.id == sessionId && session.turnId == some turnId &&
          session.status.isActive)
        (fun session => { session with
          status := .running, turnId := none, summary := safeSummary summary, updatedAt })
        tables.sessions ∧
      after.interactions = closed sessionId .cancelled updatedAt tables.interactions := by
  unfold finishInteractiveTurn at done
  split at done
  next => cases done
  next =>
    simp only at done
    split at done
    next => cases done
    next found =>
      cases done
      simp only [Bool.and_assoc, not_not] at found
      obtain ⟨session, member, same, condition⟩ := rowcount_session.mp found
      rw [Bool.and_eq_true, beq_iff_eq] at condition
      exact ⟨⟨session, member, same, condition⟩, rfl, rfl, rfl⟩

/-- A session whose turn was finished is in no turn. -/
theorem finishInteractiveTurn_cleared {sessionId turnId summary : String} {updatedAt : Instant}
    {ids : List String}
    (done : tables.finishInteractiveTurn sessionId turnId summary updatedAt =
      .ok (some ids, after)) :
    ∃ session ∈ after.sessions, session.id = sessionId ∧ session.turnId = none := by
  obtain ⟨⟨session, member, same, turn, active⟩, _, sessions, _⟩ := finishInteractiveTurn_some done
  have chosen : (session.id == sessionId && session.turnId == some turnId &&
      session.status.isActive) = true := by
    simp only [same, turn, beq_self_eq_true, active, Bool.and_self]
  refine ⟨{ session with
    status := .running, turnId := none, summary := safeSummary summary, updatedAt }, ?_, same, rfl⟩
  rw [sessions]
  exact mem_updateWhere_of_selected member chosen

/-- Finishing a turn that is not current leaves the tables. -/
theorem finishInteractiveTurn_none {sessionId turnId summary : String} {updatedAt : Instant}
    (done : tables.finishInteractiveTurn sessionId turnId summary updatedAt =
      .ok (none, after)) :
    after = tables ∧ ∀ session ∈ tables.sessions, session.id = sessionId →
      session.turnId = some turnId → session.status.isActive = false := by
  unfold finishInteractiveTurn at done
  split at done
  next => cases done
  next =>
    simp only at done
    split at done
    next unfound =>
      cases done
      refine ⟨rfl, fun session member same turn => ?_⟩
      by_contra active
      simp only [Bool.and_assoc] at unfound
      refine unfound (rowcount_session.mpr ⟨session, member, same, ?_⟩)
      rw [Bool.and_eq_true, beq_iff_eq]
      exact ⟨turn, Bool.not_eq_false _ ▸ active⟩
    next => cases done

/-- Finishing a named turn does not raise. -/
theorem finishInteractiveTurn_ne_error {sessionId turnId summary : String} {updatedAt : Instant}
    {error : PyError} (text : turnId ≠ "") :
    tables.finishInteractiveTurn sessionId turnId summary updatedAt ≠ .error error := by
  intro raised
  unfold finishInteractiveTurn at raised
  rw [if_neg (by simpa only [beq_iff_eq] using text)] at raised
  dsimp only at raised
  split at raised <;> cases raised

/-- The current turn of an active session is finished. -/
theorem finishInteractiveTurn_of_current {session : CodexSession} {turnId summary : String}
    {updatedAt : Instant} (member : session ∈ tables.sessions) (active : session.status.isActive)
    (current : session.turnId = some turnId) (text : turnId ≠ "") :
    ∃ ids after, tables.finishInteractiveTurn session.id turnId summary updatedAt =
      .ok (some ids, after) := by
  rcases done : tables.finishInteractiveTurn session.id turnId summary updatedAt with
    error | ⟨_ | ids, after⟩
  · exact absurd done (finishInteractiveTurn_ne_error text)
  · have inactive := (finishInteractiveTurn_none done).2 session member rfl current
    rw [active] at inactive
    cases inactive
  · exact ⟨ids, after, rfl⟩

/-- A valid interaction that waits carries no resolution metadata. -/
theorem validateInteraction_ok {interaction : PendingInteraction}
    (valid : validateInteraction interaction = .ok ()) (pending : interaction.isPending) :
    interaction.resolvedAt = none ∧ interaction.actorId = none ∧ interaction.decision = none := by
  unfold validateInteraction at valid
  split at valid
  next => cases valid
  next unresolved =>
    simp only [pending, true_and, not_or, Bool.not_eq_true, Option.isSome_eq_false_iff,
      Option.isNone_iff_eq_none] at unresolved
    exact unresolved

/-- An interaction that was created is the last row, its summary cut and redacted. -/
theorem createInteraction_ok {interaction : PendingInteraction}
    (created : tables.createInteraction interaction = .ok after) :
    after.sessions = tables.sessions ∧
      (interaction.isPending → interaction.resolvedAt = none ∧ interaction.actorId = none ∧
        interaction.decision = none) ∧
      after.interactions = tables.interactions ++
        [{ interaction with payloadSummary := safeSummary interaction.payloadSummary }] := by
  unfold createInteraction at created
  split at created
  next => cases created
  next valid =>
    obtain ⟨_, _, sessions, interactions⟩ := insertInteraction_ok created
    exact ⟨sessions, validateInteraction_ok valid, interactions⟩

/-- An interaction that was created with its waiting session found the session active
and its own keys free. -/
theorem createInteractionAndMarkWaiting_true {interaction : PendingInteraction}
    {waitingStatus : SessionStatus} {updatedAt : Instant}
    (done : tables.createInteractionAndMarkWaiting interaction waitingStatus updatedAt =
      .ok (true, after)) :
    (∃ session ∈ tables.sessions, session.id = interaction.sessionId ∧
        session.status.isActive) ∧
      (∀ old ∈ tables.interactions, old.id ≠ interaction.id) ∧
      waitingStatus.isActive ∧
      after.sessions = updateWhere
        (fun session => session.id == interaction.sessionId && session.status.isActive)
        (fun session => { session with status := waitingStatus, updatedAt }) tables.sessions ∧
      (interaction.isPending → interaction.resolvedAt = none ∧ interaction.actorId = none ∧
        interaction.decision = none) ∧
      after.interactions = tables.interactions ++
        [{ interaction with payloadSummary := safeSummary interaction.payloadSummary }] := by
  unfold createInteractionAndMarkWaiting at done
  split at done
  next => cases done
  next waiting =>
    split at done
    next => cases done
    next valid =>
      simp only at done
      split at done
      next => cases done
      next found =>
        split at done
        next => cases done
        next inserted insertedEq =>
          cases done
          obtain ⟨_, fresh, sessions, interactions⟩ := insertInteraction_ok insertedEq
          refine ⟨rowcount_session.mp (not_not.mp found), fresh, ?_, sessions,
            validateInteraction_ok valid, interactions⟩
          revert waiting
          cases waitingStatus <;> decide

/-- The index on pending request ids gives no request id to a second pending row. -/
theorem createInteractionAndMarkWaiting_unclaimed {interaction : PendingInteraction}
    {waitingStatus : SessionStatus} {updatedAt : Instant}
    (done : tables.createInteractionAndMarkWaiting interaction waitingStatus updatedAt =
      .ok (true, after)) (pending : interaction.isPending) :
    ∀ row ∈ tables.interactions, row.isPending → row.requestId ≠ interaction.requestId := by
  obtain ⟨_, _, _, _, _, interactions⟩ := createInteractionAndMarkWaiting_true done
  have unique := after.pendingRequests
  rw [interactions] at unique
  intro row member waits
  have apart := (List.pairwise_append.mp unique).2.2 row member _ (List.mem_singleton_self _)
  exact apart waits pending

/-- Creating a valid interaction with a waiting status never raises: a violated key is a
refusal. -/
theorem createInteractionAndMarkWaiting_ne_error {interaction : PendingInteraction}
    {waitingStatus : SessionStatus} {updatedAt : Instant} {error : PyError}
    (waiting : waitingStatus = .waitingForApproval ∨ waitingStatus = .waitingForInput)
    (valid : validateInteraction interaction = .ok ()) :
    tables.createInteractionAndMarkWaiting interaction waitingStatus updatedAt ≠ .error error := by
  intro raised
  unfold createInteractionAndMarkWaiting at raised
  rw [if_neg (by rcases waiting with rfl | rfl <;> decide), valid] at raised
  dsimp only at raised
  split at raised
  next => cases raised
  next => split at raised <;> cases raised

/-- An active session takes an interaction under a new id whose request id is not pending. -/
theorem createInteractionAndMarkWaiting_of_unclaimed {session : CodexSession}
    {interaction : PendingInteraction} {waitingStatus : SessionStatus} {updatedAt : Instant}
    (member : session ∈ tables.sessions) (same : session.id = interaction.sessionId)
    (active : session.status.isActive)
    (waiting : waitingStatus = .waitingForApproval ∨ waitingStatus = .waitingForInput)
    (valid : validateInteraction interaction = .ok ())
    (fresh : ∀ old ∈ tables.interactions, old.id ≠ interaction.id)
    (unclaimed : ∀ old ∈ tables.interactions, old.isPending →
      old.requestId ≠ interaction.requestId) :
    ∃ after, tables.createInteractionAndMarkWaiting interaction waitingStatus updatedAt =
      .ok (true, after) := by
  let marked := tables.updateSessions
    (fun session => session.id == interaction.sessionId && session.status.isActive)
    (fun session => { session with status := waitingStatus, updatedAt }) fun _ => rfl
  have owned : { session with status := waitingStatus, updatedAt } ∈ marked.sessions :=
    mem_updateWhere_of_selected member
      (by simp only [same, beq_self_eq_true, active, Bool.and_self])
  have inserts : ∃ after, marked.insertInteraction
      { interaction with payloadSummary := safeSummary interaction.payloadSummary } =
        .ok after :=
    insertInteraction_isOk_iff.mpr
      ⟨⟨_, owned, same⟩, fresh, fun old oldMem pending _ => unclaimed old oldMem pending⟩
  obtain ⟨after, inserted⟩ := inserts
  refine ⟨after, ?_⟩
  unfold createInteractionAndMarkWaiting
  rw [if_neg (by rcases waiting with rfl | rfl <;> decide), valid]
  dsimp only
  rw [if_neg (not_not.mpr (rowcount_session.mpr ⟨session, member, same, active⟩)), inserted]

/-- A refused interaction changes nothing. -/
theorem createInteractionAndMarkWaiting_false {interaction : PendingInteraction}
    {waitingStatus : SessionStatus} {updatedAt : Instant}
    (done : tables.createInteractionAndMarkWaiting interaction waitingStatus updatedAt =
      .ok (false, after)) : after = tables := by
  unfold createInteractionAndMarkWaiting at done
  split at done
  next => cases done
  next =>
    split at done
    next => cases done
    next =>
      simp only at done
      split at done
      next =>
        cases done
        rfl
      next =>
        split at done
        next =>
          cases done
          rfl
        next => cases done

end CodexTables

end LarkBot
