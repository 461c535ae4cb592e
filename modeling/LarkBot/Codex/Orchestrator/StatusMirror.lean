import LarkBot.Codex.Orchestrator.Runtime

/-! # The status of a session and what it waits for

The status of an active session mirrors the kinds of its pending interactions
(`LarkBot.CodexTables.Mirrors`). Operations that settle an interaction recompute
the status; the others write it directly, which is right for a session that is
created, ended or done with its turn. It is wrong when an approval is admitted
while a user input is pending, and when a turn is recorded while anything is
pending. A run without these two keeps the mirror.
-/

namespace LarkBot

open Foundation

namespace CodexTables

variable {tables after : CodexTables}

/-- The kinds of the interactions that a session waits for. -/
def pendingKinds (tables : CodexTables) (sessionId : String) : List InteractionKind :=
  (tables.pendingOf sessionId).map PendingInteraction.kind

/-- The status is the one that `nextStatus` computes, or the session just starts. -/
def Mirrors (tables : CodexTables) (session : CodexSession) : Prop :=
  session.status = nextStatus (tables.pendingKinds session.id) ∨
    session.status = .starting ∧ tables.pendingKinds session.id = []

/-- The status of every active session mirrors what it waits for. -/
def StatusMirrors (tables : CodexTables) : Prop :=
  ∀ session ∈ tables.sessions, session.status.isActive → tables.Mirrors session

/-- A session goes on mirroring as long as it waits for the same kinds. -/
theorem Mirrors.of_eq {session : CodexSession} (mirrors : tables.Mirrors session)
    (kinds : after.pendingKinds session.id = tables.pendingKinds session.id) :
    after.Mirrors session := by
  unfold Mirrors
  rw [kinds]
  exact mirrors

/-- What a session waits for is read off the interactions alone. -/
theorem pendingKinds_of_eq (rows : after.interactions = tables.interactions)
    (sessionId : String) : after.pendingKinds sessionId = tables.pendingKinds sessionId := by
  unfold pendingKinds pendingOf
  rw [rows]

/-- An update that settles rows of other sessions only leaves the kinds of a session. -/
theorem pendingKinds_updateWhere {selected : PendingInteraction → Bool}
    {change : PendingInteraction → PendingInteraction}
    (rows : after.interactions = updateWhere selected change tables.interactions)
    (settles : Settles change) {sessionId : String}
    (others : ∀ row ∈ tables.interactions, selected row → row.sessionId ≠ sessionId) :
    after.pendingKinds sessionId = tables.pendingKinds sessionId := by
  unfold pendingKinds pendingOf
  rw [rows, filter_updateWhere]
  intro row member chosen
  simp only [settles.sessionId, beq_eq_false_iff_ne.mpr (others row member chosen),
    Bool.false_and, and_self]

/-- A session has no pending kinds exactly when nothing waits for it. -/
theorem pendingKinds_eq_nil {sessionId : String} :
    tables.pendingKinds sessionId = [] ↔ tables.NothingWaits sessionId := by
  unfold pendingKinds pendingOf NothingWaits
  rw [List.map_eq_nil_iff, List.filter_eq_nil_iff]
  simp only [Bool.and_eq_true, beq_iff_eq, not_and]
  exact ⟨fun none row member pending same => none row member same pending,
    fun none row member same pending => none row member pending same⟩

/-- Sessions keep their mirror when a session row is rewritten to a mirroring status,
or to an inactive one, and the others keep their kinds. -/
theorem StatusMirrors.of_updateWhere (sound : tables.StatusMirrors)
    {selected : CodexSession → Bool} {change : CodexSession → CodexSession}
    (rows : after.sessions = updateWhere selected change tables.sessions)
    (rewritten : ∀ session ∈ tables.sessions, selected session →
      (change session).status.isActive → after.Mirrors (change session))
    (kept : ∀ session ∈ tables.sessions, selected session = false → session.status.isActive →
      after.pendingKinds session.id = tables.pendingKinds session.id) :
    after.StatusMirrors := by
  intro session member active
  obtain ⟨old, oldMem, rfl⟩ := mem_updateWhere.mp (rows ▸ member)
  by_cases chosen : selected old
  · simp only [chosen, ↓reduceIte] at active ⊢
    exact rewritten old oldMem chosen active
  · simp only [chosen, Bool.false_eq_true, ↓reduceIte] at active ⊢
    exact (sound old oldMem active).of_eq (kept old oldMem (Bool.not_eq_true _ ▸ chosen) active)

/-- A session that just starts waits for nothing. -/
theorem createSession_statusMirrors {session : CodexSession} (starting : session.status = .starting)
    (created : tables.createSession session = .ok after) (sound : tables.StatusMirrors) :
    after.StatusMirrors := by
  obtain ⟨fresh, sessions, interactions⟩ := insertSession_ok created
  intro other member active
  rw [sessions] at member
  rcases List.mem_append.mp member with old | new
  · exact (sound other old active).of_eq (pendingKinds_of_eq interactions _)
  · obtain rfl := List.mem_singleton.mp new
    refine Or.inr ⟨starting, pendingKinds_eq_nil.mpr fun row rowMem _ same => ?_⟩
    rw [interactions] at rowMem
    obtain ⟨owner, ownerMem, owns⟩ := tables.interactionSessions row rowMem
    exact fresh owner ownerMem (owns.trans same)

/-- Claiming an interaction recomputes the status of its session. -/
theorem Claimed.statusMirrors {row : PendingInteraction}
    {change : PendingInteraction → PendingInteraction} {updatedAt : Instant}
    (claimed : tables.Claimed row change updatedAt after) (settles : Settles change)
    (sound : tables.StatusMirrors) : after.StatusMirrors := by
  refine sound.of_updateWhere claimed.sessions ?_ ?_
  · intro session _ chosen _
    apply Or.inl
    have same : session.id = row.sessionId := beq_iff_eq.mp ((Bool.and_eq_true _ _).mp chosen).1
    simp only [pendingKinds, same]
  · intro session _ unselected active
    apply pendingKinds_updateWhere claimed.interactions settles
    intro other member chosen
    have sameRow : other.id = row.id := beq_iff_eq.mp ((Bool.and_eq_true _ _).mp chosen).1
    obtain rfl := interaction_unique member claimed.isPendingRow.1 sameRow
    intro same
    simp only [same, beq_self_eq_true, active, Bool.and_self, Bool.true_eq_false] at unselected

/-- After what waits for a session was closed it waits for nothing. -/
theorem closed_nothingWaits {sessionId : String} {status : InteractionStatus}
    {resolvedAt : Instant} (settled : status ≠ .pending)
    (rows : after.interactions = closed sessionId status resolvedAt tables.interactions) :
    after.NothingWaits sessionId := by
  intro row member pending same
  obtain ⟨old, _, rfl⟩ := mem_updateWhere.mp (rows ▸ member)
  split at pending
  next => exact settled (beq_iff_eq.mp pending)
  next unselected =>
    simp only [unselected, Bool.false_eq_true, ↓reduceIte] at same
    simp only [same, beq_self_eq_true, pending, Bool.and_self, not_true_eq_false] at unselected

/-- Ending a session leaves the others to mirror what they wait for. -/
theorem claimSessionTerminal_statusMirrors {sessionId summary : String}
    {terminalStatus : SessionStatus} {pendingStatus : InteractionStatus} {updatedAt : Instant}
    {ids : List String}
    (done : tables.claimSessionTerminal sessionId terminalStatus summary pendingStatus updatedAt =
      .ok (some ids, after)) (sound : tables.StatusMirrors) : after.StatusMirrors := by
  obtain ⟨terminal, settled, _, _, sessions, interactions⟩ := claimSessionTerminal_some done
  refine sound.of_updateWhere sessions ?_ ?_
  · intro session _ _ active
    rw [SessionStatus.isTerminal_eq_not_isActive, show terminalStatus.isActive = true from active]
      at terminal
    cases terminal
  · intro session _ unselected active
    refine pendingKinds_updateWhere interactions (close_settles ?_ _) fun row _ chosen same => ?_
    · rcases settled with rfl | rfl <;> decide
    · simp only [Bool.and_eq_true, beq_iff_eq, same] at chosen
      simp only [chosen.1, beq_self_eq_true, active, Bool.and_self, Bool.true_eq_false]
        at unselected

/-- A session whose turn was finished waits for nothing and runs. -/
theorem finishInteractiveTurn_statusMirrors {sessionId turnId summary : String}
    {updatedAt : Instant} {ids : List String}
    (done : tables.finishInteractiveTurn sessionId turnId summary updatedAt =
      .ok (some ids, after)) (sound : tables.StatusMirrors) : after.StatusMirrors := by
  obtain ⟨⟨found, foundMem, foundId, foundTurn, foundActive⟩, _, sessions, interactions⟩ :=
    finishInteractiveTurn_some done
  refine sound.of_updateWhere sessions ?_ ?_
  · intro session _ chosen _
    simp only [Bool.and_eq_true, beq_iff_eq] at chosen
    have nothing := pendingKinds_eq_nil.mpr (closed_nothingWaits (by decide) interactions)
    apply Or.inl
    simp only [chosen.1.1, nothing]
    rfl
  · intro session member unselected active
    refine pendingKinds_updateWhere interactions (close_settles (by decide) _)
      fun row _ chosen same => ?_
    simp only [Bool.and_eq_true, beq_iff_eq, same] at chosen
    obtain rfl := session_unique member foundMem (chosen.1.trans foundId.symm)
    simp only [foundId, foundTurn, active, beq_self_eq_true, Bool.and_self, Bool.true_eq_false]
      at unselected

/-- The kinds that a session waits for once an interaction was inserted. -/
theorem pendingKinds_append {inserted : PendingInteraction}
    (rows : after.interactions = tables.interactions ++ [inserted]) (pending : inserted.isPending)
    (sessionId : String) :
    after.pendingKinds sessionId = tables.pendingKinds sessionId ++
      if inserted.sessionId = sessionId then [inserted.kind] else [] := by
  unfold pendingKinds pendingOf
  rw [rows, List.filter_append, List.map_append]
  by_cases same : inserted.sessionId = sessionId
  · simp only [List.filter_cons, same, beq_self_eq_true, pending, Bool.and_self, ↓reduceIte,
      List.filter_nil, List.map_cons, List.map_nil]
  · simp only [List.filter_cons, beq_eq_false_iff_ne.mpr same, Bool.false_and, Bool.false_eq_true,
      ↓reduceIte, List.filter_nil, List.map_nil, same]

/-- The status asks for input exactly when a user input is pending. -/
theorem nextStatus_eq_waitingForInput {kinds : List InteractionKind} :
    nextStatus kinds = .waitingForInput ↔ .userInput ∈ kinds := by
  unfold nextStatus
  by_cases input : .userInput ∈ kinds
  · simp only [List.contains_iff_mem, input, ↓reduceIte]
  · simp only [List.contains_iff_mem, input, ↓reduceIte, iff_false]
    split_ifs <;> decide

/-- The status asks for approval exactly when something is pending, and no user input. -/
theorem nextStatus_eq_waitingForApproval {kinds : List InteractionKind} :
    nextStatus kinds = .waitingForApproval ↔ kinds ≠ [] ∧ .userInput ∉ kinds := by
  unfold nextStatus
  by_cases input : .userInput ∈ kinds
  · simp only [List.contains_iff_mem, input, ↓reduceIte, reduceCtorEq, not_true_eq_false, and_false]
  · by_cases nothing : kinds = [] <;>
      simp [input, nothing]

/-- The status is running exactly when nothing is pending. -/
theorem nextStatus_eq_running {kinds : List InteractionKind} :
    nextStatus kinds = .running ↔ kinds = [] := by
  unfold nextStatus
  by_cases input : .userInput ∈ kinds
  · simp only [List.contains_iff_mem, input, ↓reduceIte, reduceCtorEq, false_iff]
    exact List.ne_nil_of_mem input
  · by_cases nothing : kinds = [] <;>
      simp [input, nothing]

/-- The status that a new request asks for is right unless it hides a pending user input. -/
theorem nextStatus_append (kinds : List InteractionKind) (kind : InteractionKind)
    (ordered : kind = .userInput ∨ .userInput ∉ kinds) :
    nextStatus (kinds ++ [kind]) = waitingStatus kind := by
  unfold nextStatus waitingStatus
  by_cases input : kind = .userInput
  · simp only [List.contains_iff_mem, List.mem_append, input, List.mem_singleton, or_true,
      ↓reduceIte]
  · have absent : .userInput ∉ kinds ++ [kind] := by
      rw [List.mem_append, List.mem_singleton, not_or]
      exact ⟨ordered.resolve_left input, fun same => input same.symm⟩
    simp only [List.contains_iff_mem, absent, ↓reduceIte, ne_eq, List.append_eq_nil_iff,
      List.cons_ne_self, and_false, not_false_eq_true, input]

/-- Admitting writes the status of the admitted kind; that is right for a user
input, and for an approval when no user input is pending. -/
theorem createInteractionAndMarkWaiting_statusMirrors {interaction : PendingInteraction}
    {updatedAt : Instant} (pending : interaction.isPending)
    (done : tables.createInteractionAndMarkWaiting interaction (waitingStatus interaction.kind)
      updatedAt = .ok (true, after))
    (ordered : interaction.kind = .userInput ∨
      .userInput ∉ tables.pendingKinds interaction.sessionId)
    (sound : tables.StatusMirrors) : after.StatusMirrors := by
  obtain ⟨_, _, _, sessions, _, interactions⟩ := createInteractionAndMarkWaiting_true done
  have appended := pendingKinds_append interactions
  have kinds : ∀ sessionId, after.pendingKinds sessionId = tables.pendingKinds sessionId ++
      if interaction.sessionId = sessionId then [interaction.kind] else [] := appended pending
  refine sound.of_updateWhere sessions ?_ ?_
  · intro session _ chosen _
    have same : session.id = interaction.sessionId :=
      beq_iff_eq.mp ((Bool.and_eq_true _ _).mp chosen).1
    apply Or.inl
    rw [kinds]
    simp only [same, ↓reduceIte]
    exact (nextStatus_append _ _ ordered).symm
  · intro session _ unselected active
    have other : interaction.sessionId ≠ session.id := by
      intro same
      simp only [same, beq_self_eq_true, active, Bool.and_self, Bool.true_eq_false] at unselected
    rw [kinds]
    simp only [other, ↓reduceIte, List.append_nil]

/-- Attaching the id of a Lark message changes no pending kind. -/
theorem attachLarkMessageId_pendingKinds (interactionId messageId sessionId : String) :
    (tables.attachLarkMessageId interactionId messageId).2.pendingKinds sessionId =
      tables.pendingKinds sessionId := by
  unfold pendingKinds pendingOf attachLarkMessageId
  simp only [updateInteractions, updateWhere, List.filter_map, List.map_map]
  have kept : ∀ row : PendingInteraction, ∀ condition : Bool,
      let next := if condition then { row with larkMessageId := some messageId } else row
      next.kind = row.kind ∧ next.sessionId = row.sessionId ∧ next.isPending = row.isPending := by
    intro row condition
    cases condition <;> exact ⟨rfl, rfl, rfl⟩
  congr 1
  · funext row
    exact (kept row _).1
  · congr 1
    funext row
    simp only [Function.comp_apply, kept]

/-- An update from `STARTING` finds a session that waits for nothing. -/
theorem updateSessionIfStatus_statusMirrors {sessionId : String}
    {expectedStatuses : List SessionStatus} {threadId turnId : Option (Option String)}
    {updatedAt : Instant}
    (idle : expectedStatuses = [.starting] ∨ tables.NothingWaits sessionId)
    (sound : tables.StatusMirrors) :
    (tables.updateSessionIfStatus sessionId expectedStatuses .running threadId turnId
      updatedAt).2.StatusMirrors := by
  refine sound.of_updateWhere rfl ?_ fun _ _ _ _ => rfl
  intro session member chosen _
  obtain ⟨same, expected⟩ := (Bool.and_eq_true _ _).mp chosen
  have nothing : tables.pendingKinds session.id = [] := by
    rcases idle with rfl | idle
    · have starting : session.status = .starting := List.mem_singleton.mp
        (List.contains_iff_mem.mp expected)
      rcases sound session member (starting ▸ rfl) with mirrored | ⟨_, nothing⟩
      · exact absurd (mirrored.symm.trans starting) (nextStatus_ne_starting _)
      · exact nothing
    · rw [beq_iff_eq.mp same]
      exact pendingKinds_eq_nil.mpr idle
  refine Or.inl (?_ : _ = nextStatus (tables.pendingKinds session.id))
  rw [nothing]
  rfl

/-- A kind is pending in a session exactly when one of its pending rows is of that kind. -/
theorem mem_pendingKinds {sessionId : String} {kind : InteractionKind} :
    kind ∈ tables.pendingKinds sessionId ↔ ∃ row ∈ tables.interactions,
      row.sessionId = sessionId ∧ row.isPending ∧ row.kind = kind := by
  simp only [pendingKinds, List.mem_map, mem_pendingOf, and_assoc]

end CodexTables

namespace Core

variable {core : Core}

/-- A request with this id is pending, in whatever session. -/
def RequestWaits (core : Core) (requestId : String) : Prop :=
  ∃ row ∈ core.tables.interactions, row.isPending ∧ row.requestId = requestId

/-- The actions that write a status directly write what mirrors the pending kinds. -/
def KeepsStatus (core : Core) : CoreAction → Prop
  | .admitInteraction live _ _ => live.interaction.kind = .userInput ∨
      .userInput ∉ core.tables.pendingKinds live.interaction.sessionId ∨
      core.RequestWaits live.interaction.requestId
  | .updateSession sessionId (.recordTurn _) _ => core.tables.NothingWaits sessionId
  | _ => True

/-- An action that keeps the status lets every active session mirror what it waits for. -/
theorem perform_statusMirrors (sound : core.tables.StatusMirrors) {action : CoreAction}
    (wellFormed : action.WellFormed) (keeps : core.KeepsStatus action) :
    (core.perform action).tables.StatusMirrors := by
  cases action with
  | createSession session =>
      simp only [perform]
      split
      next created =>
        have starting := CodexSession.IsNew.status_eq wellFormed
        exact CodexTables.createSession_statusMirrors starting created sound
      next => exact sound
  | hostSession | releaseSession => exact sound
  | updateSession sessionId update updatedAt =>
      refine CodexTables.updateSessionIfStatus_statusMirrors ?_ sound
      cases update with
      | startThread | bindInteractiveThread => exact Or.inl rfl
      | recordTurn => exact Or.inr keeps
  | admitInteraction live status updatedAt =>
      simp only [perform]
      split
      next tables created =>
        obtain ⟨pending, _, rfl, _⟩ := wellFormed
        refine CodexTables.createInteractionAndMarkWaiting_statusMirrors pending created ?_ sound
        rcases keeps with input | absent | ⟨row, member, waits, same⟩
        · exact Or.inl input
        · exact Or.inr absent
        · exact absurd same
            (CodexTables.createInteractionAndMarkWaiting_unclaimed created pending row member waits)
      next => exact sound
  | claim interactionId decision actorId updatedAt status =>
      simp only [perform]
      split
      next claimed =>
        obtain ⟨row, normalized, _, settled, _, claimed⟩ :=
          CodexTables.resolveInteractionAndRefreshSession_true claimed
        exact claimed.statusMirrors (CodexTables.resolve_settles
          (by rcases settled with rfl | rfl <;> decide) _ _ _) sound
      next => exact sound
  | cancel interactionId updatedAt =>
      simp only [perform]
      cases done : core.tables.cancelInteractionAndRefreshSession interactionId updatedAt with
      | mk won tables =>
          cases won with
          | true =>
              obtain ⟨row, _, claimed⟩ := CodexTables.cancelInteractionAndRefreshSession_true done
              exact claimed.statusMirrors (CodexTables.close_settles (by decide) _) sound
          | false =>
              obtain ⟨rfl, _⟩ := CodexTables.cancelInteractionAndRefreshSession_false done
              exact sound
  | endSession sessionId status summary updatedAt =>
      simp only [perform]
      split
      next ended => exact CodexTables.claimSessionTerminal_statusMirrors ended sound
      next => exact sound
  | failStartup sessionId summary updatedAt =>
      simp only [perform]
      split
      next ended => exact CodexTables.claimSessionTerminal_statusMirrors ended sound
      next => exact sound
  | finishTurn sessionId turnId summary updatedAt =>
      simp only [perform]
      split
      next finished => exact CodexTables.finishInteractiveTurn_statusMirrors finished sound
      next => exact sound
  | attachLarkMessageId interactionId messageId =>
      intro session member active
      exact (sound session member active).of_eq
        (CodexTables.attachLarkMessageId_pendingKinds _ _ _)

/-- After a start no session is active, so there is nothing to mirror. -/
theorem Started.statusMirrors (started : core.Started) : core.tables.StatusMirrors := by
  intro session member active
  rw [started.inactive session member] at active
  cases active

end Core

/-- A request may be admitted without hiding a pending user input: it asks for one
itself, none is pending in its session, or it will be refused as a duplicate. -/
def AdmitsNoApprovalOverInput (self : CodexOrchestrator) (request : ServerRequest)
    (sessionId : Option String) : Prop :=
  ∀ session kind, Admissible self request sessionId session kind →
    kind = .userInput ∨ .userInput ∉ self.store.tables.pendingKinds session.id ∨
      self.core.RequestWaits (canonicalRequestId request.requestId)

/-- The notification records no turn for a session that an interaction waits for. -/
def StartsIdleTurn (self : CodexOrchestrator) (notification : ServerNotification) : Prop :=
  notification.method = "turn/started" →
    ∀ session turnId, StartsTurn self notification.params session turnId →
      self.store.tables.NothingWaits session.id

/-- The event writes no status that disagrees with what is pending: no approval is
admitted in a session with a pending user input, and no turn is recorded for a
session that an interaction waits for. -/
def KeepsStatus (runtime : Runtime) : Event → Prop
  | .call (.processServerRequest request sessionId) =>
      AdmitsNoApprovalOverInput runtime.orchestrator request (some sessionId)
  | .call (.consumeRequest request) =>
      AdmitsNoApprovalOverInput runtime.orchestrator request none
  | .call (.processNotification notification) | .call (.consumeNotification notification) =>
      StartsIdleTurn runtime.orchestrator notification
  | .reply task reply => ∀ call sessionId,
      runtime.tasks.get? task = some ⟨call, .createSessionTurn sessionId⟩ →
      reply.accepted.isSome → runtime.orchestrator.store.tables.NothingWaits sessionId
  | _ => True

/-- The actions of an event that keeps the status keep it. -/
theorem Runtime.performs_keepsStatus {environment : Environment} {runtime : Runtime}
    {event : Event} (keeps : KeepsStatus runtime event) {core : Core} {action : CoreAction}
    (performs : runtime.Performs environment event core action) : core.KeepsStatus action := by
  cases event with
  | call call =>
      cases performs with
      | admitInteraction session kind _ admissible | consume session kind _ admissible =>
          exact keeps session kind admissible
      | notify _ _ performs | consumeNotification _ _ performs =>
          cases performs with
          | recordTurn session turnId _ started starts => exact keeps started session turnId starts
          | _ => trivial
      | _ => trivial
  | reply task reply =>
      obtain ⟨⟨call, frame⟩, found, performs⟩ := performs
      cases performs with
      | recordTurn turnId _ accepted => exact keeps call _ found (accepted ▸ rfl)
      | _ => trivial
  | proceed =>
      obtain ⟨_, _, _, performs⟩ := performs
      cases performs <;> trivial

/-- A mirroring status says what the session waits for. -/
theorem CodexTables.Mirrors.status_iff {tables : CodexTables} {session : CodexSession}
    (mirrors : tables.Mirrors session) :
    (session.status = .waitingForInput ↔ .userInput ∈ tables.pendingKinds session.id) ∧
      (session.status = .waitingForApproval ↔
        tables.pendingKinds session.id ≠ [] ∧ .userInput ∉ tables.pendingKinds session.id) ∧
      (session.status = .starting ∨ session.status = .running ↔
        tables.pendingKinds session.id = []) := by
  rcases mirrors with mirrored | ⟨starting, nothing⟩
  · rw [mirrored]
    refine ⟨nextStatus_eq_waitingForInput, nextStatus_eq_waitingForApproval, ?_⟩
    rw [or_iff_right (nextStatus_ne_starting _), nextStatus_eq_running]
  · simp only [starting, nothing, reduceCtorEq, List.not_mem_nil, ne_eq, not_true_eq_false,
      false_and, true_or, and_self]

/-- In every run whose events keep the status, the status of an active session says
what the session waits for. -/
theorem status_mirrors_pending {environment : Environment} {runtime : Runtime}
    (reachable : (orchestratorSystem environment).ReachableVia KeepsStatus runtime) :
    ∀ session ∈ runtime.orchestrator.store.tables.sessions, session.status.isActive →
      (session.status = .waitingForInput ↔
        ∃ row ∈ runtime.orchestrator.store.tables.interactions,
          row.sessionId = session.id ∧ row.isPending ∧ row.kind = .userInput) ∧
      (session.status = .waitingForApproval ↔
        (∃ row ∈ runtime.orchestrator.store.tables.interactions,
          row.sessionId = session.id ∧ row.isPending) ∧
        ¬∃ row ∈ runtime.orchestrator.store.tables.interactions,
          row.sessionId = session.id ∧ row.isPending ∧ row.kind = .userInput) ∧
      (session.status = .starting ∨ session.status = .running ↔
        ¬∃ row ∈ runtime.orchestrator.store.tables.interactions,
          row.sessionId = session.id ∧ row.isPending) := by
  intro session member active
  have sound : runtime.orchestrator.core.tables.StatusMirrors :=
    reachable_core reachable (fun core => core.tables.StatusMirrors) Core.KeepsStatus
      (fun _ => Core.Started.statusMirrors)
      (fun _ _ _ keeps _ _ => Runtime.performs_keepsStatus keeps)
      fun _ _ holds wellFormed keeps => Core.perform_statusMirrors holds wellFormed keeps
  have something : (∃ row ∈ runtime.orchestrator.store.tables.interactions,
      row.sessionId = session.id ∧ row.isPending) ↔
        runtime.orchestrator.store.tables.pendingKinds session.id ≠ [] := by
    rw [Ne, CodexTables.pendingKinds_eq_nil]
    simp only [CodexTables.NothingWaits, not_forall, not_not, exists_prop]
    exact exists_congr fun _ => and_congr_right fun _ => and_comm
  rw [← CodexTables.mem_pendingKinds, something, Ne, not_not]
  exact (sound session member active).status_iff

/-- A session asks for a user input in its first turn. -/
def inputPending : List Event :=
  [.call (.createInteractiveSession "name" "/work" none "workspace-write"),
    .call (.bindInteractiveThread "id-0" "thread" (some "turn")),
    .call (.processServerRequest ⟨.int 1, "item/tool/requestUserInput",
      [("threadId", .str "thread"), ("turnId", .str "turn")]⟩ "id-0")]

/-- An approval that is then requested hides the pending user input. -/
theorem approval_hides_pending_input : ∃ runtime,
    (orchestratorSystem tickingEnvironment).Reachable runtime ∧
      ∃ session ∈ runtime.orchestrator.store.tables.sessions, session.status.isActive ∧
        ¬ (session.status = .waitingForInput ↔
          ∃ row ∈ runtime.orchestrator.store.tables.interactions,
            row.sessionId = session.id ∧ row.isPending ∧ row.kind = .userInput) :=
  reachable_of_scenario (fun _ _ => true)
    (inputPending ++ [.call (.processServerRequest ⟨.int 2,
      "item/commandExecution/requestApproval",
      [("threadId", .str "thread"), ("turnId", .str "turn")]⟩ "id-0")])
    (fun _ _ _ => trivial) (by decide)

/-- While nothing is pending, every event keeps the status. -/
theorem keepsStatus_of_nil {runtime : Runtime}
    (nothing : runtime.orchestrator.store.tables.interactions = []) (event : Event) :
    KeepsStatus runtime event := by
  have idle : ∀ sessionId, runtime.orchestrator.store.tables.NothingWaits sessionId := by
    intro sessionId row member
    rw [nothing] at member
    cases member
  have admits : ∀ request sessionId,
      AdmitsNoApprovalOverInput runtime.orchestrator request sessionId := by
    intro request sessionId session kind _
    rw [CodexTables.pendingKinds_eq_nil.mpr (idle session.id)]
    exact Or.inr (Or.inl List.not_mem_nil)
  cases event with
  | call call =>
      cases call with
      | processServerRequest | consumeRequest => exact admits _ _
      | processNotification | consumeNotification => exact fun _ session _ _ => idle session.id
      | _ => trivial
  | reply task reply => exact fun _ sessionId _ _ => idle sessionId
  | proceed => trivial

/-- The session that asks for a user input waits for it. -/
theorem status_mirrors_pending_input : ∃ runtime : Runtime,
    ∃ session ∈ runtime.orchestrator.store.tables.sessions, session.status = .waitingForInput ∧
      ∃ row ∈ runtime.orchestrator.store.tables.interactions,
        row.sessionId = session.id ∧ row.isPending ∧ row.kind = .userInput := by
  have reached : ∃ runtime,
      (orchestratorSystem tickingEnvironment).ReachableVia KeepsStatus runtime ∧
        ∃ session ∈ runtime.orchestrator.store.tables.sessions,
          session.status = .waitingForInput :=
    reachable_of_scenario (fun runtime _ => runtime.orchestrator.store.tables.interactions = [])
      inputPending (fun _ event nothing => keepsStatus_of_nil (of_decide_eq_true nothing) event)
      (by decide)
  obtain ⟨runtime, reachable, session, member, waiting⟩ := reached
  have mirrored := status_mirrors_pending reachable session member (waiting ▸ rfl)
  exact ⟨runtime, session, member, waiting, mirrored.1.mp waiting⟩

end LarkBot
