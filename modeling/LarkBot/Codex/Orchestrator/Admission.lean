import LarkBot.Codex.Orchestrator.Runtime

/-! # What decides about a request

A request that passes the checks of its session is refused only because its id is
pending. The index on pending request ids spans all sessions, so two states that
agree on a session may decide differently about its request: exactly when only one
of them holds the id for another session (`LarkBot.admission_agrees_iff`).
-/

namespace LarkBot

open Foundation

namespace CodexTables

/-- A pending interaction of the session holds the request id. -/
def HeldBy (tables : CodexTables) (sessionId requestId : String) : Prop :=
  ∃ row ∈ tables.interactions, row.isPending ∧ row.requestId = requestId ∧
    row.sessionId = sessionId

/-- A pending interaction of another session holds the request id. -/
def HeldByOther (tables : CodexTables) (sessionId requestId : String) : Prop :=
  ∃ row ∈ tables.interactions, row.isPending ∧ row.requestId = requestId ∧
    row.sessionId ≠ sessionId

/-- The new id names no stored interaction. -/
def IsFresh (tables : CodexTables) (interactionId : String) : Prop :=
  ∀ row ∈ tables.interactions, row.id ≠ interactionId

instance (tables : CodexTables) (interactionId : String) :
    Decidable (tables.IsFresh interactionId) :=
  inferInstanceAs (Decidable (∀ row ∈ tables.interactions, row.id ≠ interactionId))

end CodexTables

/-- The two states agree on the session: on its row, on its interactions, and on
whether it is interactive. -/
structure AgreeOn (sessionId : String) (first second : CodexOrchestrator) : Prop where
  session_eq : first.store.tables.getSession sessionId = second.store.tables.getSession sessionId
  interactions : ∀ row, row.sessionId = sessionId →
    (row ∈ first.store.tables.interactions ↔ row ∈ second.store.tables.interactions)
  interactive : sessionId ∈ first.interactiveSessions ↔ sessionId ∈ second.interactiveSessions

/-- The request was admitted: its interaction is pending, and no error is sent. -/
def Created (sessionId : String) (segment : CodexOrchestrator × Except PyError Progress) : Prop :=
  ∃ interaction, segment.2 = .ok (.returned (.interaction interaction)) ∧
    ∃ row, segment.1.store.tables.IsPendingRow interaction.id row ∧ row.sessionId = sessionId

/-- The request was refused: this error is sent through the gateway of the session. -/
def Refused (sessionId : String) (request : ServerRequest) (code : Int) (message : String)
    (outcome : Except PyError Progress) : Prop :=
  outcome = .ok (.await (.respondError (.gateway sessionId) request.requestId code message)
    (.requestError false))

/-- Both requests were admitted, or refused with the same error. -/
def SameAdmission (sessionId : String) (request : ServerRequest)
    (first second : CodexOrchestrator × Except PyError Progress) : Prop :=
  (Created sessionId first ∧ Created sessionId second) ∨ ∃ code message,
    Refused sessionId request code message first.2 ∧
      Refused sessionId request code message second.2

section Admission

variable {environment : Environment} {self : CodexOrchestrator} {request : ServerRequest}
  {sessionId : String}

/-- A request that fails a check is refused with an error that depends on nothing
but its session. -/
theorem refused_of_not_admissible {first second : CodexOrchestrator}
    (agree : AgreeOn sessionId first second) {left right : Environment}
    (inadmissible : ∀ session kind, ¬ Admissible first request (some sessionId) session kind) :
    ∃ code message,
      Refused sessionId request code message
        (handle left (.processServerRequest request sessionId) first).2 ∧
      Refused sessionId request code message
        (handle right (.processServerRequest request sessionId) second).2 := by
  have sameSession : requestSession first.store.tables request (some sessionId) =
      requestSession second.store.tables request (some sessionId) := by
    simp only [requestSession, agree.session_eq]
  change ∃ code message,
    (processServerRequest left request (some sessionId) (some (.gateway sessionId))).Ends first
      (fun _ outcome => Refused sessionId request code message outcome) ∧
    (processServerRequest right request (some sessionId) (some (.gateway sessionId))).Ends second
      (fun _ outcome => Refused sessionId request code message outcome)
  unfold processServerRequest
  cases kindEq : requestKind request.method with
  | none => exact ⟨_, _, rfl, rfl⟩
  | some kind =>
      simp only [Code.ends_self_bind, ← sameSession]
      cases sessionEq : requestSession first.store.tables request (some sessionId) with
      | none => exact ⟨_, _, rfl, rfl⟩
      | some session =>
          obtain ⟨_, same⟩ := requestSession_id sessionEq
          have sameTurn : inactiveTurn first session request =
              inactiveTurn second session request := by
            simp only [inactiveTurn, same, agree.interactive]
          simp only [← sameTurn]
          cases active : session.status.isActive with
          | false => exact ⟨_, _, rfl, rfl⟩
          | true =>
              cases turn : inactiveTurn first session request with
              | true => exact ⟨_, _, rfl, rfl⟩
              | false => exact absurd ⟨kindEq, sessionEq, active, turn⟩ (inadmissible session kind)

/-- A request is admissible in both states when they agree on its session. -/
theorem admissible_of_agreeOn {first second : CodexOrchestrator}
    (agree : AgreeOn sessionId first second) {session : CodexSession} {kind : InteractionKind}
    (admissible : Admissible first request (some sessionId) session kind) :
    Admissible second request (some sessionId) session kind := by
  obtain ⟨_, same⟩ := requestSession_id admissible.session_eq
  refine ⟨admissible.kind_eq, ?_, admissible.isActive, ?_⟩
  · simpa only [requestSession, agree.session_eq] using admissible.session_eq
  · simpa only [inactiveTurn, same, agree.interactive] using admissible.currentTurn

/-- A request that passes the checks, and whose id is not pending, is admitted. -/
theorem created_of_unclaimed {session : CodexSession} {kind : InteractionKind}
    (admissible : Admissible self request (some sessionId) session kind)
    (fresh : self.store.tables.IsFresh (environment.idFactory self.idReads))
    (unclaimed : ∀ row ∈ self.store.tables.interactions, row.isPending →
      row.requestId ≠ canonicalRequestId request.requestId) :
    Created sessionId (handle environment (.processServerRequest request sessionId) self) := by
  obtain ⟨member, same⟩ := requestSession_id admissible.session_eq
  let live := admitted environment self request session.id kind (some (.gateway sessionId))
  have inserts : ∀ updatedAt, ∃ after, self.store.tables.createInteractionAndMarkWaiting
      live.interaction (waitingStatus kind) updatedAt = .ok (true, after) := fun updatedAt =>
    CodexTables.createInteractionAndMarkWaiting_of_unclaimed member rfl admissible.isActive
      (waitingStatus_waiting kind) rfl fresh unclaimed
  change (processServerRequest environment request (some sessionId)
    (some (.gateway sessionId))).Ends self fun after outcome => Created sessionId (after, outcome)
  unfold processServerRequest
  rw [admissible.kind_eq]
  simp only [Code.ends_self_bind, admissible.session_eq, admissible.isActive, Bool.not_true,
    Bool.false_eq_true, ↓reduceIte, admissible.currentTurn, ends_utcNow_bind, ends_newId_bind,
    ends_storeOrRaise_bind]
  split
  next created tables done =>
    cases created with
    | false =>
        obtain ⟨after, inserted⟩ := inserts (asUtc (environment.now (self.clockReads + 1)))
        exact absurd (done.symm.trans inserted) (by simp only [Except.ok.injEq, Prod.mk.injEq,
          Bool.false_eq_true, false_and, not_false_eq_true])
    | true =>
        obtain ⟨_, _, _, sessions, _, interactions⟩ :=
          CodexTables.createInteractionAndMarkWaiting_true done
        let row : PendingInteraction := { live.interaction with
          payloadSummary := safeSummary live.interaction.payloadSummary }
        have rowMem : row ∈ tables.interactions :=
          interactions ▸ List.mem_append_right _ (List.mem_singleton_self _)
        have marked : { session with
            status := waitingStatus kind
            updatedAt := asUtc (environment.now (self.clockReads + 1)) } ∈ tables.sessions := by
          rw [sessions]
          exact mem_updateWhere_of_selected member
            ((Bool.and_eq_true _ _).mpr ⟨beq_self_eq_true _, admissible.isActive⟩)
        have owned : (tables.getSession session.id).isSome :=
          Option.isSome_of_eq_some (CodexTables.getSession_eq_some.mpr ⟨marked, rfl⟩)
        have stored : (tables.getInteraction (environment.idFactory self.idReads)).isSome :=
          Option.isSome_of_eq_some (CodexTables.getInteraction_eq_some.mpr ⟨rowMem, rfl⟩)
        simp only [↓reduceIte, Code.ends_modify_bind]
        refine (emit_core.and (emit_ok owned ?_)).bind ?_ ?_
        · rintro _ ⟨⟩
          exact stored
        · rintro middle _ ⟨kept, _⟩
          have sameTables : middle.store.tables = tables := congrArg Core.tables kept
          refine ⟨live.interaction, rfl, row, ⟨?_, rfl, rfl⟩, same⟩
          exact sameTables ▸ rowMem
        · rintro _ _ ⟨_, ⟨⟩⟩
  next error raised =>
    obtain ⟨after, inserted⟩ := inserts (asUtc (environment.now (self.clockReads + 1)))
    exact absurd (raised.symm.trans inserted) (by simp only [reduceCtorEq, not_false_eq_true])

/-- A request that passes the checks is refused when its id is pending in any session. -/
theorem refused_of_claimed {session : CodexSession} {kind : InteractionKind}
    (admissible : Admissible self request (some sessionId) session kind)
    {row : PendingInteraction} (member : row ∈ self.store.tables.interactions)
    (pending : row.isPending) (held : row.requestId = canonicalRequestId request.requestId) :
    Refused sessionId request (-32600) "duplicate or inactive request"
      (handle environment (.processServerRequest request sessionId) self).2 := by
  change (processServerRequest environment request (some sessionId)
    (some (.gateway sessionId))).Ends self fun _ outcome =>
      Refused sessionId request (-32600) "duplicate or inactive request" outcome
  unfold processServerRequest
  rw [admissible.kind_eq]
  simp only [Code.ends_self_bind, admissible.session_eq, admissible.isActive, Bool.not_true,
    Bool.false_eq_true, ↓reduceIte, admissible.currentTurn, ends_utcNow_bind, ends_newId_bind,
    ends_storeOrRaise_bind]
  split
  next created tables done =>
    cases created with
    | false => rfl
    | true =>
        exact absurd held
          (CodexTables.createInteractionAndMarkWaiting_unclaimed done rfl row member pending)
  next error raised =>
    exact absurd raised (CodexTables.createInteractionAndMarkWaiting_ne_error
      (waitingStatus_waiting kind) rfl)

/-- No outcome is both. -/
theorem not_created_of_refused {segment : CodexOrchestrator × Except PyError Progress}
    {code : Int} {message : String} (refused : Refused sessionId request code message segment.2) :
    ¬ Created sessionId segment := by
  rintro ⟨interaction, created, _⟩
  rw [refused] at created
  cases created

/-- A request id is pending when it is held by the session or by another one. -/
theorem claimed_iff {tables : CodexTables} {requestId : String} :
    (∃ row ∈ tables.interactions, row.isPending ∧ row.requestId = requestId) ↔
      tables.HeldBy sessionId requestId ∨ tables.HeldByOther sessionId requestId := by
  constructor
  · rintro ⟨row, member, pending, held⟩
    by_cases own : row.sessionId = sessionId
    · exact Or.inl ⟨row, member, pending, held, own⟩
    · exact Or.inr ⟨row, member, pending, held, own⟩
  · rintro (⟨row, member, pending, held, _⟩ | ⟨row, member, pending, held, _⟩)
    · exact ⟨row, member, pending, held⟩
    · exact ⟨row, member, pending, held⟩

/-- A request id is held by the session in both states or in neither. -/
theorem heldBy_iff {first second : CodexOrchestrator} (agree : AgreeOn sessionId first second)
    {requestId : String} : first.store.tables.HeldBy sessionId requestId ↔
      second.store.tables.HeldBy sessionId requestId := by
  constructor
  · rintro ⟨row, member, pending, held, own⟩
    exact ⟨row, (agree.interactions row own).mp member, pending, held, own⟩
  · rintro ⟨row, member, pending, held, own⟩
    exact ⟨row, (agree.interactions row own).mpr member, pending, held, own⟩

/-- What becomes of a request that passes the checks. -/
theorem admissible_outcome {session : CodexSession} {kind : InteractionKind}
    (admissible : Admissible self request (some sessionId) session kind)
    (fresh : self.store.tables.IsFresh (environment.idFactory self.idReads)) :
    let claimed := self.store.tables.HeldBy sessionId (canonicalRequestId request.requestId) ∨
      self.store.tables.HeldByOther sessionId (canonicalRequestId request.requestId)
    let segment := handle environment (.processServerRequest request sessionId) self
    (claimed ∧ Refused sessionId request (-32600) "duplicate or inactive request" segment.2) ∨
      (¬ claimed ∧ Created sessionId segment) := by
  intro claimed segment
  by_cases held : claimed
  · obtain ⟨row, member, pending, same⟩ := claimed_iff.mpr held
    exact Or.inl ⟨held, refused_of_claimed admissible member pending same⟩
  · refine Or.inr ⟨held, created_of_unclaimed admissible fresh fun row member pending same => ?_⟩
    exact held (claimed_iff.mp ⟨row, member, pending, same⟩)

/-- Two requests that passed the checks have the same outcome when both or neither of
their ids are pending. -/
theorem sameAdmission_iff {first second : CodexOrchestrator × Except PyError Progress}
    {firstClaimed secondClaimed : Prop} {code : Int} {message : String}
    (firstOutcome : (firstClaimed ∧ Refused sessionId request code message first.2) ∨
      (¬ firstClaimed ∧ Created sessionId first))
    (secondOutcome : (secondClaimed ∧ Refused sessionId request code message second.2) ∨
      (¬ secondClaimed ∧ Created sessionId second)) :
    SameAdmission sessionId request first second ↔ (firstClaimed ↔ secondClaimed) := by
  rcases firstOutcome with ⟨firstHeld, firstRefused⟩ | ⟨firstFree, firstCreated⟩
  · rcases secondOutcome with ⟨secondHeld, secondRefused⟩ | ⟨secondFree, secondCreated⟩
    · exact iff_of_true (Or.inr ⟨code, message, firstRefused, secondRefused⟩)
        (iff_of_true firstHeld secondHeld)
    · refine iff_of_false ?_ fun same => secondFree (same.mp firstHeld)
      rintro (⟨created, _⟩ | ⟨_, _, _, refused⟩)
      · exact not_created_of_refused firstRefused created
      · exact not_created_of_refused refused secondCreated
  · rcases secondOutcome with ⟨secondHeld, secondRefused⟩ | ⟨secondFree, secondCreated⟩
    · refine iff_of_false ?_ fun same => firstFree (same.mpr secondHeld)
      rintro (⟨_, created⟩ | ⟨_, _, refused, _⟩)
      · exact not_created_of_refused secondRefused created
      · exact not_created_of_refused refused firstCreated
    · exact iff_of_true (Or.inl ⟨firstCreated, secondCreated⟩) (iff_of_false firstFree secondFree)

end Admission

/-- In two states that agree on a session, reachable or not, a request of the session
has the same outcome if and only if a check refuses it, its id is pending in the session
itself, or it is pending in another session in both states or in neither. -/
theorem admission_agrees_iff {left right : Environment} {first second : CodexOrchestrator}
    {sessionId : String} (agree : AgreeOn sessionId first second)
    (leftFresh : first.store.tables.IsFresh (left.idFactory first.idReads))
    (rightFresh : second.store.tables.IsFresh (right.idFactory second.idReads))
    (request : ServerRequest) :
    SameAdmission sessionId request
        (handle left (.processServerRequest request sessionId) first)
        (handle right (.processServerRequest request sessionId) second) ↔
      (∀ session kind, ¬ Admissible first request (some sessionId) session kind) ∨
        first.store.tables.HeldBy sessionId (canonicalRequestId request.requestId) ∨
        (first.store.tables.HeldByOther sessionId (canonicalRequestId request.requestId) ↔
          second.store.tables.HeldByOther sessionId (canonicalRequestId request.requestId)) := by
  by_cases inadmissible : ∀ session kind, ¬ Admissible first request (some sessionId) session kind
  · exact iff_of_true (Or.inr (refused_of_not_admissible agree inadmissible)) (Or.inl inadmissible)
  simp only [not_forall, not_not] at inadmissible
  obtain ⟨session, kind, admissible⟩ := inadmissible
  rw [sameAdmission_iff (admissible_outcome admissible leftFresh)
    (admissible_outcome (admissible_of_agreeOn agree admissible) rightFresh), heldBy_iff agree]
  have passes : ¬ ∀ session kind, ¬ Admissible first request (some sessionId) session kind :=
    fun fails => fails session kind admissible
  tauto

/-- Two sessions are open. -/
def twoSessions : List Event :=
  [.call (.createInteractiveSession "first" "/work" none "workspace-write"),
    .call (.bindInteractiveThread "id-0" "thread-0" (some "turn-0")),
    .call (.createInteractiveSession "second" "/work" none "workspace-write"),
    .call (.bindInteractiveThread "id-1" "thread-1" (some "turn-1"))]

/-- An approval that the app-server of the first session asks for. -/
def firstSessionAsks : Event :=
  .call (.processServerRequest ⟨.int 1, "item/commandExecution/requestApproval",
    [("threadId", .str "thread-0"), ("turnId", .str "turn-0")]⟩ "id-0")

/-- An approval that the app-server of the second session asks for. -/
def secondSessionRequest (requestId : RequestId) : ServerRequest :=
  ⟨requestId, "item/commandExecution/requestApproval",
    [("threadId", .str "thread-1"), ("turnId", .str "turn-1")]⟩

/-- The row of the second session, as long as no request of it arrived. -/
def secondSession : CodexSession where
  id := "id-1"
  threadId := some "thread-1"
  turnId := some "turn-1"
  name := "second"
  cwd := "/work"
  model := none
  sandbox := "workspace-write"
  status := .running
  summary := ""
  createdAt := 3000000
  updatedAt := 4000000

/-- What the two states of a scenario agree on. -/
def SecondSessionIdle (self : CodexOrchestrator) : Prop :=
  self.store.tables.getSession "id-1" = some secondSession ∧
    (∀ row ∈ self.store.tables.interactions, row.sessionId ≠ "id-1") ∧
    "id-1" ∈ self.interactiveSessions ∧
    self.store.tables.IsFresh (tickingEnvironment.idFactory self.idReads)

instance (self : CodexOrchestrator) : Decidable (SecondSessionIdle self) :=
  inferInstanceAs (Decidable (_ ∧ _))

/-- Two states in which the second session is idle agree on it. -/
theorem agreeOn_of_idle {first second : CodexOrchestrator} (firstIdle : SecondSessionIdle first)
    (secondIdle : SecondSessionIdle second) : AgreeOn "id-1" first second where
  session_eq := firstIdle.1.trans secondIdle.1.symm
  interactions row own := iff_of_false (fun member => firstIdle.2.1 row member own)
    fun member => secondIdle.2.1 row member own
  interactive := iff_of_true firstIdle.2.2.1 secondIdle.2.2.1

/-- A returned value, so no error. -/
def hasReturned : Except PyError Progress → Bool
  | .ok (.returned _) => true
  | _ => false

/-- The pending request 1 of the first session makes request 1 of the second a duplicate. -/
theorem foreign_request_refuses : ∃ first second : Runtime,
    (orchestratorSystem tickingEnvironment).Reachable first ∧
      (orchestratorSystem tickingEnvironment).Reachable second ∧
      AgreeOn "id-1" first.orchestrator second.orchestrator ∧
      first.orchestrator.store.tables.IsFresh
        (tickingEnvironment.idFactory first.orchestrator.idReads) ∧
      second.orchestrator.store.tables.IsFresh
        (tickingEnvironment.idFactory second.orchestrator.idReads) ∧
      ¬ SameAdmission "id-1" (secondSessionRequest (.int 1))
        (handle tickingEnvironment (.processServerRequest (secondSessionRequest (.int 1)) "id-1")
          first.orchestrator)
        (handle tickingEnvironment (.processServerRequest (secondSessionRequest (.int 1)) "id-1")
          second.orchestrator) := by
  have before : ∃ runtime, (orchestratorSystem tickingEnvironment).Reachable runtime ∧
      (SecondSessionIdle runtime.orchestrator ∧ hasReturned (handle tickingEnvironment
        (.processServerRequest (secondSessionRequest (.int 1)) "id-1")
        runtime.orchestrator).2 = true) :=
    reachable_of_scenario (fun _ _ => true) twoSessions (fun _ _ _ => trivial) (by decide +kernel)
  have after : ∃ runtime, (orchestratorSystem tickingEnvironment).Reachable runtime ∧
      (SecondSessionIdle runtime.orchestrator ∧ (handle tickingEnvironment
        (.processServerRequest (secondSessionRequest (.int 1)) "id-1") runtime.orchestrator).2 =
        .ok (.await (.respondError (.gateway "id-1") (.int 1) (-32600)
          "duplicate or inactive request") (.requestError false))) :=
    reachable_of_scenario (fun _ _ => true) (twoSessions ++ [firstSessionAsks])
      (fun _ _ _ => trivial) (by decide +kernel)
  obtain ⟨first, firstReachable, firstIdle, created⟩ := before
  obtain ⟨second, secondReachable, secondIdle, refused⟩ := after
  refine ⟨first, second, firstReachable, secondReachable, agreeOn_of_idle firstIdle secondIdle,
    firstIdle.2.2.2, secondIdle.2.2.2, ?_⟩
  rintro (⟨_, admitted⟩ | ⟨_, _, firstRefused, _⟩)
  · have refusal : Refused "id-1" (secondSessionRequest (.int 1)) (-32600)
        "duplicate or inactive request" _ := refused
    exact not_created_of_refused refusal admitted
  · rw [firstRefused] at created
    cases created

/-- Request 2 of the second session is admitted whether request 1 of the first is
pending or not. -/
theorem foreign_request_apart : ∃ first second : Runtime,
    first.orchestrator.store.tables.interactions = [] ∧
      second.orchestrator.store.tables.interactions.map PendingInteraction.requestId = ["1"] ∧
      SameAdmission "id-1" (secondSessionRequest (.int 2))
        (handle tickingEnvironment (.processServerRequest (secondSessionRequest (.int 2)) "id-1")
          first.orchestrator)
        (handle tickingEnvironment (.processServerRequest (secondSessionRequest (.int 2)) "id-1")
          second.orchestrator) := by
  have before : ∃ runtime, (orchestratorSystem tickingEnvironment).Reachable runtime ∧
      (SecondSessionIdle runtime.orchestrator ∧
        runtime.orchestrator.store.tables.interactions = []) :=
    reachable_of_scenario (fun _ _ => true) twoSessions (fun _ _ _ => trivial) (by decide +kernel)
  have after : ∃ runtime, (orchestratorSystem tickingEnvironment).Reachable runtime ∧
      (SecondSessionIdle runtime.orchestrator ∧
        runtime.orchestrator.store.tables.interactions.map PendingInteraction.requestId =
          ["1"]) :=
    reachable_of_scenario (fun _ _ => true) (twoSessions ++ [firstSessionAsks])
      (fun _ _ _ => trivial) (by decide +kernel)
  obtain ⟨first, _, firstIdle, none⟩ := before
  obtain ⟨second, _, secondIdle, one⟩ := after
  have apart : ∀ tables : CodexTables,
      tables.interactions.map PendingInteraction.requestId = ["1"] ∨ tables.interactions = [] →
      ¬ tables.HeldByOther "id-1" (canonicalRequestId (.int 2)) := by
    rintro tables requested ⟨row, member, _, held, _⟩
    have inside : row.requestId ∈ tables.interactions.map PendingInteraction.requestId :=
      List.mem_map_of_mem member
    rw [held] at inside
    rcases requested with one | none
    · rw [one] at inside
      exact absurd inside (by decide)
    · rw [none] at member
      exact absurd member List.not_mem_nil
  refine ⟨first, second, none, one, (admission_agrees_iff (agreeOn_of_idle firstIdle secondIdle)
    firstIdle.2.2.2 secondIdle.2.2.2 _).mpr (Or.inr (Or.inr ?_))⟩
  exact iff_of_false (apart _ (Or.inr none)) (apart _ (Or.inl one))

end LarkBot
