import LarkBot.Codex.Orchestrator.Runtime

/-! # The live map and the store

The keys of the live map are the ids of the pending interactions
(`LarkBot.Core.LiveMatches`). Every core action keeps the two together but one:
a session that fails during its startup is ended with what waits for it, and the
live entries stay behind. A run in which nothing waits for a session at the
moment its startup fails keeps the agreement.
-/

namespace LarkBot

open Foundation

namespace CodexTables

variable {tables after : CodexTables}

/-- An interaction with this id is pending. -/
def Waits (tables : CodexTables) (interactionId : String) : Prop :=
  ∃ row ∈ tables.interactions, row.id = interactionId ∧ row.isPending

/-- What still waits after an update that settles what it selects. -/
theorem waits_updateWhere {selected : PendingInteraction → Bool}
    {change : PendingInteraction → PendingInteraction}
    (rows : after.interactions = updateWhere selected change tables.interactions)
    (settles : ∀ row, (change row).isPending = false) {interactionId : String} :
    after.Waits interactionId ↔ ∃ row ∈ tables.interactions, row.id = interactionId ∧
      row.isPending ∧ selected row = false := by
  unfold Waits
  rw [rows]
  constructor
  · rintro ⟨row, member, rfl, pending⟩
    obtain ⟨old, oldMem, rfl⟩ := mem_updateWhere.mp member
    by_cases chosen : selected old
    · simp only [chosen, ↓reduceIte, settles, Bool.false_eq_true] at pending
    · simp only [chosen, Bool.false_eq_true, ↓reduceIte] at pending ⊢
      exact ⟨old, oldMem, rfl, pending, Bool.not_eq_true _ ▸ chosen⟩
  · rintro ⟨row, member, rfl, pending, unselected⟩
    exact ⟨row, mem_updateWhere_of_unselected member unselected, rfl, pending⟩

/-- What waits is read off the interactions alone. -/
theorem waits_of_eq (rows : after.interactions = tables.interactions) {interactionId : String} :
    after.Waits interactionId ↔ tables.Waits interactionId := by
  unfold Waits
  rw [rows]

/-- After one interaction was claimed, the others still wait. -/
theorem Claimed.waits {row : PendingInteraction} {change : PendingInteraction → PendingInteraction}
    {updatedAt : Instant} (claimed : tables.Claimed row change updatedAt after)
    (settles : ∀ row, (change row).isPending = false) {interactionId : String} :
    after.Waits interactionId ↔ tables.Waits interactionId ∧ interactionId ≠ row.id := by
  rw [waits_updateWhere claimed.interactions settles]
  constructor
  · rintro ⟨other, member, rfl, pending, unselected⟩
    refine ⟨⟨other, member, rfl, pending⟩, fun same => ?_⟩
    simp only [same, beq_self_eq_true, pending, Bool.and_self, Bool.true_eq_false] at unselected
  · rintro ⟨⟨other, member, rfl, pending⟩, different⟩
    refine ⟨other, member, rfl, pending, ?_⟩
    simp only [beq_eq_false_iff_ne.mpr different, Bool.false_and]

/-- After what waits for a session was closed, the rest still waits. -/
theorem closed_waits {sessionId : String} {status : InteractionStatus} {resolvedAt : Instant}
    (settled : status ≠ .pending)
    (rows : after.interactions = closed sessionId status resolvedAt tables.interactions)
    {interactionId : String} :
    after.Waits interactionId ↔ ∃ row ∈ tables.interactions, row.id = interactionId ∧
      row.isPending ∧ row.sessionId ≠ sessionId := by
  rw [waits_updateWhere rows fun row => beq_eq_false_iff_ne.mpr settled]
  constructor
  · rintro ⟨row, member, rfl, pending, unselected⟩
    refine ⟨row, member, rfl, pending, fun same => ?_⟩
    simp only [same, beq_self_eq_true, pending, Bool.and_self, Bool.true_eq_false] at unselected
  · rintro ⟨row, member, rfl, pending, different⟩
    refine ⟨row, member, rfl, pending, ?_⟩
    simp only [beq_eq_false_iff_ne.mpr different, Bool.false_and]

/-- Attaching the id of a Lark message settles nothing that waits. -/
theorem attachLarkMessageId_waits {interactionId messageId other : String} :
    (tables.attachLarkMessageId interactionId messageId).2.Waits other ↔ tables.Waits other := by
  unfold Waits
  constructor
  · rintro ⟨row, member, rfl, pending⟩
    obtain ⟨old, oldMem, rfl⟩ := mem_updateWhere.mp member
    refine ⟨old, oldMem, ?_, ?_⟩
    · split <;> rfl
    · split at pending
      next => exact pending
      next => exact pending
  · rintro ⟨row, member, rfl, pending⟩
    refine ⟨_, mem_updateWhere.mpr ⟨row, member, rfl⟩, ?_, ?_⟩
    · split <;> rfl
    · split
      next => exact pending
      next => exact pending

end CodexTables

namespace Core

variable {core : Core}

/-- The live entries are those of the pending interactions. -/
structure LiveMatches (core : Core) : Prop where
  rows : core.LiveRows
  keys : ∀ interactionId, interactionId ∈ core.live.keys ↔ core.tables.Waits interactionId

/-- The entries after a pop are all but the popped one. -/
theorem mem_keys_pop {live : Dict String LiveInteraction} {interactionId key : String} :
    key ∈ (live.pop interactionId).keys ↔ key ∈ live.keys ∧ key ≠ interactionId := by
  simp only [Dict.mem_keys, Dict.mem_pop, exists_and_right]

/-- Dropping the entries of a session drops what waits for it. -/
theorem LiveMatches.drop (matching : core.LiveMatches) {sessionId key : String} :
    key ∈ (dropLiveForSession sessionId core.live).keys ↔ ∃ row ∈ core.tables.interactions,
      row.id = key ∧ row.isPending ∧ row.sessionId ≠ sessionId := by
  have kept : ∀ entry : String × LiveInteraction,
      entry ∈ (dropLiveForSession sessionId core.live).entries ↔
        entry ∈ core.live.entries ∧ entry.2.interaction.sessionId ≠ sessionId := by
    intro entry
    simp only [dropLiveForSession, Dict.mem_filter, Bool.not_eq_true', beq_eq_false_iff_ne]
  rw [Dict.mem_keys]
  constructor
  · rintro ⟨live, member⟩
    obtain ⟨old, other⟩ := (kept _).mp member
    obtain ⟨row, rowMem, sameId, pending⟩ :=
      (matching.keys key).mp (Dict.mem_keys.mpr ⟨live, old⟩)
    have rowOf := (matching.rows _ old).rowOf rowMem sameId
    exact ⟨row, rowMem, sameId, pending, rowOf.sessionId_eq ▸ other⟩
  · rintro ⟨row, rowMem, rfl, pending, other⟩
    obtain ⟨live, old⟩ := Dict.mem_keys.mp ((matching.keys row.id).mpr ⟨row, rowMem, rfl, pending⟩)
    have rowOf := (matching.rows _ old).rowOf rowMem rfl
    exact ⟨live, (kept _).mpr ⟨old, rowOf.sessionId_eq ▸ other⟩⟩

/-- No interaction waits for a session whose startup fails. -/
def FailsIdle (core : Core) : CoreAction → Prop
  | .failStartup sessionId _ _ => core.tables.NothingWaits sessionId
  | _ => True

/-- One action keeps the live map and the store together. -/
theorem LiveMatches.perform (matching : core.LiveMatches) {action : CoreAction}
    (wellFormed : action.WellFormed) (idle : core.FailsIdle action) :
    (core.perform action).LiveMatches := by
  refine ⟨matching.rows.perform wellFormed, fun key => ?_⟩
  cases action with
  | createSession session =>
      simp only [Core.perform]
      split
      next created =>
        obtain ⟨_, _, interactions⟩ := CodexTables.insertSession_ok created
        rw [CodexTables.waits_of_eq interactions]
        exact matching.keys key
      next => exact matching.keys key
  | hostSession | releaseSession => exact matching.keys key
  | updateSession => exact matching.keys key
  | admitInteraction live status updatedAt =>
      simp only [Core.perform]
      split
      next tables created =>
        obtain ⟨_, _, _, _, _, interactions⟩ :=
          CodexTables.createInteractionAndMarkWaiting_true created
        have waits : tables.Waits key ↔ core.tables.Waits key ∨ key = live.interaction.id := by
          unfold CodexTables.Waits
          simp only [interactions, List.mem_append, List.mem_singleton, or_and_right, exists_or,
            exists_eq_left]
          refine or_congr Iff.rfl ⟨fun found => found.1.symm, fun same =>
            ⟨same.symm, wellFormed.isPending⟩⟩
        rw [waits, ← matching.keys key, Dict.mem_keys, Dict.mem_keys]
        simp only [Dict.mem_set, Prod.mk.injEq, exists_or, exists_and_right]
        constructor
        · rintro (⟨_, rfl, rfl⟩ | ⟨old, _⟩)
          · exact Or.inr rfl
          · exact Or.inl old
        · rintro (old | rfl)
          · by_cases same : key = live.interaction.id
            · exact Or.inl ⟨live, same, rfl⟩
            · exact Or.inr ⟨old, same⟩
          · exact Or.inl ⟨live, rfl, rfl⟩
      next => exact matching.keys key
  | claim interactionId decision actorId updatedAt status =>
      simp only [Core.perform]
      split
      next claimed =>
        obtain ⟨row, normalized, rfl, settled, _, claimed⟩ :=
          CodexTables.resolveInteractionAndRefreshSession_true claimed
        rw [mem_keys_pop, matching.keys, claimed.waits]
        intro row
        rcases settled with rfl | rfl <;> rfl
      next => exact matching.keys key
  | cancel interactionId updatedAt =>
      simp only [Core.perform]
      rw [mem_keys_pop, matching.keys]
      cases done : core.tables.cancelInteractionAndRefreshSession interactionId updatedAt with
      | mk won tables =>
          cases won with
          | true =>
              obtain ⟨row, rfl, claimed⟩ :=
                CodexTables.cancelInteractionAndRefreshSession_true done
              rw [claimed.waits fun _ => rfl]
          | false =>
              obtain ⟨rfl, settled⟩ := CodexTables.cancelInteractionAndRefreshSession_false done
              apply and_iff_left_of_imp
              rintro ⟨row, member, rfl, pending⟩ rfl
              exact settled row ⟨member, rfl, pending⟩
  | endSession sessionId status summary updatedAt =>
      simp only [Core.perform]
      split
      next ended =>
        obtain ⟨_, _, _, _, _, interactions⟩ := CodexTables.claimSessionTerminal_some ended
        rw [matching.drop, CodexTables.closed_waits (by decide) interactions]
      next => exact matching.keys key
  | failStartup sessionId summary updatedAt =>
      simp only [Core.perform]
      split
      next ended =>
        obtain ⟨_, _, _, _, _, interactions⟩ := CodexTables.claimSessionTerminal_some ended
        rw [matching.keys, CodexTables.closed_waits (by decide) interactions]
        constructor
        · rintro ⟨row, member, same, pending⟩
          exact ⟨row, member, same, pending, idle row member pending⟩
        · rintro ⟨row, member, same, pending, _⟩
          exact ⟨row, member, same, pending⟩
      next => exact matching.keys key
  | finishTurn sessionId turnId summary updatedAt =>
      simp only [Core.perform]
      split
      next finished =>
        obtain ⟨_, _, _, interactions⟩ := CodexTables.finishInteractiveTurn_some finished
        rw [matching.drop, CodexTables.closed_waits (by decide) interactions]
      next => exact matching.keys key
  | attachLarkMessageId interactionId messageId =>
      simp only [Core.perform]
      rw [CodexTables.attachLarkMessageId_waits]
      exact matching.keys key

/-- After a start nothing waits and nothing is live. -/
theorem Started.liveMatches (started : core.Started) : core.LiveMatches := by
  refine ⟨started.liveRows, fun key => iff_of_false ?_ ?_⟩
  · have empty : core.live.entries = [] := congrArg Dict.entries started.live
    simp only [Dict.keys, empty, List.map_nil, List.not_mem_nil, not_false_eq_true]
  · rintro ⟨row, member, _, pending⟩
    rw [started.settled row member] at pending
    cases pending

end Core

/-- The event lets no session fail during its startup while an interaction waits for it. -/
def FailsNoWaitingSession (runtime : Runtime) (event : Event) : Prop :=
  ∀ task reply suspended, event = .reply task reply →
    runtime.tasks.get? task = some suspended →
    ∀ sessionId, suspended.frame.FailsStartup runtime.orchestrator.store.tables reply sessionId →
      runtime.orchestrator.store.tables.NothingWaits sessionId

/-- In every run in which no startup fails while an interaction waits for its
session, the keys of the live map are the ids of the pending interactions. -/
theorem live_keys_iff_pending {environment : Environment} {runtime : Runtime}
    (reachable : (orchestratorSystem environment).ReachableVia FailsNoWaitingSession runtime)
    (interactionId : String) :
    interactionId ∈ runtime.orchestrator.live.keys ↔
      ∃ row ∈ runtime.orchestrator.store.tables.interactions,
        row.id = interactionId ∧ row.isPending := by
  have matching : runtime.orchestrator.core.LiveMatches := by
    refine reachable_core reachable Core.LiveMatches Core.FailsIdle
      (fun _ => Core.Started.liveMatches) ?_
      fun _ _ holds wellFormed idle => holds.perform wellFormed idle
    intro before event _ allowed core action performs
    cases action with
    | failStartup sessionId summary updatedAt =>
        obtain ⟨rfl, task, reply, suspended, rfl, found, fails⟩ :=
          Runtime.performs_failStartup performs
        exact allowed task reply suspended rfl found sessionId fails
    | _ => trivial
  exact matching.keys interactionId

/-- A request of a managed session arrives while its first turn is being started. -/
def requestDuringStartup : List Event :=
  [.call (.createSession "name" "/work" "prompt" none "workspace-write"),
    .reply 0 (.returned "thread" true),
    .call (.consumeRequest ⟨.int 1, "item/commandExecution/requestApproval",
      [("threadId", .str "thread")]⟩)]

/-- The live entry of a request outlives the session when `start_turn` then fails. -/
theorem failed_startup_leaves_live_entry : ∃ runtime,
    (orchestratorSystem tickingEnvironment).Reachable runtime ∧
      ("id-1" ∈ runtime.orchestrator.live.keys ∧
        ¬∃ row ∈ runtime.orchestrator.store.tables.interactions,
          row.id = "id-1" ∧ row.isPending) :=
  reachable_of_scenario (fun _ _ => true)
    (requestDuringStartup ++ [.reply 0 (.raised (runtimeError "app-server stopped"))])
    (fun _ _ _ => trivial) (by decide)

/-- Before `start_turn` returned, the request is pending and live. -/
theorem live_keys_iff_pending_during_startup : ∃ runtime : Runtime,
    "id-1" ∈ runtime.orchestrator.live.keys ∧
      ∀ interactionId, interactionId ∈ runtime.orchestrator.live.keys ↔
        ∃ row ∈ runtime.orchestrator.store.tables.interactions,
          row.id = interactionId ∧ row.isPending := by
  have reached : ∃ runtime,
      (orchestratorSystem tickingEnvironment).ReachableVia FailsNoWaitingSession runtime ∧
        "id-1" ∈ runtime.orchestrator.live.keys := by
    refine reachable_of_scenario
      (fun runtime _ => runtime.orchestrator.store.tables.interactions = [])
      requestDuringStartup ?_ (by decide)
    intro runtime event nothing task reply suspended _ _ sessionId _ row member
    rw [of_decide_eq_true nothing] at member
    cases member
  obtain ⟨runtime, reachable, live⟩ := reached
  exact ⟨runtime, live, live_keys_iff_pending reachable⟩

end LarkBot
