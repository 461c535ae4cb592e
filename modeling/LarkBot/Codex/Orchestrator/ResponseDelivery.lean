import LarkBot.Codex.Orchestrator.Outcomes
import LarkBot.Codex.Orchestrator.Runtime

/-! # A claimed request is answered

Only a claim records a decision, and the segment that claims a row goes on with
the one answer to its request (`LarkBot.Claims`). An expiring user input gets no
answer; its session is interrupted instead. One claim can fail to be followed by
either: an expired permission request whose `permissions` are no object raises
while its denial is built. A run without such an expiry leaves no claimed request
of an active session unanswered.
-/

namespace LarkBot

open Foundation

/-- The row was claimed with a decision. -/
def PendingInteraction.IsDecided (row : PendingInteraction) : Prop :=
  row.status = .resolved ∨ row.status = .expired

instance (row : PendingInteraction) : Decidable row.IsDecided :=
  inferInstanceAs (Decidable (_ ∨ _))

/-- A row with a decision is no longer pending. -/
theorem PendingInteraction.IsDecided.isPending {row : PendingInteraction}
    (decided : row.IsDecided) : row.isPending = false := by
  unfold PendingInteraction.isPending
  rcases decided with decided | decided <;> rw [decided] <;> rfl

/-- The interaction that an action records a decision for. -/
def CoreAction.claims : CoreAction → Option String
  | .claim interactionId _ _ _ _ => some interactionId
  | _ => none

namespace Core

variable {core : Core}

/-- Closing rows decides nothing. -/
theorem decided_of_closed {tables after : CodexTables} {selected : PendingInteraction → Bool}
    {updatedAt : Instant}
    (rows : after.interactions =
      updateWhere selected (CodexTables.close .cancelled updatedAt) tables.interactions)
    {row : PendingInteraction} (member : row ∈ after.interactions) (decided : row.IsDecided) :
    row ∈ tables.interactions := by
  obtain ⟨old, oldMem, rfl⟩ := mem_updateWhere.mp (rows ▸ member)
  split at decided
  next =>
    rcases decided with decided | decided <;> cases decided
  next unselected =>
    rw [if_neg unselected]
    exact oldMem

/-- A row that is decided after an action was decided before, or was just claimed. -/
theorem decided_of_perform {action : CoreAction} (wellFormed : action.WellFormed)
    {row : PendingInteraction} (member : row ∈ (core.perform action).tables.interactions)
    (decided : row.IsDecided) :
    row ∈ core.tables.interactions ∨ action.claims = some row.id := by
  cases action with
  | createSession session =>
      simp only [perform] at member
      split at member
      next created =>
        exact Or.inl ((CodexTables.insertSession_ok created).2.2 ▸ member)
      next => exact Or.inl member
  | hostSession | releaseSession | updateSession => exact Or.inl member
  | admitInteraction live status updatedAt =>
      simp only [perform] at member
      split at member
      next created =>
        obtain ⟨_, _, _, _, _, interactions⟩ :=
          CodexTables.createInteractionAndMarkWaiting_true created
        rcases List.mem_append.mp (interactions ▸ member) with old | new
        · exact Or.inl old
        · have pending : row.isPending := List.mem_singleton.mp new ▸ wellFormed.isPending
          rw [decided.isPending] at pending
          cases pending
      next => exact Or.inl member
  | claim interactionId decision actorId updatedAt status =>
      simp only [perform] at member
      split at member
      next claimed =>
        obtain ⟨found, normalized, rfl, _, _, claimed⟩ :=
          CodexTables.resolveInteractionAndRefreshSession_true claimed
        obtain ⟨old, oldMem, same⟩ := mem_updateWhere.mp (claimed.interactions ▸ member)
        split at same
        next chosen =>
          have sameId : old.id = found.id := beq_iff_eq.mp ((Bool.and_eq_true _ _).mp chosen).1
          exact Or.inr (congrArg some (sameId.symm.trans (same ▸ rfl)))
        next => exact Or.inl (same ▸ oldMem)
      next => exact Or.inl member
  | cancel interactionId updatedAt =>
      simp only [perform] at member
      cases done : core.tables.cancelInteractionAndRefreshSession interactionId updatedAt with
      | mk won tables =>
          rw [done] at member
          cases won with
          | true =>
              obtain ⟨_, _, claimed⟩ := CodexTables.cancelInteractionAndRefreshSession_true done
              exact Or.inl (decided_of_closed claimed.interactions member decided)
          | false =>
              obtain ⟨rfl, _⟩ := CodexTables.cancelInteractionAndRefreshSession_false done
              exact Or.inl member
  | endSession sessionId status summary updatedAt =>
      simp only [perform] at member
      split at member
      next ended =>
        obtain ⟨_, _, _, _, _, interactions⟩ := CodexTables.claimSessionTerminal_some ended
        exact Or.inl (decided_of_closed interactions member decided)
      next => exact Or.inl member
  | failStartup sessionId summary updatedAt =>
      simp only [perform] at member
      split at member
      next ended =>
        obtain ⟨_, _, _, _, _, interactions⟩ := CodexTables.claimSessionTerminal_some ended
        exact Or.inl (decided_of_closed interactions member decided)
      next => exact Or.inl member
  | finishTurn sessionId turnId summary updatedAt =>
      simp only [perform] at member
      split at member
      next finished =>
        obtain ⟨_, _, _, interactions⟩ := CodexTables.finishInteractiveTurn_some finished
        exact Or.inl (decided_of_closed interactions member decided)
      next => exact Or.inl member
  | attachLarkMessageId interactionId messageId =>
      obtain ⟨old, oldMem, same⟩ := mem_updateWhere.mp member
      split at same
      next chosen =>
        have pending : row.isPending := by
          rw [← same]
          exact ((Bool.and_eq_true _ _).mp ((Bool.and_eq_true _ _).mp chosen).1).2
        rw [decided.isPending] at pending
        cases pending
      next => exact Or.inl (same ▸ oldMem)

/-- Actions that claim nothing decide nothing. -/
theorem decided_of_reachesVia {guard : Core → CoreAction → Prop} {after : Core}
    (reached : coreSystem.ReachesVia guard core after)
    (wellFormed : ∀ core action, guard core action → action.WellFormed ∧ action.claims = none)
    {row : PendingInteraction} (member : row ∈ after.tables.interactions)
    (decided : row.IsDecided) : row ∈ core.tables.interactions := by
  refine reached.invariant (fun after => row ∈ after.tables.interactions →
    row ∈ core.tables.interactions) id ?_ member
  rintro before action _ backwards allowed rfl present
  obtain ⟨formed, unclaimed⟩ := wellFormed before action allowed
  rcases decided_of_perform formed present decided with old | claimed
  · exact backwards old
  · rw [unclaimed] at claimed
    cases claimed

/-- A pending row was claimed. -/
structure Claims (core : Core) (interactionId : String) (after : Core) : Prop where
  pending : ∃ row, core.tables.IsPendingRow interactionId row
  settled : ∃ row ∈ after.tables.interactions, row.id = interactionId ∧ row.isPending = false
  persists : core.tables.Persists after.tables
  liveRows : core.LiveRows → after.LiveRows
  decided : ∀ row ∈ after.tables.interactions, row.IsDecided →
    row ∈ core.tables.interactions ∨ row.id = interactionId

/-- A resolution that won claimed its pending row. -/
theorem claims_of_won {interactionId decision actorId : String} {updatedAt : Instant}
    {status : InteractionStatus} {tables : CodexTables}
    (won : core.tables.resolveInteractionAndRefreshSession interactionId decision actorId
      updatedAt status = .ok (true, tables)) :
    core.Claims interactionId
      ⟨tables, core.live.pop interactionId, core.interactiveSessions⟩ := by
  have performed := core.perform_claim won
  obtain ⟨row, normalized, rfl, settled, _, claimed⟩ :=
    CodexTables.resolveInteractionAndRefreshSession_true won
  have wellFormed : (CoreAction.claim row.id decision actorId updatedAt status).WellFormed :=
    trivial
  refine ⟨⟨row, claimed.isPendingRow⟩, ?_, ?_, fun rows => ?_, ?_⟩
  · have chosen : (row.id == row.id && row.isPending) = true := by
      simp only [beq_self_eq_true, claimed.isPendingRow.2.2, Bool.and_self]
    refine ⟨CodexTables.resolve status normalized actorId updatedAt row, ?_, rfl, ?_⟩
    · rw [claimed.interactions]
      exact mem_updateWhere_of_selected claimed.isPendingRow.1 chosen
    · rcases settled with rfl | rfl <;> rfl
  · exact performed ▸ core.perform_persists _
  · exact performed ▸ rows.perform wellFormed
  · intro other member decided
    rcases decided_of_perform wellFormed (performed ▸ member) decided with old | claims
    · exact Or.inl old
    · exact Or.inr (Option.some.inj claims).symm

end Core

section Claims

variable {environment : Environment} {self : CodexOrchestrator}

/-- A resolver loses, or claims the row and awaits its answer. -/
theorem claimAndRespond_claims {live : LiveInteraction} {interactionId decision actorId : String}
    {response : Json} :
    (claimAndRespond environment live interactionId response decision actorId).Ends self
      fun after outcome =>
        after.core = self.core ∧ Runtime.awaited outcome = [] ∧
            (∀ progress, outcome = .ok progress → ∃ value, progress = .returned value) ∨
          self.core.Claims interactionId after.core ∧
            outcome = .ok (.await (.respond live response) (.resolve live decision)) := by
  unfold claimAndRespond
  simp only [ends_utcNow_bind, ends_storeOrRaise_bind]
  split
  next won tables done =>
    cases won with
    | false =>
        obtain ⟨rfl, _⟩ := CodexTables.resolveInteractionAndRefreshSession_false done
        refine Or.inl ⟨rfl, rfl, ?_⟩
        rintro _ ⟨⟩
        exact ⟨_, rfl⟩
    | true => exact Or.inr ⟨Core.claims_of_won done, rfl⟩
  next =>
    refine Or.inl ⟨rfl, rfl, ?_⟩
    rintro _ ⟨⟩

/-- Interrupting a stored session ends it. -/
theorem interruptSession_ended {sessionId summary : String}
    (stored : ∃ session ∈ self.store.tables.sessions, session.id = sessionId) :
    (interruptSession environment sessionId summary).Ends self
      fun after _ => after.store.tables.Ended sessionId := by
  obtain ⟨session, member, same⟩ := stored
  have found := CodexTables.getSession_eq_some.mpr ⟨member, same⟩
  unfold interruptSession
  simp only [ends_getSession_bind, found]
  split
  next inactive =>
    refine ⟨session, member, same, ?_⟩
    rw [SessionStatus.isTerminal_eq_not_isActive]
    exact inactive
  next active =>
    simp only [ends_utcNow_bind, ends_storeOrRaise_bind]
    split
    next ids tables done =>
      cases ids with
      | none =>
          obtain ⟨_, inactive⟩ := CodexTables.claimSessionTerminal_none done
          rw [inactive session member same] at active
          exact absurd rfl active
      | some ids =>
          have ended : tables.Ended sessionId := CodexTables.claimSessionTerminal_ended done
          have kept : ∀ after : CodexOrchestrator,
              after.core = ⟨tables, dropLiveForSession sessionId self.live,
                self.interactiveSessions⟩ → after.store.tables.Ended sessionId := by
            intro after sameCore
            have sameTables : after.store.tables = tables := congrArg Core.tables sameCore
            exact sameTables ▸ ended
          simp only [Code.ends_modify_bind]
          exact ends_emit_bind (fun after _ sameCore => kept after sameCore)
            fun after sameCore => kept after sameCore
    next raised =>
      exact absurd raised (CodexTables.claimSessionTerminal_ne_error rfl (Or.inr rfl))

/-- The denial of a request can be built: permissions, if they are given, are an object. -/
def Deniable (live : LiveInteraction) : Prop :=
  live.interaction.kind = .permissionRequest →
    ∀ permissions, dictGet live.request.params "permissions" = some permissions →
      ∃ fields, permissions = .obj fields

/-- A denial grants nothing, so it has nothing to copy. -/
theorem denialResponse_of_deniable {copyDepth : Nat} {live : LiveInteraction}
    (deniable : Deniable live) (approval : live.interaction.kind ≠ .userInput) :
    ∃ response, denialResponse copyDepth live.interaction.kind live.request.params =
      .ok response := by
  unfold denialResponse
  split
  next => exact ⟨_, rfl⟩
  next => exact ⟨_, rfl⟩
  next permission =>
    unfold permissionResponse
    cases given : dictGet live.request.params "permissions" with
    | none => exact ⟨_, rfl⟩
    | some permissions =>
        obtain ⟨fields, rfl⟩ := deniable permission permissions given
        exact ⟨_, rfl⟩
  next input => exact absurd input approval

/-- An action that records no decision. -/
def Unclaiming (_ : Core) (action : CoreAction) : Prop :=
  action.WellFormed ∧ action.claims = none

/-- How a claimed entry is answered: with its denial, or by interrupting its session. -/
inductive Answers (self : CodexOrchestrator) (interactionId : String) (live : LiveInteraction)
    (pass : ExpiryPass) (after : CodexOrchestrator) : Except PyError Progress → Prop
  | denied (response : Json) : after.core = self.core → Answers self interactionId live pass after
      (.ok (.await (.respond live response) (.expireRespond interactionId live pass)))
  | undeniable (error : PyError) : ¬ Deniable live → after.core = self.core →
      Answers self interactionId live pass after (.error error)
  | interrupting (threadId turnId : String) : after.core = self.core →
      Answers self interactionId live pass after
        (.ok (.await (.interruptTurn threadId turnId) (.expireInterrupt live pass)))
  | interrupted : coreSystem.ReachesVia Unclaiming self.core after.core →
      after.store.tables.Ended live.interaction.sessionId →
      Answers self interactionId live pass after (.ok (.proceed pass))
  | failed (error : PyError) : coreSystem.ReachesVia Unclaiming self.core after.core →
      after.store.tables.Ended live.interaction.sessionId →
      Answers self interactionId live pass after (.error error)

/-- A claimed entry is denied, or its session is interrupted. -/
theorem answerExpired_answers {interactionId : String} {live : LiveInteraction}
    {pass : ExpiryPass} (stored : ∃ session ∈ self.store.tables.sessions,
      session.id = live.interaction.sessionId) :
    (answerExpired environment interactionId live pass).Ends self
      (Answers self interactionId live pass) := by
  unfold answerExpired
  dsimp only
  split
  next input =>
    simp only [ends_getSession_bind]
    split
    next threadId turnId _ => exact .interrupting threadId turnId rfl
    next =>
      have moves : (interruptSession environment live.interaction.sessionId
          "user input request expired").Ends self (MovedFrom Unclaiming self.core) :=
        interruptSession_moves .refl fun _ => ⟨trivial, rfl⟩
      exact (moves.and (interruptSession_ended stored)).bind
        (fun _ _ reached => .interrupted reached.1 reached.2)
        fun _ error reached => .failed error reached.1 reached.2
  next approval =>
    rw [Code.ends_lift_bind]
    split
    next response _ => exact .denied response rfl
    next error undeniable =>
      refine .undeniable error (fun deniable => ?_) rfl
      obtain ⟨response, built⟩ := denialResponse_of_deniable deniable approval
      rw [undeniable] at built
      cases built

/-- One iteration of an expiry pass: it ends the pass, passes an entry over, or
claims a due entry and answers it. -/
inductive ExpiryPass.Iterates (self : CodexOrchestrator) (pass : ExpiryPass)
    (after : CodexOrchestrator) : Except PyError Progress → Prop
  | finished (value : Value) : after.core = self.core → Iterates self pass after
      (.ok (.returned value))
  | raised (error : PyError) : after.core = self.core → Iterates self pass after (.error error)
  | passedOver (entry : String × LiveInteraction) (rest : List (String × LiveInteraction)) :
      pass.rest = entry :: rest → after.core = self.core →
      Iterates self pass after (.ok (.proceed { pass with rest }))
  | claimed (interactionId : String) (live : LiveInteraction)
      (rest : List (String × LiveInteraction)) (middle : CodexOrchestrator)
      (outcome : Except PyError Progress) : pass.rest = (interactionId, live) :: rest →
      live.interaction.expiresAt ≤ pass.currentTime →
      self.core.Claims interactionId middle.core →
      Answers middle interactionId live
        { pass with rest, expired := pass.expired ++ [interactionId] } after outcome →
      Iterates self pass after outcome

/-- An iteration of a pass ends it, passes an entry over, or claims and answers a due
entry. -/
theorem expireNext_iterates {pass : ExpiryPass} (stored : ∀ entry ∈ pass.rest,
      entry.2.StoredAs self.store.tables entry.1) :
    (expireNext environment pass).Ends self (pass.Iterates self) := by
  unfold expireNext
  split
  next => exact .finished _ rfl
  next interactionId live rest head =>
    dsimp only
    split
    next => exact .passedOver (interactionId, live) rest head rfl
    next due =>
      rw [Code.ends_lift_bind]
      split
      next =>
        simp only [ends_storeOrRaise_bind]
        split
        next won tables done =>
          cases won with
          | false =>
              obtain ⟨rfl, _⟩ := CodexTables.resolveInteractionAndRefreshSession_false done
              exact .passedOver (interactionId, live) rest head rfl
          | true =>
              simp only [↓reduceIte, popLive, Code.ends_modify_bind]
              have claims : self.core.Claims interactionId
                  ⟨tables, self.live.pop interactionId, self.interactiveSessions⟩ :=
                Core.claims_of_won done
              have entry := stored (interactionId, live) (head ▸ List.mem_cons_self ..)
              obtain ⟨row, rowMem, rowOf⟩ := (claims.persists.stored _ _ entry).row
              obtain ⟨owner, ownerMem, owns⟩ := tables.interactionSessions row rowMem
              have owned := owns.trans rowOf.sessionId_eq
              apply (answerExpired_answers ⟨owner, ownerMem, owned⟩).mono
              intro _ _ answered
              refine .claimed interactionId live rest _ _ head (not_lt.mp due) ?_ answered
              exact claims
        next => exact .raised _ rfl
      next => exact .raised _ rfl

end Claims

/-- The call answers the request of this interaction. -/
def ExternalCall.answers (interactionId : String) : ExternalCall → Bool
  | .respond live _ => live.interaction.id == interactionId
  | _ => false

/-- The entries that an expiry pass still has to look at are stored. -/
def ExpiryPass.StoredIn (tables : CodexTables) (pass : ExpiryPass) : Prop :=
  ∀ entry ∈ pass.rest, entry.2.StoredAs tables entry.1

def Frame.StoredIn (tables : CodexTables) : Frame → Prop
  | .expireInterrupt live pass => live.StoredAs tables live.interaction.id ∧ pass.StoredIn tables
  | .expireRespond _ _ pass => pass.StoredIn tables
  | _ => True

def Progress.StoredIn (tables : CodexTables) : Progress → Prop
  | .returned _ => True
  | .await _ frame => frame.StoredIn tables
  | .proceed pass => pass.StoredIn tables

/-- The entries of a pass stay stored when the tables persist. -/
theorem ExpiryPass.StoredIn.mono {tables after : CodexTables} {pass : ExpiryPass}
    (stored : pass.StoredIn tables) (persists : tables.Persists after) : pass.StoredIn after :=
  fun entry member => persists.stored _ _ (stored entry member)

/-- The entries of a suspended pass stay stored when the tables persist. -/
theorem Frame.StoredIn.mono {tables after : CodexTables} {frame : Frame}
    (stored : frame.StoredIn tables) (persists : tables.Persists after) :
    frame.StoredIn after := by
  cases frame with
  | expireInterrupt live pass =>
      exact ⟨persists.stored _ _ stored.1, ExpiryPass.StoredIn.mono stored.2 persists⟩
  | expireRespond _ _ pass => exact ExpiryPass.StoredIn.mono stored persists
  | _ => trivial

/-- What an iteration goes on with is stored. -/
theorem ExpiryPass.Iterates.storedIn {self after : CodexOrchestrator} {pass : ExpiryPass}
    {outcome : Except PyError Progress} (iterates : pass.Iterates self after outcome)
    (stored : pass.StoredIn self.store.tables) :
    ∀ progress, outcome = .ok progress → progress.StoredIn after.store.tables := by
  have rest_stored : ∀ {entry rest} {tables : CodexTables}, pass.rest = entry :: rest →
      self.store.tables.Persists tables → ∀ other ∈ rest, other.2.StoredAs tables other.1 := by
    intro entry rest tables head persists other member
    exact persists.stored _ _ (stored other (head ▸ List.mem_cons_of_mem _ member))
  cases iterates with
  | finished value same =>
      rintro _ ⟨⟩
      trivial
  | raised error same =>
      rintro _ ⟨⟩
  | passedOver entry rest head same =>
      rintro _ ⟨⟩
      exact rest_stored head (.of_eq (congrArg Core.tables same))
  | claimed interactionId live rest middle outcome head due claims answers =>
      have entry := stored (interactionId, live) (head ▸ List.mem_cons_self ..)
      cases answers with
      | denied response same =>
          rintro _ ⟨⟩
          exact rest_stored head (claims.persists.trans (.of_eq (congrArg Core.tables same)))
      | undeniable => rintro _ ⟨⟩
      | interrupting threadId turnId same =>
          rintro _ ⟨⟩
          have persists := claims.persists.trans (.of_eq (congrArg Core.tables same))
          have kept := persists.stored _ _ entry
          exact ⟨kept.key ▸ kept, rest_stored head persists⟩
      | interrupted moved ended =>
          rintro _ ⟨⟩
          exact rest_stored head (claims.persists.trans (Core.persists_of_reachesVia moved))
      | failed => rintro _ ⟨⟩

namespace Runtime

/-- An expiry pass is about to interrupt the session. -/
def Interrupts (runtime : Runtime) (sessionId : String) : Prop :=
  ∃ entry ∈ runtime.tasks.entries, ∃ live pass, entry.2.frame = .expireInterrupt live pass ∧
    live.interaction.sessionId = sessionId

/-- One response was attempted, on the live entry of the row. -/
def AnsweredOnce (runtime : Runtime) (row : PendingInteraction) : Prop :=
  ∃ live response,
    runtime.calls.filter (ExternalCall.answers row.id) = [.respond live response] ∧
      live.StoredAs runtime.orchestrator.store.tables row.id

/-- Every decided row of a session that has not ended was answered once, or its
session is about to be interrupted. -/
structure Delivered (runtime : Runtime) : Prop where
  numbered : runtime.WellNumbered
  live : runtime.orchestrator.core.LiveRows
  frames : ∀ entry ∈ runtime.tasks.entries,
    entry.2.frame.StoredIn runtime.orchestrator.store.tables
  running : ∀ task pass, runtime.running = some (task, pass) →
    pass.StoredIn runtime.orchestrator.store.tables
  answers : ∀ live response, .respond live response ∈ runtime.calls →
    ∃ row ∈ runtime.orchestrator.store.tables.interactions,
      row.id = live.interaction.id ∧ row.isPending = false
  accounted : ∀ row ∈ runtime.orchestrator.store.tables.interactions, row.IsDecided →
    runtime.orchestrator.store.tables.Ended row.sessionId ∨ runtime.AnsweredOnce row ∨
      runtime.Interrupts row.sessionId

/-- What a segment leaves for the decided rows and for its own answer. -/
structure Delivers (runtime : Runtime) (after : CodexOrchestrator)
    (outcome : Except PyError Progress) : Prop where
  live : after.core.LiveRows
  persists : runtime.orchestrator.store.tables.Persists after.store.tables
  stored : ∀ progress, outcome = .ok progress → progress.StoredIn after.store.tables
  answers : ∀ live response frame, outcome = .ok (.await (.respond live response) frame) →
    (∃ row, runtime.orchestrator.store.tables.IsPendingRow live.interaction.id row) ∧
      ∃ row ∈ after.store.tables.interactions,
        row.id = live.interaction.id ∧ row.isPending = false
  accounted : ∀ row ∈ after.store.tables.interactions, row.IsDecided →
    row ∈ runtime.orchestrator.store.tables.interactions ∨
      after.store.tables.Ended row.sessionId ∨
      (∃ live response frame, outcome = .ok (.await (.respond live response) frame) ∧
        live.StoredAs after.store.tables row.id) ∨
      ∃ call live pass, outcome = .ok (.await call (.expireInterrupt live pass)) ∧
        live.interaction.sessionId = row.sessionId

variable {environment : Environment} {runtime : Runtime}

/-- What an event runs starts from the calls that were recorded. -/
theorem Runs.base_eq {event : Event} {task : Nat} {code : Code Progress} {base : Runtime}
    (runs : runtime.Runs environment event task code base) : base.calls = runtime.calls := by
  cases runs <;> rfl

/-- A row that waits was not answered. -/
theorem Delivered.unanswered (delivered : runtime.Delivered) {interactionId : String}
    {row : PendingInteraction}
    (pending : runtime.orchestrator.store.tables.IsPendingRow interactionId row) :
    runtime.calls.filter (ExternalCall.answers interactionId) = [] := by
  apply List.filter_eq_nil_iff.mpr
  intro call member answers
  unfold ExternalCall.answers at answers
  split at answers
  next live response =>
    obtain ⟨settled, settledMem, same, done⟩ := delivered.answers live response member
    have sameId := same.trans ((beq_iff_eq.mp answers).trans pending.2.1.symm)
    obtain rfl := CodexTables.interaction_unique settledMem pending.1 sameId
    rw [pending.2.2] at done
    cases done
  next => cases answers

/-- A segment that delivers keeps every decided row accounted for. -/
theorem Delivered.settle (delivered : runtime.Delivered) {event : Event} {task : Nat}
    {code : Code Progress} {base : Runtime}
    (runs : runtime.Runs environment event task code base)
    {segment : CodexOrchestrator × Except PyError Progress}
    (delivers : runtime.Delivers segment.1 segment.2)
    (resumed : ∀ entry ∈ runtime.tasks.entries, ∀ reply, event = .reply entry.1 reply →
      ∀ live pass, entry.2.frame = .expireInterrupt live pass →
        segment.1.store.tables.Ended live.interaction.sessionId) :
    (base.settle task segment).Delivered := by
  have orchestrator : (base.settle task segment).orchestrator = segment.1 :=
    settle_orchestrator task segment
  have calls : (base.settle task segment).calls = runtime.calls ++ awaited segment.2 := by
    rw [settle_calls, runs.base_eq]
  refine ⟨settle_wellNumbered delivered.numbered runs segment, ?_, ?_, ?_, ?_, ?_⟩
  · rw [orchestrator]
    exact delivers.live
  · rw [orchestrator]
    intro entry member
    rcases mem_settle_tasks member with old | ⟨awaits, _⟩
    · have suspended := ((delivered.numbered.runs runs).2 entry old).1
      exact (delivered.frames entry suspended).mono delivers.persists
    · exact delivers.stored _ awaits
  · rw [orchestrator]
    intro runs pass inControl
    exact delivers.stored _ (settle_running inControl).1
  · rw [orchestrator, calls]
    intro live response member
    rcases List.mem_append.mp member with old | new
    · obtain ⟨row, rowMem, same, done⟩ := delivered.answers live response old
      exact ⟨row, delivers.persists.settled row rowMem done, same, done⟩
    · unfold awaited at new
      split at new
      next call frame awaits =>
        obtain rfl := List.mem_singleton.mp new
        exact (delivers.answers live response frame awaits).2
      next => cases new
  · rw [orchestrator]
    intro row member decided
    have untouched : row ∈ runtime.orchestrator.store.tables.interactions →
        (awaited segment.2).filter (ExternalCall.answers row.id) = [] := by
      intro old
      apply List.filter_eq_nil_iff.mpr
      intro call awaits answers
      unfold awaited at awaits
      split at awaits
      next answer frame outcome =>
        obtain rfl := List.mem_singleton.mp awaits
        unfold ExternalCall.answers at answers
        split at answers
        next live response =>
          obtain ⟨⟨found, foundMem, same, pending⟩, _⟩ :=
            delivers.answers live response frame outcome
          have sameId := same.trans (beq_iff_eq.mp answers)
          obtain rfl := CodexTables.interaction_unique foundMem old sameId
          rw [decided.isPending] at pending
          cases pending
        next => cases answers
      next => cases awaits
    rcases delivers.accounted row member decided with
      old | ended | ⟨live, response, frame, awaits, stored⟩ | ⟨call, live, pass, awaits, same⟩
    · rcases delivered.accounted row old decided with
        ended | ⟨live, response, once, stored⟩ | ⟨entry, entryMem, live, pass, frame, same⟩
      · exact Or.inl (delivers.persists.ended _ ended)
      · refine Or.inr (Or.inl ⟨live, response, ?_, ?_⟩)
        · rw [calls, List.filter_append, once, untouched old, List.append_nil]
        · rw [orchestrator]
          exact delivers.persists.stored _ _ stored
      · by_cases answered : ∃ reply, event = .reply entry.1 reply
        · obtain ⟨reply, replied⟩ := answered
          exact Or.inl (same ▸ resumed entry entryMem reply replied live pass frame)
        · have suspended : entry ∈ (base.settle task segment).tasks.entries :=
            mem_settle_of_runs delivered.numbered runs entryMem
              fun reply replied => answered ⟨reply, replied⟩
          exact Or.inr (Or.inr ⟨entry, suspended, live, pass, frame, same⟩)
    · exact Or.inl ended
    · obtain ⟨⟨found, pending⟩, _⟩ := delivers.answers live response frame awaits
      have answers : ExternalCall.answers row.id (.respond live response) = true :=
        beq_iff_eq.mpr stored.key.symm
      refine Or.inr (Or.inl ⟨live, response, ?_, ?_⟩)
      · rw [calls, List.filter_append, stored.key, delivered.unanswered pending, ← stored.key,
          awaits]
        simp only [awaited, List.filter_cons, answers, ↓reduceIte, List.filter_nil, List.nil_append]
      · rw [orchestrator]
        exact stored
    · exact Or.inr (Or.inr ⟨_, mem_settle_of_await awaits, live, pass, rfl, same⟩)

/-- Code that claims nothing and answers nothing delivers. -/
theorem delivers_of_unclaiming {after : CodexOrchestrator} {outcome : Except PyError Progress}
    (rows : runtime.orchestrator.core.LiveRows)
    (moved : coreSystem.ReachesVia Unclaiming runtime.orchestrator.core after.core)
    (quiet : ∀ live response frame, outcome ≠ .ok (.await (.respond live response) frame))
    (stored : ∀ progress, outcome = .ok progress → progress.StoredIn after.store.tables) :
    runtime.Delivers after outcome where
  live := moved.invariant Core.LiveRows rows fun _ _ _ held allowed performed =>
    performed ▸ held.perform allowed.1
  persists := Core.persists_of_reachesVia moved
  stored := stored
  answers live response frame awaits := absurd awaits (quiet live response frame)
  accounted _ member decided :=
    Or.inl (Core.decided_of_reachesVia moved (fun _ _ allowed => allowed) member decided)

/-- Code that claims a row delivers when it answers it or ends its session. -/
theorem delivers_of_claims {live : LiveInteraction} {interactionId : String}
    {middle after : CodexOrchestrator} {outcome : Except PyError Progress}
    (rows : runtime.orchestrator.core.LiveRows)
    (entry : live.StoredAs runtime.orchestrator.store.tables interactionId)
    (claims : runtime.orchestrator.core.Claims interactionId middle.core)
    (moved : coreSystem.ReachesVia Unclaiming middle.core after.core)
    (stored : ∀ progress, outcome = .ok progress → progress.StoredIn after.store.tables)
    (own : ∀ other response frame, outcome = .ok (.await (.respond other response) frame) →
      other = live)
    (accounted : (∃ response frame, outcome = .ok (.await (.respond live response) frame)) ∨
      (∃ call pass, outcome = .ok (.await call (.expireInterrupt live pass))) ∨
      after.store.tables.Ended live.interaction.sessionId) :
    runtime.Delivers after outcome := by
  have persists : runtime.orchestrator.store.tables.Persists after.store.tables :=
    claims.persists.trans (Core.persists_of_reachesVia moved)
  have kept : live.StoredAs after.store.tables interactionId := persists.stored _ _ entry
  refine ⟨?_, persists, stored, ?_, ?_⟩
  · exact moved.invariant Core.LiveRows (claims.liveRows rows) fun _ _ _ held allowed performed =>
      performed ▸ held.perform allowed.1
  · intro other response frame awaits
    obtain rfl := own other response frame awaits
    obtain ⟨claimed, rowMem, same, done⟩ := claims.settled
    refine ⟨entry.key ▸ claims.pending, claimed, ?_, same.trans entry.key, done⟩
    exact (Core.persists_of_reachesVia moved).settled claimed rowMem done
  · intro row member decided
    have before := Core.decided_of_reachesVia moved (fun _ _ allowed => allowed) member decided
    rcases claims.decided row before decided with old | rfl
    · exact Or.inl old
    · have rowOf := kept.rowOf member rfl
      rcases accounted with ⟨response, frame, awaits⟩ | ⟨call, pass, awaits⟩ | ended
      · exact Or.inr (Or.inr (Or.inl ⟨live, response, frame, awaits, kept⟩))
      · exact Or.inr (Or.inr (Or.inr ⟨call, live, pass, awaits, rowOf.sessionId_eq.symm⟩))
      · exact Or.inr (Or.inl (rowOf.sessionId_eq ▸ ended))

end Runtime

/-- The entry points that resolve an interaction. -/
def ApiCall.Resolves : ApiCall → Prop
  | .resolveInteraction .. | .resolveTerminalRequest .. => True
  | _ => False

/-- A call that may await a response resolves an interaction. -/
theorem ApiCall.resolves_of_respond {call : ApiCall} {live : LiveInteraction} {response : Json}
    {frame : Frame} (reaches : call.MayReach (.await (.respond live response) frame)) :
    call.Resolves := by
  cases call with
  | resolveInteraction | resolveTerminalRequest => trivial
  | _ => cases frame <;> simp only [MayReach] at reaches

/-- What a call awaits has no pass to keep stored. -/
theorem ApiCall.MayReach.storedIn {call : ApiCall} {tables : CodexTables} {awaits : ExternalCall}
    {frame : Frame} (reaches : call.MayReach (.await awaits frame)) : frame.StoredIn tables := by
  cases frame with
  | expireInterrupt | expireRespond => cases call <;> simp only [MayReach] at reaches
  | _ => trivial

/-- A call that resolves no interaction records no decision. -/
theorem ApiCall.Performs.claims_eq_none {environment : Environment} {self : CodexOrchestrator}
    {call : ApiCall} {core : Core} {action : CoreAction}
    (performs : call.Performs environment self core action) (other : ¬ call.Resolves) :
    action.claims = none := by
  cases performs with
  | resolve | resolveTerminal => exact absurd trivial other
  | notify _ _ performs | consumeNotification _ _ performs => cases performs <;> rfl
  | _ => rfl

/-- A handler that goes on records no decision. -/
theorem Frame.Performs.unclaiming {frame : Frame} {self : CodexOrchestrator} {reply : Reply}
    {core : Core} {action : CoreAction} (performs : frame.Performs self reply core action) :
    Unclaiming core action := by
  cases performs <;> exact ⟨trivial, rfl⟩

/-- A handler that goes on awaits no response. -/
theorem Frame.not_mayReach_respond {frame next : Frame} {live : LiveInteraction} {response : Json} :
    ¬ frame.MayReach (.await (.respond live response) next) := by
  intro reaches
  cases frame with
  | requestError consumer => cases consumer <;> cases next <;> exact reaches
  | _ => cases next <;> exact reaches

/-- A suspended pass that goes on keeps its entries stored. -/
theorem Frame.MayReach.storedIn {frame : Frame} {progress : Progress} {tables : CodexTables}
    (reaches : frame.MayReach progress) (stored : frame.StoredIn tables) :
    progress.StoredIn tables := by
  cases progress with
  | returned => trivial
  | await call next =>
      cases next with
      | expireInterrupt | expireRespond => cases frame <;> simp only [MayReach] at reaches
      | _ => trivial
  | proceed pass =>
      cases frame with
      | expireInterrupt live rest =>
          obtain rfl : pass = rest := reaches
          exact stored.2
      | expireRespond interactionId live rest =>
          obtain rfl : pass = rest := reaches
          exact stored
      | requestError consumer => cases consumer <;> exact False.elim reaches
      | _ => exact False.elim reaches

namespace Runtime

variable {environment : Environment} {runtime : Runtime}

/-- A claim that wins is followed by the response to its request. -/
theorem claimAndRespond_delivers {live : LiveInteraction} {interactionId decision actorId : String}
    {response : Json} (rows : runtime.orchestrator.core.LiveRows)
    (entry : live.StoredAs runtime.orchestrator.store.tables interactionId) :
    (claimAndRespond environment live interactionId response decision actorId).Ends
      runtime.orchestrator runtime.Delivers := by
  apply claimAndRespond_claims.mono
  intro after outcome claimed
  rcases claimed with ⟨same, _, returns⟩ | ⟨claims, rfl⟩
  · refine delivers_of_unclaiming rows (same ▸ .refl) ?_ fun progress returned => ?_
    · rintro live response frame rfl
      obtain ⟨value, absurd⟩ := returns _ rfl
      cases absurd
    · obtain ⟨value, rfl⟩ := returns progress returned
      trivial
  · refine delivers_of_claims rows entry claims .refl ?_ ?_ (Or.inl ⟨response, _, rfl⟩)
    · rintro _ ⟨⟩
      trivial
    · rintro _ _ _ ⟨⟩
      rfl

/-- An expiry pass starts with the live entries. -/
theorem expireDueInteractions_rest {self : CodexOrchestrator} {now : Option DateTime}
    (pass : ExpiryPass)
    (proceeds : (expireDueInteractions environment now self).2 = .ok (.proceed pass))
    (entry : String × LiveInteraction) (member : entry ∈ pass.rest) :
    entry ∈ self.live.entries := by
  unfold expireDueInteractions currentTime at proceeds
  cases now <;>
  · cases proceeds
    exact (List.mem_insertionSort _).mp member

/-- Every entry point delivers. -/
theorem handle_delivers (rows : runtime.orchestrator.core.LiveRows) (call : ApiCall) :
    (handle environment call).Ends runtime.orchestrator runtime.Delivers := by
  have quiet : ∀ after outcome, after.core = runtime.orchestrator.core →
      (∀ progress, outcome = .ok progress → progress = .returned (.bool false)) →
      runtime.Delivers after outcome := by
    intro after outcome same returns
    refine delivers_of_unclaiming rows (same ▸ .refl) ?_ fun progress returned => ?_
    · rintro live response frame rfl
      cases returns _ rfl
    · obtain rfl := returns progress returned
      trivial
  by_cases resolves : call.Resolves
  · cases call with
    | resolveInteraction interactionId actorId allow answers =>
        change (resolveInteraction environment interactionId actorId allow answers).Ends _ _
        unfold resolveInteraction
        simp only [Code.ends_self_bind]
        split
        next =>
          apply quiet _ _ rfl
          rintro _ ⟨⟩
          rfl
        next live found =>
          rw [Code.ends_lift_bind]
          split
          next => exact claimAndRespond_delivers rows (rows _ (Dict.get?_eq_some.mp found))
          next =>
            apply quiet _ _ rfl
            rintro _ ⟨⟩
    | resolveTerminalRequest requestId result =>
        change (resolveTerminalRequest environment requestId result).Ends _ _
        unfold resolveTerminalRequest
        simp only [Code.ends_self_bind]
        split
        next =>
          apply quiet _ _ rfl
          rintro _ ⟨⟩
          rfl
        next live found =>
          rw [Code.ends_lift_bind]
          split
          next => 
            obtain ⟨⟨key, live⟩, member, rfl⟩ :=
              List.mem_map.mp (List.mem_of_find?_eq_some found)
            have entry := rows _ member
            exact claimAndRespond_delivers rows (entry.key ▸ entry)
          next =>
            apply quiet _ _ rfl
            rintro _ ⟨⟩
    | _ => cases resolves
  · have moved : (handle environment call).Ends runtime.orchestrator
        (MovedFrom Unclaiming runtime.orchestrator.core) := by
      apply (handle_moves environment runtime.orchestrator call).mono
      intro after outcome moved
      apply System.ReachesVia.mono moved
      intro core action performs
      have performed : runtime.Performs environment (.call call) core action := performs
      exact ⟨performs_wellFormed performed, performs.claims_eq_none resolves⟩
    refine delivers_of_unclaiming rows moved ?_ fun progress returned => ?_
    · intro live response frame awaits
      exact resolves (ApiCall.resolves_of_respond (handle_returns call _ _ awaits))
    · cases progress with
      | returned value => trivial
      | await awaits frame => exact (handle_returns call _ _ returned).storedIn
      | proceed pass =>
          have reaches := handle_returns call _ _ returned
          cases call with
          | expireDueInteractions now =>
              intro entry member
              have old := expireDueInteractions_rest pass returned entry member
              exact (Core.persists_of_reachesVia moved).stored _ _ (rows entry old)
          | _ => exact False.elim reaches

/-- A resumed handler delivers. -/
theorem resume_delivers (rows : runtime.orchestrator.core.LiveRows) {frame : Frame}
    (stored : frame.StoredIn runtime.orchestrator.store.tables) (reply : Reply) :
    (resume environment frame reply).Ends runtime.orchestrator runtime.Delivers := by
  have moved : (resume environment frame reply).Ends runtime.orchestrator
      (MovedFrom Unclaiming runtime.orchestrator.core) := by
    refine (resume_moves environment runtime.orchestrator frame reply).mono
      fun after outcome moved => ?_
    exact System.ReachesVia.mono moved fun core action performs =>
      performs.unclaiming
  have frames := stored.mono (Core.persists_of_reachesVia moved)
  have reaches : (resume environment frame reply).Returns frame.MayReach :=
    resume_returns frame reply
  refine delivers_of_unclaiming rows moved ?_ fun progress returned => ?_
  · intro live response frame awaits
    exact Frame.not_mayReach_respond (reaches _ _ awaits)
  · exact (reaches _ _ returned).storedIn frames

end Runtime

/-- The passes that are suspended or in control look at stored entries. -/
structure Runtime.PassesStored (runtime : Runtime) : Prop where
  live : runtime.orchestrator.core.LiveRows
  frames : ∀ entry ∈ runtime.tasks.entries,
    entry.2.frame.StoredIn runtime.orchestrator.store.tables
  running : ∀ task pass, runtime.running = some (task, pass) →
    pass.StoredIn runtime.orchestrator.store.tables

/-- In every reachable state the entries of each pass are stored. -/
theorem reachable_passesStored {environment : Environment} {allowed : Runtime → Event → Prop}
    {runtime : Runtime}
    (reachable : (orchestratorSystem environment).ReachableVia allowed runtime) :
    runtime.PassesStored := by
  refine reachable.invariant Runtime.PassesStored ?_ ?_
  · rintro _ ⟨store, rfl⟩
    refine ⟨(start_started store).liveRows, fun _ member => absurd member List.not_mem_nil, ?_⟩
    rintro _ _ ⟨⟩
  · intro before event after stored _ stepped
    have moves := Runtime.step_moves stepped
    have live : after.orchestrator.core.LiveRows := by
      apply moves.invariant Core.LiveRows stored.live
      rintro core action _ rows performs rfl
      exact rows.perform (Runtime.performs_wellFormed performs)
    have persists := Core.persists_of_reachesVia moves
    obtain ⟨task, code, base, runs, rfl⟩ := Runtime.runs_of_step stepped
    have next : ∀ progress, (code before.orchestrator).2 = .ok progress →
        progress.StoredIn (code before.orchestrator).1.store.tables := by
      cases runs with
      | call call => exact (Runtime.handle_delivers stored.live call).stored
      | reply task reply suspended _ found =>
          have frame := stored.frames _ (Dict.get?_eq_some.mp found)
          exact (Runtime.resume_delivers stored.live frame reply).stored
      | proceed task pass inControl =>
          have pass := stored.running task pass inControl
          exact ExpiryPass.Iterates.storedIn (expireNext_iterates pass) pass
    refine ⟨live, fun entry member => ?_, fun runs pass inControl => ?_⟩
    · rw [Runtime.settle_orchestrator] at persists ⊢
      rcases Runtime.mem_settle_tasks member with old | ⟨awaits, _⟩
      · have kept : entry ∈ before.tasks.entries := by
          cases runs with
          | call | proceed => exact old
          | reply => exact (Dict.mem_pop.mp old).1
        exact (stored.frames entry kept).mono persists
      · exact next _ awaits
    · obtain ⟨proceeds, _⟩ := Runtime.settle_running inControl
      rw [Runtime.settle_orchestrator]
      exact next _ proceeds

end LarkBot
