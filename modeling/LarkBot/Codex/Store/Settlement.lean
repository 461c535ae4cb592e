import LarkBot.Codex.Store.Calls

/-! # An interaction is settled once

The life of one stored row: it waits, it may be given the id of its Lark message
once, and one call settles it, by a decision or by closing it. `LarkBot.RowStep`
is the life of a row by itself. Every call takes every row by one such step and
reports exactly the rows that it settled (`SharedStore.perform_settling`), so a
row is settled at most once along every sequence of calls.
-/

namespace LarkBot

open Foundation

/-- What one call can do to a row; the flag tells that the row was settled. -/
inductive RowStep (row : PendingInteraction) : Bool → PendingInteraction → Prop
  | kept : RowStep row false row
  | attached (messageId : String) : row.isPending → row.larkMessageId = none →
      RowStep row false { row with larkMessageId := some messageId }
  | resolved (status : InteractionStatus) (decision : InteractionDecision) (actorId : String)
      (resolvedAt : Instant) : row.isPending → status = .resolved ∨ status = .expired →
      decision ∈ allowedDecisions row.kind →
      RowStep row true (CodexTables.resolve status decision actorId resolvedAt row)
  | closed (status : InteractionStatus) (resolvedAt : Instant) : row.isPending →
      status = .expired ∨ status = .cancelled →
      RowStep row true (CodexTables.close status resolvedAt row)

namespace RowStep

variable {row after : PendingInteraction} {settled : Bool}

/-- A step leaves the id of the row. -/
theorem id_eq (step : RowStep row settled after) : after.id = row.id := by
  cases step <;> rfl

/-- A step leaves the kind of the row. -/
theorem kind_eq (step : RowStep row settled after) : after.kind = row.kind := by
  cases step <;> rfl

/-- A step leaves the session of the row. -/
theorem sessionId_eq (step : RowStep row settled after) : after.sessionId = row.sessionId := by
  cases step <;> rfl

/-- A step leaves the request that the row is about. -/
theorem requestId_eq (step : RowStep row settled after) : after.requestId = row.requestId := by
  cases step <;> rfl

/-- A row that is no longer pending is left as it is. -/
theorem eq_of_not_isPending (step : RowStep row settled after) (done : row.isPending = false) :
    settled = false ∧ after = row := by
  cases step with
  | kept => exact ⟨rfl, rfl⟩
  | attached _ pending | resolved _ _ _ _ pending | closed _ _ pending =>
      rw [done] at pending
      cases pending

/-- A pending row is settled exactly by the step that ends its waiting. -/
theorem settled_iff (step : RowStep row settled after) :
    settled = true ↔ row.isPending ∧ after.isPending = false := by
  cases step with
  | kept =>
      simp only [Bool.false_eq_true, false_iff, not_and, Bool.not_eq_false]
      exact id
  | attached messageId pending _ =>
      simp only [Bool.false_eq_true, false_iff, not_and, Bool.not_eq_false]
      exact fun _ => pending
  | resolved status decision actorId resolvedAt pending ended =>
      refine iff_of_true rfl ⟨pending, ?_⟩
      rcases ended with rfl | rfl <;> rfl
  | closed status resolvedAt pending ended =>
      refine iff_of_true rfl ⟨pending, ?_⟩
      rcases ended with rfl | rfl <;> rfl

/-- A message id that is set stays. -/
theorem larkMessageId_eq (step : RowStep row settled after) (set : row.larkMessageId.isSome) :
    after.larkMessageId = row.larkMessageId := by
  cases step with
  | attached _ _ unset =>
      rw [unset] at set
      cases set
  | kept | resolved | closed => rfl

end RowStep

/-- A row that waits carries no resolution metadata. -/
def PendingInteraction.Unresolved (row : PendingInteraction) : Prop :=
  row.isPending → row.resolvedAt = none ∧ row.actorId = none ∧ row.decision = none

/-- The decision and the actor of a row fit its status. -/
structure PendingInteraction.Recorded (row : PendingInteraction) : Prop where
  resolved : row.status = .resolved →
    ∃ decision ∈ allowedDecisions row.kind, row.decision = some decision
  cancelled : row.status = .cancelled → row.decision = none ∧ row.actorId = none

namespace RowStep

variable {row after : PendingInteraction} {settled : Bool}

/-- A row that still waits after a step carries no resolution metadata then. -/
theorem unresolved (step : RowStep row settled after) (unresolved : row.Unresolved) :
    after.Unresolved := by
  cases step with
  | kept => exact unresolved
  | attached messageId pending _ => exact unresolved
  | resolved status decision actorId resolvedAt _ ended =>
      rcases ended with rfl | rfl <;> exact nofun
  | closed status resolvedAt _ ended =>
      rcases ended with rfl | rfl <;> exact nofun

/-- A step records a decision and an actor that fit the status it gives. -/
theorem recorded (step : RowStep row settled after) (unresolved : row.Unresolved)
    (recorded : row.Recorded) : after.Recorded := by
  cases step with
  | kept => exact recorded
  | attached messageId pending _ => exact ⟨recorded.resolved, recorded.cancelled⟩
  | resolved status decision actorId resolvedAt _ ended allowed =>
      refine ⟨fun _ => ⟨decision, allowed, rfl⟩, ?_⟩
      rcases ended with rfl | rfl <;> exact nofun
  | closed status resolvedAt pending ended =>
      obtain ⟨_, actor, decision⟩ := unresolved pending
      refine ⟨?_, fun _ => ⟨decision, actor⟩⟩
      rcases ended with rfl | rfl <;> exact nofun

end RowStep

/-- A decision that passes its check is one that the kind allows. -/
theorem normalizeDecision_ok {kind : InteractionKind} {decision : String}
    {normalized : InteractionDecision}
    (allowed : normalizeDecision kind decision = .ok normalized) :
    normalized ∈ allowedDecisions kind := by
  unfold normalizeDecision at allowed
  split at allowed
  next input =>
    subst input
    cases allowed
    decide
  next =>
    split at allowed
    next => cases allowed
    next =>
      split at allowed
      next member =>
        cases allowed
        exact List.contains_iff_mem.mp member
      next => cases allowed

namespace CodexTables

variable {tables after : CodexTables}

/-- Every row takes a step, the ids reported are those of the rows settled, and a
row that was inserted waits without resolution metadata. -/
structure Settling (tables after : CodexTables) (reported : List String) : Prop where
  step : ∀ row ∈ tables.interactions, ∃ next ∈ after.interactions,
    RowStep row (decide (row.id ∈ reported)) next
  origin : ∀ next ∈ after.interactions, next.Unresolved ∨
    ∃ row ∈ tables.interactions, ∃ settled, RowStep row settled next

/-- Inserting rows that wait settles none. -/
theorem Settling.of_append {inserted : List PendingInteraction}
    (rows : after.interactions = tables.interactions ++ inserted)
    (unresolved : ∀ row ∈ inserted, row.Unresolved) : tables.Settling after [] := by
  constructor
  · intro row member
    refine ⟨row, rows ▸ List.mem_append_left _ member, ?_⟩
    simp only [List.not_mem_nil, decide_false]
    exact .kept
  · intro next member
    rw [rows, List.mem_append] at member
    rcases member with old | new
    · exact Or.inr ⟨next, old, false, .kept⟩
    · exact Or.inl (unresolved next new)

/-- A call that leaves the interactions settles none. -/
theorem Settling.of_eq (rows : after.interactions = tables.interactions) :
    tables.Settling after [] :=
  .of_append (rows.trans (List.append_nil _).symm) (by
    simp only [List.not_mem_nil, false_implies, implies_true])

/-- An update settles the rows that it selects, when it reports their ids and no others. -/
theorem Settling.of_updateWhere {selected : PendingInteraction → Bool}
    {change : PendingInteraction → PendingInteraction} {reported : List String}
    (rows : after.interactions = updateWhere selected change tables.interactions)
    (rewritten : ∀ row ∈ tables.interactions, selected row → RowStep row true (change row))
    (reports : ∀ row ∈ tables.interactions, row.id ∈ reported ↔ selected row) :
    tables.Settling after reported := by
  have steps : ∀ row ∈ tables.interactions,
      RowStep row (decide (row.id ∈ reported)) (if selected row then change row else row) := by
    intro row member
    by_cases chosen : selected row
    · simp only [reports row member, chosen, decide_true, ↓reduceIte]
      exact rewritten row member chosen
    · simp only [reports row member, chosen, Bool.false_eq_true, decide_false, ↓reduceIte]
      exact .kept
  constructor
  · intro row member
    exact ⟨_, rows ▸ mem_updateWhere.mpr ⟨row, member, rfl⟩, steps row member⟩
  · intro next member
    obtain ⟨row, old, rfl⟩ := mem_updateWhere.mp (rows ▸ member)
    exact Or.inr ⟨row, old, _, steps row old⟩

/-- The row with this id, when it is pending. -/
private theorem selected_iff {interactionId : String} {row : PendingInteraction} :
    (row.id == interactionId && row.isPending) = true ↔
      row.id = interactionId ∧ row.isPending := by
  rw [Bool.and_eq_true, beq_iff_eq]

/-- An update of one interaction settles its pending row, if there is one. -/
theorem settleInteraction_settling {interactionId : String}
    {change : PendingInteraction → PendingInteraction} {settles : Settles change}
    (changes : ∀ row, tables.IsPendingRow interactionId row → RowStep row true (change row)) :
    tables.Settling (tables.settleInteraction interactionId change settles).2
      (if (tables.settleInteraction interactionId change settles).1 then [interactionId] else []) :=
      by
  refine .of_updateWhere rfl ?_ ?_
  · intro row member chosen
    exact changes row ⟨member, selected_iff.mp chosen⟩
  · intro row member
    rw [selected_iff]
    constructor
    · intro reported
      split at reported
      next won =>
        obtain ⟨other, otherMem, otherId, pending⟩ := settleInteraction_fst.mp won
        have same := List.mem_singleton.mp reported
        obtain rfl := interaction_unique otherMem member (otherId.trans same.symm)
        exact ⟨otherId, pending⟩
      next => cases reported
    · rintro ⟨same, pending⟩
      have won : (tables.settleInteraction interactionId change settles).1 = true :=
        settleInteraction_fst.mpr ⟨row, member, same, pending⟩
      rw [if_pos won]
      exact List.mem_singleton.mpr same

/-- Claiming a row settles this row and no other. -/
theorem Claimed.settling {row : PendingInteraction}
    {change : PendingInteraction → PendingInteraction} {updatedAt : Instant}
    (claimed : tables.Claimed row change updatedAt after) (step : RowStep row true (change row)) :
    tables.Settling after [row.id] := by
  obtain ⟨rowMem, _, pending⟩ := claimed.isPendingRow
  refine .of_updateWhere claimed.interactions ?_ ?_
  · intro other member chosen
    obtain rfl := interaction_unique member rowMem (selected_iff.mp chosen).1
    exact step
  · intro other member
    rw [selected_iff, List.mem_singleton]
    constructor
    · intro same
      obtain rfl := interaction_unique member rowMem same
      exact ⟨rfl, pending⟩
    · exact fun chosen => chosen.1

/-- Ending the pending rows of a session settles exactly the rows it lists. -/
theorem closed_settling {sessionId : String} {status : InteractionStatus} {resolvedAt : Instant}
    (ended : status = .expired ∨ status = .cancelled)
    (rows : after.interactions = closed sessionId status resolvedAt tables.interactions) :
    tables.Settling after (tables.pendingIds sessionId) := by
  refine .of_updateWhere rows ?_ ?_
  · intro row _ chosen
    exact .closed status resolvedAt ((Bool.and_eq_true _ _).mp chosen).2 ended
  · intro row member
    constructor
    · intro listed
      obtain ⟨other, pending, same⟩ := mem_pendingIds.mp listed
      obtain ⟨otherMem, condition⟩ := List.mem_filter.mp pending
      obtain rfl := interaction_unique otherMem member same
      exact condition
    · exact fun chosen => mem_pendingIds.mpr ⟨row, List.mem_filter.mpr ⟨member, chosen⟩, rfl⟩

/-- Attaching the id of a Lark message settles no row. -/
theorem attachLarkMessageId_settling (interactionId messageId : String) :
    tables.Settling (tables.attachLarkMessageId interactionId messageId).2 [] := by
  have steps : ∀ row : PendingInteraction, RowStep row false
      (if row.id == interactionId && row.isPending && row.larkMessageId == none then
        { row with larkMessageId := some messageId } else row) := by
    intro row
    split
    next selected =>
      simp only [Bool.and_eq_true, beq_iff_eq] at selected
      exact .attached messageId selected.1.2 selected.2
    next => exact .kept
  constructor
  · intro row member
    simp only [List.not_mem_nil, decide_false]
    exact ⟨_, mem_updateWhere.mpr ⟨row, member, rfl⟩, steps row⟩
  · intro next member
    obtain ⟨row, old, rfl⟩ := mem_updateWhere.mp member
    exact Or.inr ⟨row, old, false, steps row⟩

/-- The reconciliation of a startup settles the rows that it reports. -/
theorem reconcileStartup_settling (now : Instant) :
    tables.Settling (tables.reconcileStartup now).2
      (tables.reconcileStartup now).1.interactionIds := by
  refine .of_updateWhere rfl ?_ ?_
  · intro row _ pending
    exact .closed .expired now pending (Or.inl rfl)
  · intro row member
    simp only [reconcileStartup, List.mem_insertionSort, List.mem_map, List.mem_filter]
    constructor
    · rintro ⟨other, ⟨otherMem, pending⟩, same⟩
      obtain rfl := interaction_unique otherMem member same
      exact pending
    · exact fun pending => ⟨row, ⟨member, pending⟩, rfl⟩

/-- Creating an interaction settles no row. -/
theorem createInteraction_settling {interaction : PendingInteraction}
    (created : tables.createInteraction interaction = .ok after) : tables.Settling after [] := by
  obtain ⟨_, unresolved, interactions⟩ := createInteraction_ok created
  refine .of_append interactions fun row member => ?_
  obtain rfl := List.mem_singleton.mp member
  exact unresolved

/-- Creating an interaction with its waiting session settles no row, also where it is
refused. -/
theorem createInteractionAndMarkWaiting_settling {interaction : PendingInteraction}
    {waitingStatus : SessionStatus} {updatedAt : Instant} {created : Bool}
    (done : tables.createInteractionAndMarkWaiting interaction waitingStatus updatedAt =
      .ok (created, after)) : tables.Settling after [] := by
  cases created with
  | true =>
      obtain ⟨_, _, _, _, unresolved, interactions⟩ := createInteractionAndMarkWaiting_true done
      refine .of_append interactions fun row member => ?_
      obtain rfl := List.mem_singleton.mp member
      exact unresolved
  | false =>
      obtain rfl := createInteractionAndMarkWaiting_false done
      exact .of_eq rfl

/-- Resolving a row by the kind that was selected before settles the row exactly when it
says so. -/
theorem resolveSelected_settling {kind : InteractionKind}
    {interactionId decision actorId : String} {resolvedAt : Instant}
    {outcome : Bool × CodexTables}
    (stored : ∃ row ∈ tables.interactions, row.id = interactionId ∧ row.kind = kind)
    (done : tables.resolveSelected kind interactionId decision actorId resolvedAt = .ok outcome) :
    tables.Settling outcome.2 (if outcome.1 then [interactionId] else []) := by
  unfold resolveSelected at done
  split at done
  next => cases done
  next normalized allowed =>
    cases done
    apply settleInteraction_settling
    intro row pending
    obtain ⟨found, foundMem, same, rfl⟩ := stored
    obtain rfl := interaction_unique foundMem pending.1 (same.trans pending.2.1.symm)
    exact .resolved .resolved normalized actorId resolvedAt pending.2.2 (Or.inl rfl)
      (normalizeDecision_ok allowed)

/-- Resolving a row with its session settles the row exactly when it says so. -/
theorem resolveInteractionAndRefreshSession_settling {interactionId decision actorId : String}
    {updatedAt : Instant} {status : InteractionStatus} {outcome : Bool × CodexTables}
    (done : tables.resolveInteractionAndRefreshSession interactionId decision actorId updatedAt
      status = .ok outcome) :
    tables.Settling outcome.2 (if outcome.1 then [interactionId] else []) := by
  obtain ⟨won, after⟩ := outcome
  cases won with
  | true =>
      obtain ⟨row, normalized, rfl, ended, allowed, claimed⟩ :=
        resolveInteractionAndRefreshSession_true done
      exact claimed.settling (.resolved status normalized actorId updatedAt
        claimed.isPendingRow.2.2 ended (normalizeDecision_ok allowed))
  | false =>
      obtain ⟨rfl, _⟩ := resolveInteractionAndRefreshSession_false done
      exact .of_eq rfl

/-- Cancelling a row with its session settles the row exactly when it says so. -/
theorem cancelInteractionAndRefreshSession_settling {interactionId : String}
    {updatedAt : Instant} {outcome : Bool × CodexTables}
    (done : tables.cancelInteractionAndRefreshSession interactionId updatedAt = outcome) :
    tables.Settling outcome.2 (if outcome.1 then [interactionId] else []) := by
  obtain ⟨won, after⟩ := outcome
  cases won with
  | true =>
      obtain ⟨row, rfl, claimed⟩ := cancelInteractionAndRefreshSession_true done
      exact claimed.settling (.closed .cancelled updatedAt claimed.isPendingRow.2.2 (Or.inr rfl))
  | false =>
      obtain ⟨rfl, _⟩ := cancelInteractionAndRefreshSession_false done
      exact .of_eq rfl

/-- Ending a session settles the pending rows whose ids it returns. -/
theorem claimSessionTerminal_settling {sessionId summary : String}
    {terminalStatus : SessionStatus} {pendingStatus : InteractionStatus} {updatedAt : Instant}
    {ids : Option (List String)}
    (done : tables.claimSessionTerminal sessionId terminalStatus summary pendingStatus updatedAt =
      .ok (ids, after)) : tables.Settling after (ids.getD []) := by
  cases ids with
  | some ids =>
      obtain ⟨_, ended, _, listed, _, interactions⟩ := claimSessionTerminal_some done
      rw [Option.getD_some, listed]
      exact closed_settling ended interactions
  | none =>
      obtain ⟨rfl, _⟩ := claimSessionTerminal_none done
      exact .of_eq rfl

/-- Finishing a turn settles the pending rows whose ids it returns. -/
theorem finishInteractiveTurn_settling {sessionId turnId summary : String} {updatedAt : Instant}
    {ids : Option (List String)}
    (done : tables.finishInteractiveTurn sessionId turnId summary updatedAt = .ok (ids, after)) :
    tables.Settling after (ids.getD []) := by
  cases ids with
  | some ids =>
      obtain ⟨_, listed, _, interactions⟩ := finishInteractiveTurn_some done
      rw [Option.getD_some, listed]
      exact closed_settling (Or.inr rfl) interactions
  | none =>
      obtain ⟨rfl, _⟩ := finishInteractiveTurn_none done
      exact .of_eq rfl

/-- Cancelling what a session waits for settles the rows whose ids it returns. -/
theorem cancelPendingInteractions_settling {sessionId : String} {status : InteractionStatus}
    {resolvedAt : Instant} {ids : List String}
    (done : tables.cancelPendingInteractions sessionId status resolvedAt = .ok (ids, after)) :
    tables.Settling after ids := by
  unfold cancelPendingInteractions at done
  split at done
  next ended =>
    cases done
    exact closed_settling ended rfl
  next => cases done

end CodexTables

namespace SharedStore

open CodexTables

/-- A connection selected the kind that is stored. -/
def SelectionsStored (store : SharedStore) : Prop :=
  ∀ connection interactionId kind, store.selected connection = some (interactionId, kind) →
    ∃ row ∈ store.tables.interactions, row.id = interactionId ∧ row.kind = kind

/-- Every call takes every row by one step and reports the rows it settled. -/
theorem execute_settling {store : SharedStore} (selections : store.SelectionsStored)
    (call : StoreCall) :
    store.tables.Settling (store.execute call).1 (store.execute call).2 := by
  cases call with
  | createSession session =>
      simp only [execute]
      split
      next tables created =>
        obtain ⟨_, _, interactions⟩ := insertSession_ok created
        exact .of_eq interactions
      next => exact .of_eq rfl
  | createInteraction interaction =>
      simp only [execute]
      split
      next created => exact createInteraction_settling created
      next => exact .of_eq rfl
  | createInteractionAndMarkWaiting interaction waitingStatus updatedAt =>
      simp only [execute]
      split
      next done => exact createInteractionAndMarkWaiting_settling done
      next => exact .of_eq rfl
  | attachLarkMessageId interactionId messageId =>
      exact attachLarkMessageId_settling interactionId messageId
  | resolveSelected connection decision actorId resolvedAt =>
      simp only [execute]
      split
      next => exact .of_eq rfl
      next selection =>
        split
        next done => exact resolveSelected_settling (selections _ _ _ selection) done
        next => exact .of_eq rfl
  | resolveInteractionAndRefreshSession interactionId decision actorId updatedAt status =>
      simp only [execute]
      split
      next done => exact resolveInteractionAndRefreshSession_settling done
      next => exact .of_eq rfl
  | cancelInteractionAndRefreshSession interactionId updatedAt =>
      exact cancelInteractionAndRefreshSession_settling rfl
  | claimSessionTerminal sessionId terminalStatus summary pendingStatus updatedAt =>
      simp only [execute]
      split
      next done => exact claimSessionTerminal_settling done
      next => exact .of_eq rfl
  | finishInteractiveTurn sessionId turnId summary updatedAt =>
      simp only [execute]
      split
      next done => exact finishInteractiveTurn_settling done
      next => exact .of_eq rfl
  | expireInteraction interactionId resolvedAt =>
      exact settleInteraction_settling fun row pending =>
        .closed .expired resolvedAt pending.2.2 (Or.inl rfl)
  | cancelPendingInteractions sessionId status resolvedAt =>
      simp only [execute]
      split
      next done => exact cancelPendingInteractions_settling done
      next => exact .of_eq rfl
  | reconcileStartup now => exact reconcileStartup_settling now
  | updateSessionIfStatus | selectKind => exact .of_eq rfl

/-- What every reachable store keeps about its rows and selections. -/
structure Sound (store : SharedStore) : Prop where
  selections : store.SelectionsStored
  unresolved : ∀ row ∈ store.tables.interactions, row.Unresolved

/-- The empty store is sound. -/
theorem initial_sound : initial.Sound where
  selections := nofun
  unresolved := by
    simp only [initial, empty, List.not_mem_nil, false_implies, implies_true]

/-- A call keeps the store sound. -/
theorem perform_sound {store : SharedStore} (sound : store.Sound) (call : StoreCall) :
    (store.perform call).Sound := by
  have settling := execute_settling sound.selections call
  have kept : ∀ interactionId kind, (∃ row ∈ store.tables.interactions,
      row.id = interactionId ∧ row.kind = kind) →
      ∃ row ∈ (store.perform call).tables.interactions,
        row.id = interactionId ∧ row.kind = kind := by
    rintro _ _ ⟨row, member, rfl, rfl⟩
    obtain ⟨next, nextMem, step⟩ := settling.step row member
    exact ⟨next, nextMem, step.id_eq, step.kind_eq⟩
  constructor
  · intro connection interactionId kind selected
    apply kept interactionId kind
    have held : (store.selectionAfter call) connection = some (interactionId, kind) := selected
    cases call with
    | selectKind reader read =>
        simp only [selectionAfter, onConnection] at held
        split at held
        next =>
          obtain ⟨stored, selectedKind, same⟩ := Option.map_eq_some_iff.mp held
          obtain ⟨row, found, rfl⟩ := Option.map_eq_some_iff.mp selectedKind
          obtain ⟨member, rfl⟩ := getInteraction_eq_some.mp found
          cases same
          exact ⟨row, member, rfl, rfl⟩
        next => exact sound.selections connection interactionId kind held
    | resolveSelected reader =>
        simp only [selectionAfter, onConnection] at held
        split at held
        next => cases held
        next => exact sound.selections connection interactionId kind held
    | _ => exact sound.selections connection interactionId kind held
  · intro next member
    rcases settling.origin next member with unresolved | ⟨row, old, settled, step⟩
    · exact unresolved
    · exact step.unresolved (sound.unresolved row old)

/-- Every sequence of calls from the empty store leaves it sound, by induction on the
calls. -/
theorem after_sound (calls : List StoreCall) : (initial.after calls).Sound :=
  after_induction initial_sound (fun _ call sound => perform_sound sound call) calls

/-- How often a sequence of calls reports an interaction as settled. -/
def reportCount (store : SharedStore) (interactionId : String) : List StoreCall → Nat
  | [] => 0
  | call :: calls =>
      (if interactionId ∈ (store.execute call).2 then 1 else 0) +
        (store.perform call).reportCount interactionId calls

/-- What a sequence of calls can do to a row, and how often it reports it. -/
structure RowRun (row : PendingInteraction) (reports : Nat) (after : PendingInteraction) :
    Prop where
  id_eq : after.id = row.id
  final : row.isPending = false → after = row ∧ reports = 0
  reported : row.isPending → reports = if after.isPending then 0 else 1
  larkMessageId_eq : row.larkMessageId.isSome → after.larkMessageId = row.larkMessageId
  recorded : row.Unresolved → row.Recorded → after.Recorded

/-- A row that no call touches has run through nothing. -/
theorem RowRun.refl (row : PendingInteraction) : RowRun row 0 row where
  id_eq := rfl
  final _ := ⟨rfl, rfl⟩
  reported pending := by simp only [pending, ↓reduceIte]
  larkMessageId_eq _ := rfl
  recorded _ recorded := recorded

/-- One step before a run is a run. -/
theorem RowRun.cons {row middle after : PendingInteraction} {settled : Bool} {reports : Nat}
    (step : RowStep row settled middle) (run : RowRun middle reports after) :
    RowRun row ((if settled then 1 else 0) + reports) after where
  id_eq := run.id_eq.trans step.id_eq
  final done := by
    obtain ⟨rfl, rfl⟩ := step.eq_of_not_isPending done
    obtain ⟨same, none⟩ := run.final done
    exact ⟨same, by simp only [Bool.false_eq_true, ↓reduceIte, none, Nat.add_zero]⟩
  reported pending := by
    by_cases waits : middle.isPending
    · have unsettled : settled = false := by
        by_contra settles
        have ended := (step.settled_iff.mp (Bool.not_eq_false _ ▸ settles)).2
        rw [waits] at ended
        cases ended
      simp only [unsettled, Bool.false_eq_true, ↓reduceIte, Nat.zero_add]
      exact run.reported waits
    · have ended := Bool.not_eq_true _ ▸ waits
      obtain ⟨rfl, none⟩ := run.final ended
      have settles : settled = true := step.settled_iff.mpr ⟨pending, ended⟩
      simp only [settles, ↓reduceIte, none, Nat.add_zero, ended, Bool.false_eq_true]
  larkMessageId_eq set := by
    have kept := step.larkMessageId_eq set
    exact (run.larkMessageId_eq (kept ▸ set)).trans kept
  recorded unresolved recorded :=
    run.recorded (step.unresolved unresolved) (step.recorded unresolved recorded)

/-- Every stored row runs through every sequence of calls. -/
theorem after_rowRun {store : SharedStore} (sound : store.Sound) (calls : List StoreCall)
    {row : PendingInteraction} (member : row ∈ store.tables.interactions) :
    ∃ after ∈ (store.after calls).tables.interactions,
      RowRun row (store.reportCount row.id calls) after := by
  induction calls generalizing store row with
  | nil => exact ⟨row, member, .refl row⟩
  | cons call calls ih =>
      obtain ⟨middle, middleMem, step⟩ := (execute_settling sound.selections call).step row member
      obtain ⟨after, afterMem, run⟩ := ih (perform_sound sound call) middleMem
      refine ⟨after, afterMem, ?_⟩
      rw [step.id_eq] at run
      simpa only [reportCount, decide_eq_true_eq] using run.cons step

/-- The row stored under an id after a sequence of calls. -/
def rowAfter (store : SharedStore) (calls : List StoreCall) (interactionId : String) :
    Option PendingInteraction :=
  (store.after calls).tables.getInteraction interactionId

/-- The life of one interaction from a store on, along every sequence of calls. -/
structure SettledOnce (store : SharedStore) (interactionId : String) : Prop where
  /-- The row stays stored. -/
  stored : ∀ calls, (store.rowAfter calls interactionId).isSome
  /-- A call reports the interaction exactly when it ends its waiting. -/
  reports : ∀ calls call before after, store.rowAfter calls interactionId = some before →
    store.rowAfter (calls ++ [call]) interactionId = some after →
    ((store.after calls).Reports call interactionId ↔
      before.isPending ∧ after.isPending = false)
  /-- It is reported once when it was settled, and never while it waits. -/
  reportCount : ∀ calls row, store.rowAfter calls interactionId = some row →
    store.reportCount interactionId calls = if row.isPending then 0 else 1
  /-- A settled row never changes. -/
  final : ∀ calls more row, store.rowAfter calls interactionId = some row →
    row.isPending = false → store.rowAfter (calls ++ more) interactionId = some row
  /-- The id of the Lark message is set at most once. -/
  larkMessageId : ∀ calls more row after, store.rowAfter calls interactionId = some row →
    store.rowAfter (calls ++ more) interactionId = some after → row.larkMessageId.isSome →
    after.larkMessageId = row.larkMessageId
  /-- A resolution recorded an allowed decision, a cancellation neither decision nor actor. -/
  recorded : ∀ calls row, store.rowAfter calls interactionId = some row → row.Recorded

/-- The row found after more calls is the one the run of the row ends in. -/
private theorem rowRun_of_rowAfter {store : SharedStore} (sound : store.Sound)
    (calls : List StoreCall) {interactionId : String} {row after : PendingInteraction}
    (found : store.tables.getInteraction interactionId = some row)
    (foundAfter : store.rowAfter calls interactionId = some after) :
    RowRun row (store.reportCount interactionId calls) after := by
  obtain ⟨member, rfl⟩ := getInteraction_eq_some.mp found
  obtain ⟨afterMem, same⟩ := getInteraction_eq_some.mp foundAfter
  obtain ⟨reached, reachedMem, run⟩ := after_rowRun sound calls member
  obtain rfl := interaction_unique reachedMem afterMem (run.id_eq.trans same.symm)
  exact run

/-- An interaction that was inserted as pending is settled at most once, by the
one call that reports it, and keeps what that call recorded. -/
theorem pending_interaction_settledOnce (earlier : List StoreCall) {row : PendingInteraction}
    (inserted : row ∈ (initial.after earlier).tables.interactions) (pending : row.isPending) :
    (initial.after earlier).SettledOnce row.id := by
  have sound := after_sound earlier
  have soundLater : ∀ calls, ((initial.after earlier).after calls).Sound := by
    intro calls
    rw [← after_append]
    exact after_sound (earlier ++ calls)
  have start := getInteraction_eq_some.mpr ⟨inserted, rfl⟩
  have laterRun : ∀ calls more found after,
      (initial.after earlier).rowAfter calls row.id = some found →
      (initial.after earlier).rowAfter (calls ++ more) row.id = some after →
      RowRun found (((initial.after earlier).after calls).reportCount row.id more) after := by
    intro calls more found after foundBefore foundAfter
    apply rowRun_of_rowAfter (soundLater calls) more foundBefore
    rw [rowAfter, ← after_append]
    exact foundAfter
  have stored : ∀ calls, ((initial.after earlier).rowAfter calls row.id).isSome := by
    intro calls
    obtain ⟨after, afterMem, run⟩ := after_rowRun sound calls inserted
    exact Option.isSome_of_eq_some (getInteraction_eq_some.mpr ⟨afterMem, run.id_eq⟩)
  refine ⟨stored, ?_, ?_, ?_, ?_, ?_⟩
  · intro calls call before after foundBefore foundAfter
    obtain ⟨member, same⟩ := getInteraction_eq_some.mp foundBefore
    obtain ⟨next, nextMem, step⟩ :=
      (execute_settling (soundLater calls).selections call).step before member
    have foundNext : (initial.after earlier).rowAfter (calls ++ [call]) row.id = some next := by
      rw [rowAfter, after_concat]
      exact getInteraction_eq_some.mpr ⟨nextMem, step.id_eq.trans same⟩
    obtain rfl := Option.some.inj (foundNext.symm.trans foundAfter)
    rw [← step.settled_iff, decide_eq_true_eq, same]
    rfl
  · intro calls after found
    exact (rowRun_of_rowAfter sound calls start found).reported pending
  · intro calls more found foundBefore done
    obtain ⟨after, foundAfter⟩ := Option.isSome_iff_exists.mp (stored (calls ++ more))
    obtain ⟨rfl, _⟩ := (laterRun calls more found after foundBefore foundAfter).final done
    exact foundAfter
  · intro calls more found after foundBefore foundAfter
    exact (laterRun calls more found after foundBefore foundAfter).larkMessageId_eq
  · intro calls after found
    have recorded : row.Recorded := by
      have status := beq_iff_eq.mp pending
      exact ⟨fun resolved => absurd (status.symm.trans resolved) (by decide),
        fun cancelled => absurd (status.symm.trans cancelled) (by decide)⟩
    exact (rowRun_of_rowAfter sound calls start found).recorded
      (sound.unresolved row inserted) recorded

/-- The approval that a session asks for right after it was created. -/
theorem approval_settledOnce :
    let session : CodexSession := ⟨"s", none, none, "name", "/work", none, "workspace-write",
      .starting, "", 0, 0⟩
    let approval : PendingInteraction := ⟨"i", "s", "1", .execApproval, .pending, none, "", 0,
      none, 60, none, none⟩
    (initial.after [.createSession session,
      .createInteractionAndMarkWaiting approval .waitingForApproval 0]).SettledOnce "i" := by
  intro session approval
  exact @pending_interaction_settledOnce _ approval (by decide +kernel) (by decide)

end SharedStore

end LarkBot
