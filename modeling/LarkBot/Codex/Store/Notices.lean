import LarkBot.Codex.Store.Journal

/-! # The last row of a session in the outbox

A session is reported as ended at most once, after everything else about it
(`LarkBot.SQLiteCodexStore.Notified`): this holds of every database that a journal
commits. That every ended session is reported (`LarkBot.SQLiteCodexStore.Reported`)
fails after each transaction that ends one, until the next transaction reports it.
-/

namespace LarkBot

open Foundation

namespace SQLiteCodexStore

/-- The row that reports the end of a session is the last row of the session, its
session has ended, and its type says how. -/
structure Notified (store : SQLiteCodexStore) : Prop where
  ended : ∀ item ∈ store.outbox, ∀ sessionId, item.ReportsEnd sessionId →
    ∃ session ∈ store.tables.sessions, session.id = sessionId ∧ session.status.isTerminal ∧
      item.notificationType = (sessionEndEvent session.status).notification
  last : store.outbox.Pairwise fun earlier later =>
    ∀ sessionId, earlier.ReportsEnd sessionId → later.sessionId ≠ some sessionId

/-- Every ended session has a row that reports its end. -/
def Reported (store : SQLiteCodexStore) : Prop :=
  ∀ session ∈ store.tables.sessions, session.status.isTerminal →
    ∃ item ∈ store.outbox, item.ReportsEnd session.id

/-- A session that is active in the first database has ended in the second. -/
def EndsSession (before after : SQLiteCodexStore) : Prop :=
  ∃ session ∈ before.tables.sessions, session.status.isActive ∧
    ∃ ended ∈ after.tables.sessions, ended.id = session.id ∧ ended.status.isTerminal

/-- An empty database has no ended session whose last row could be missing. -/
theorem notified_empty : Notified ⟨.empty, []⟩ :=
  ⟨fun _ absent => absurd absent List.not_mem_nil, List.Pairwise.nil⟩

/-- An empty database has no ended session to report. -/
theorem reported_empty : Reported ⟨.empty, []⟩ :=
  fun _ absent => absurd absent List.not_mem_nil

variable {store : SQLiteCodexStore}

/-- An ended session and an active session are not the same. -/
theorem ne_of_active {tables : CodexTables} {ended session : CodexSession}
    (endedMem : ended ∈ tables.sessions) (terminal : ended.status.isTerminal)
    (member : session ∈ tables.sessions) (active : session.status.isActive) :
    ended.id ≠ session.id := by
  intro same
  obtain rfl := CodexTables.session_unique endedMem member same
  rw [SessionStatus.isTerminal_eq_not_isActive, active] at terminal
  cases terminal

/-- The end of an active session was not reported. -/
theorem Notified.unreported (notified : store.Notified) {session : CodexSession}
    (member : session ∈ store.tables.sessions) (active : session.status.isActive) :
    ∀ item ∈ store.outbox, ¬ item.ReportsEnd session.id := by
  intro item itemMem reports
  obtain ⟨ended, endedMem, same, terminal, _⟩ := notified.ended item itemMem session.id reports
  exact ne_of_active endedMem terminal member active same

/-- A transaction keeps the last row of every session that had ended before. -/
theorem Notified.transact (notified : store.Notified) {tables : CodexTables}
    {status : SessionStatus} {ids : List String}
    (transacts : store.tables.Transacts tables status ids) :
    Notified { store with tables } where
  ended item member sessionId reports := by
    obtain ⟨session, sessionMem, same, terminal, named⟩ :=
      notified.ended item member sessionId reports
    exact ⟨session, transacts.terminal sessionMem terminal, same, terminal, named⟩
  last := notified.last

/-- At most one row reports the end of a session. -/
theorem Notified.reportedOnce (notified : store.Notified) (sessionId : String) :
    (store.outbox.countP fun item => item.ReportsEnd sessionId) ≤ 1 := by
  have last := notified.last
  generalize store.outbox = rows at last ⊢
  induction rows with
  | nil => exact Nat.zero_le 1
  | cons item rest ih =>
      obtain ⟨first, others⟩ := List.pairwise_cons.mp last
      by_cases reports : item.ReportsEnd sessionId
      · have none : (rest.countP fun item => item.ReportsEnd sessionId) = 0 := by
          apply List.countP_eq_zero.mpr
          intro later member
          rw [decide_eq_true_eq]
          exact fun other => first later member sessionId reports other.1
        simp only [List.countP_cons, reports, none, decide_true, ↓reduceIte, Nat.le_refl]
      · simp only [List.countP_cons, reports, decide_false, Bool.false_eq_true, ↓reduceIte]
        exact ih others

/-- Nothing about a session follows the row that reports its end. -/
theorem Notified.nothingFollows (notified : store.Notified) {sessionId : String}
    {earlier later : List NotificationOutboxItem} {item : NotificationOutboxItem}
    (rows : store.outbox = earlier ++ item :: later) (reports : item.ReportsEnd sessionId) :
    ∀ other ∈ later, other.sessionId ≠ some sessionId := by
  have last := notified.last
  rw [rows] at last
  obtain ⟨_, after, _⟩ := List.pairwise_append.mp last
  exact fun other member => (List.pairwise_cons.mp after).1 other member sessionId reports

/-- The type of the last row of a session says how the session ended. -/
theorem Notified.endType (notified : store.Notified) {item : NotificationOutboxItem}
    (member : item ∈ store.outbox) {sessionId : String} (reports : item.ReportsEnd sessionId) :
    ∃ session ∈ store.tables.sessions, session.id = sessionId ∧ session.status.isTerminal ∧
      (item.notificationType = OrchestratorEventType.sessionInterrupted.notification ↔
        session.status = .interrupted) := by
  obtain ⟨session, sessionMem, same, terminal, named⟩ :=
    notified.ended item member sessionId reports
  refine ⟨session, sessionMem, same, terminal, ?_⟩
  rw [named, OrchestratorEventType.notification_injective.eq_iff, sessionEndEvent]
  by_cases interrupted : session.status = .interrupted
  · simp only [interrupted, ↓reduceIte]
  · simp only [interrupted, ↓reduceIte, reduceCtorEq]

/-- An item of a list that grew by one is an old one or the new one. -/
theorem mem_append_singleton {items : List NotificationOutboxItem}
    {item new : NotificationOutboxItem} :
    item ∈ items ++ [new] ↔ item ∈ items ∨ item = new := by
  rw [List.mem_append, List.mem_singleton]

/-- A row of a session whose end was not reported may follow, if it is right about
the session in case it reports its end. -/
theorem Notified.enqueue (notified : store.Notified) {item : NotificationOutboxItem}
    {sessionId : String} (about : item.sessionId = some sessionId)
    (unreported : ∀ earlier ∈ store.outbox, ¬ earlier.ReportsEnd sessionId)
    (right : item.ReportsEnd sessionId → ∃ session ∈ store.tables.sessions,
      session.id = sessionId ∧ session.status.isTerminal ∧
        item.notificationType = (sessionEndEvent session.status).notification) :
    Notified { store with outbox := store.outbox ++ [item] } where
  ended other member otherId reports := by
    rcases mem_append_singleton.mp member with old | rfl
    · exact notified.ended other old otherId reports
    · obtain rfl := Option.some.inj (about.symm.trans reports.1)
      exact right reports
  last := by
    refine List.pairwise_append.mpr ⟨notified.last, List.pairwise_singleton _ _, ?_⟩
    intro earlier earlierMem later laterMem otherId reports same
    obtain rfl := List.mem_singleton.mp laterMem
    obtain rfl := Option.some.inj (about.symm.trans same)
    exact unreported earlier earlierMem reports

/-- A row about no session changes nothing for the sessions. -/
theorem Notified.enqueueForeign (notified : store.Notified) {item : NotificationOutboxItem}
    (foreign : item.sessionId = none) :
    Notified { store with outbox := store.outbox ++ [item] } where
  ended other member sessionId reports := by
    rcases mem_append_singleton.mp member with old | rfl
    · exact notified.ended other old sessionId reports
    · cases foreign.symm.trans reports.1
  last := by
    refine List.pairwise_append.mpr ⟨notified.last, List.pairwise_singleton _ _, ?_⟩
    intro earlier _ later laterMem sessionId _ same
    obtain rfl := List.mem_singleton.mp laterMem
    cases foreign.symm.trans same

/-- A row of the event that reports an end reports it. -/
theorem reportsEnd_of_end {item : NotificationOutboxItem} {sessionId : String}
    {status : SessionStatus} (about : item.sessionId = some sessionId)
    (named : item.notificationType = (sessionEndEvent status).notification) :
    item.ReportsEnd sessionId := by
  refine ⟨about, ?_⟩
  unfold sessionEndEvent at named
  split at named
  next => exact Or.inr named
  next => exact Or.inl named

/-- The rows of the sessions that a transaction ended follow one by one. -/
theorem Notified.afterEach (notified : store.Notified) {status : SessionStatus}
    {ids : List String} {items : List NotificationOutboxItem} (nodup : ids.Nodup)
    (about : items.map NotificationOutboxItem.sessionId = ids.map some)
    (named : ∀ item ∈ items, item.notificationType = (sessionEndEvent status).notification)
    (ended : ∀ id ∈ ids, ∃ session ∈ store.tables.sessions, session.id = id ∧
      session.status = status ∧ status.isTerminal)
    (unreported : ∀ id ∈ ids, ∀ earlier ∈ store.outbox, ¬ earlier.ReportsEnd id) :
    Notified { store with outbox := store.outbox ++ items } ∧
      ∀ database ∈ store.afterEach items, database.Notified := by
  induction items generalizing store ids with
  | nil =>
      rw [List.append_nil]
      exact ⟨notified, fun _ absent => absurd absent List.not_mem_nil⟩
  | cons item rest ih =>
      cases ids with
      | nil => cases about
      | cons id ids =>
          obtain ⟨itemAbout, restAbout⟩ := List.cons.inj about
          obtain ⟨fresh, restNodup⟩ := List.nodup_cons.mp nodup
          have itemNamed := named item List.mem_cons_self
          have first : Notified { store with outbox := store.outbox ++ [item] } := by
            apply notified.enqueue itemAbout (unreported id List.mem_cons_self)
            intro _
            obtain ⟨session, member, same, rfl, terminal⟩ := ended id List.mem_cons_self
            exact ⟨session, member, same, terminal, itemNamed⟩
          have restNamed := fun other member => named other (List.mem_cons_of_mem item member)
          have restEnded := fun other member => ended other (List.mem_cons_of_mem id member)
          obtain ⟨final, each⟩ := ih first restNodup restAbout restNamed restEnded (by
              intro other member earlier earlierMem reports
              rcases mem_append_singleton.mp earlierMem with old | rfl
              · exact unreported other (List.mem_cons_of_mem _ member) earlier old reports
              · obtain rfl := Option.some.inj (itemAbout.symm.trans reports.1)
                exact fresh member)
          constructor
          · simpa only [List.append_assoc, List.singleton_append] using final
          · intro database member
            rcases List.mem_cons.mp member with rfl | later
            · exact first
            · exact each database later

/-- A move keeps the last row of every ended session the last, also in between. -/
theorem Notified.move (notified : store.Notified) {ids : List String}
    {commits : List SQLiteCodexStore} {next : SQLiteCodexStore}
    (move : StoreMove store ids commits next) :
    next.Notified ∧ ∀ database ∈ commits, database.Notified := by
  cases move with
  | transact tables status ids items transacts about named =>
      have between := notified.transact transacts
      obtain ⟨final, each⟩ := between.afterEach transacts.nodup about named
        (fun id listed => (transacts.ended id listed).2) (by
          intro id listed
          obtain ⟨⟨session, member, rfl, active⟩, _⟩ := transacts.ended id listed
          exact notified.unreported member active)
      refine ⟨final, fun database member => ?_⟩
      rcases List.mem_cons.mp member with rfl | later
      · exact between
      · exact each database later
  | announce item session eventType member active about interim named =>
      have final : Notified { store with outbox := store.outbox ++ [item] } := by
        apply notified.enqueue about (notified.unreported member active)
        intro reports
        rcases reports.2 with completed | interrupted
        · have same := OrchestratorEventType.notification_injective (named.symm.trans completed)
          exact absurd same interim.1
        · have same := OrchestratorEventType.notification_injective (named.symm.trans interrupted)
          exact absurd same interim.2
      exact ⟨final, fun database listed => List.mem_singleton.mp listed ▸ final⟩

/-- An update of the delivery columns keeps the last rows. -/
theorem Notified.updateWhere (notified : store.Notified)
    {selected : NotificationOutboxItem → Bool}
    {change : NotificationOutboxItem → NotificationOutboxItem}
    (about : ∀ item, (change item).sessionId = item.sessionId)
    (named : ∀ item, (change item).notificationType = item.notificationType) :
    Notified { store with outbox := Foundation.updateWhere selected change store.outbox } := by
  have same : ∀ item : NotificationOutboxItem,
      (if selected item then change item else item).sessionId = item.sessionId ∧
        (if selected item then change item else item).notificationType =
          item.notificationType := by
    intro item
    split
    next => exact ⟨about item, named item⟩
    next => exact ⟨rfl, rfl⟩
  constructor
  · intro item member sessionId reports
    obtain ⟨old, oldMem, rfl⟩ := mem_updateWhere.mp member
    rw [(same old).2]
    apply notified.ended old oldMem sessionId
    rwa [NotificationOutboxItem.ReportsEnd, (same old).1, (same old).2] at reports
  · refine List.pairwise_map.mpr (notified.last.imp ?_)
    intro earlier later last sessionId reports
    rw [(same later).1]
    apply last sessionId
    rwa [NotificationOutboxItem.ReportsEnd, (same earlier).1, (same earlier).2] at reports

/-- A further row keeps every ended session reported. -/
theorem Reported.enqueue (reported : store.Reported) (item : NotificationOutboxItem) :
    Reported { store with outbox := store.outbox ++ [item] } := by
  intro session member terminal
  obtain ⟨earlier, earlierMem, reports⟩ := reported session member terminal
  exact ⟨earlier, List.mem_append_left _ earlierMem, reports⟩

/-- Between two moves every ended session is reported. -/
theorem Reported.move (reported : store.Reported) {ids : List String}
    {commits : List SQLiteCodexStore} {next : SQLiteCodexStore}
    (move : StoreMove store ids commits next) : next.Reported := by
  cases move with
  | transact tables status ids items transacts about named =>
      intro session member terminal
      rcases transacts.ends session member terminal with old | ⟨listed, _⟩
      · obtain ⟨item, itemMem, reports⟩ := reported session old terminal
        exact ⟨item, List.mem_append_left _ itemMem, reports⟩
      · have present : some session.id ∈ items.map NotificationOutboxItem.sessionId :=
          about ▸ List.mem_map_of_mem listed
        obtain ⟨item, itemMem, itemAbout⟩ := List.mem_map.mp present
        exact ⟨item, List.mem_append_right _ itemMem,
          reportsEnd_of_end itemAbout (named item itemMem)⟩
  | announce item => exact reported.enqueue item

/-- An update of the delivery columns keeps every ended session reported. -/
theorem Reported.updateWhere (reported : store.Reported)
    {selected : NotificationOutboxItem → Bool}
    {change : NotificationOutboxItem → NotificationOutboxItem}
    (about : ∀ item, (change item).sessionId = item.sessionId)
    (named : ∀ item, (change item).notificationType = item.notificationType) :
    Reported { store with outbox := Foundation.updateWhere selected change store.outbox } := by
  intro session member terminal
  obtain ⟨item, itemMem, reports⟩ := reported session member terminal
  refine ⟨_, mem_updateWhere.mpr ⟨item, itemMem, rfl⟩, ?_⟩
  split
  next => exact ⟨(about item).trans reports.1, (named item).symm ▸ reports.2⟩
  next => exact reports

/-- There is one database for each row of the list. -/
theorem length_afterEach (store : SQLiteCodexStore) (items : List NotificationOutboxItem) :
    (store.afterEach items).length = items.length := by
  induction items generalizing store with
  | nil => rfl
  | cons item rest ih => exact congrArg Nat.succ (ih _)

/-- The last of the databases has all the rows of the list. -/
theorem last_afterEach (store : SQLiteCodexStore) (items : List NotificationOutboxItem) :
    ∃ rest, store :: store.afterEach items =
      rest ++ [{ store with outbox := store.outbox ++ items }] := by
  induction items generalizing store with
  | nil => exact ⟨[], by rw [List.append_nil]; rfl⟩
  | cons item items ih =>
      obtain ⟨rest, last⟩ := ih { store with outbox := store.outbox ++ [item] }
      refine ⟨store :: rest, ?_⟩
      simp only [afterEach, last, List.cons_append, List.append_assoc, List.nil_append]

/-- The last database that a move commits is the one it ends in. -/
theorem last_of_move {ids : List String} {commits : List SQLiteCodexStore}
    {next : SQLiteCodexStore} (move : StoreMove store ids commits next) :
    ∃ rest, store :: commits = rest ++ [next] := by
  cases move with
  | transact tables status ids items =>
      obtain ⟨rest, last⟩ := last_afterEach { store with tables } items
      exact ⟨store :: rest, by rw [last, List.cons_append]⟩
  | announce item => exact ⟨[store], rfl⟩

/-- After as many transactions as a move has, the database is the one it ends in. -/
theorem move_at_end {ids : List String} {commits : List SQLiteCodexStore}
    {next database : SQLiteCodexStore} {transactions : Nat}
    (move : StoreMove store ids commits next) (enough : ids.length < transactions)
    (found : (store :: commits)[transactions]? = some database) : database = next := by
  have count : commits.length = ids.length + 1 := by
    cases move with
    | transact tables status ids items _ about =>
        have same := congrArg List.length about
        rw [List.length_map, List.length_map] at same
        rw [List.length_cons, length_afterEach, same]
    | announce => rfl
  obtain ⟨rest, last⟩ := last_of_move move
  have size := congrArg List.length last
  rw [List.length_cons, List.length_append, List.length_singleton, count] at size
  obtain ⟨inside, _⟩ := List.getElem?_eq_some_iff.mp found
  rw [List.length_cons, count] at inside
  obtain rfl : transactions = rest.length := by omega
  rw [last, List.getElem?_append_right (Nat.le_refl _), Nat.sub_self] at found
  exact (Option.some.inj found).symm

/-- A session is unreported only right after the transaction that ended it. -/
theorem Reported.isChain (reported : store.Reported) {ids : List String}
    {commits : List SQLiteCodexStore} {next : SQLiteCodexStore} (single : ids.length ≤ 1)
    (move : StoreMove store ids commits next) :
    (store :: commits).IsChain fun before after => after.Reported ∨ before.EndsSession after := by
  have final := reported.move move
  cases move with
  | announce item => exact .cons_cons (Or.inl final) (.singleton _)
  | transact tables status ids items transacts about named =>
      cases ids with
      | nil =>
          obtain rfl := List.map_eq_nil_iff.mp about
          rw [List.append_nil] at final
          exact .cons_cons (Or.inl final) (.singleton _)
      | cons id others =>
          obtain rfl : others = [] := List.length_eq_zero_iff.mp (Nat.le_zero.mp
            (Nat.le_of_succ_le_succ single))
          obtain ⟨item, rfl, _⟩ := List.map_eq_singleton_iff.mp about
          obtain ⟨⟨session, member, same, active⟩, ended, endedMem, endedSame, status, terminal⟩ :=
            transacts.ended id List.mem_cons_self
          refine .cons_cons (Or.inr ?_) (.cons_cons (Or.inl final) (.singleton _))
          exact ⟨session, member, active, ended, endedMem, endedSame.trans same.symm,
            status ▸ terminal⟩

end SQLiteCodexStore

namespace Journal

open SQLiteCodexStore

variable {start store : SQLiteCodexStore} {commits : List SQLiteCodexStore}

/-- A journal keeps the last row of every ended session the last, in every database that
it commits. -/
theorem notified (journal : Journal start commits store) (initially : start.Notified) :
    store.Notified ∧ ∀ database ∈ commits, database.Notified :=
  ⟨journal.invariant Notified initially fun _ _ _ _ notified move => (notified.move move).1,
    journal.commits_of_moves Notified Notified initially fun _ _ _ _ notified move =>
      notified.move move⟩

/-- A journal reports every session that it ends, at the next commit at the latest. -/
theorem reported (journal : Journal start commits store) (initially : start.Reported) :
    store.Reported ∧ (start :: commits).IsChain fun before after =>
      after.Reported ∨ before.EndsSession after := by
  obtain ⟨final, chain, _⟩ := journal.isChain_of_moves Reported _ initially
    fun _ _ _ _ reported single move =>
      ⟨reported.move move, reported.isChain single move, last_of_move move⟩
  exact ⟨final, chain⟩

end Journal

end LarkBot
