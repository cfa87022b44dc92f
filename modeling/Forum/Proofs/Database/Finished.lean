import Forum.Proofs.Database.Bracket
import Forum.Proofs.Service.Finished

/-!
# Transactions of a database that are over

A call sends what it sends in the transaction that it belongs to, and leaves which transaction is open (`Stays.run`).
Through a transaction that is not the open one it sends nothing and is refused (`refused_run`). A transaction that was
committed or rolled back is never the open one again, also where the database has refused the command (`Past.deed`,
`past_of_end`). So in memory and in the database, transactions that are over are dead (`finished_transactions_dead`).
-/

namespace Forum.Database

open Session Sharing

variable {ε α β : Type} {s : Session} {tx : Handle}

/-! ## A database as a repository -/

/-- A call of one of the stores. -/
inductive StoreCall where
  | posts (call : PostCall)
  | comments (call : CommentCall)
  | replica (call : ReplicaCall)
deriving DecidableEq, Repr

/-- Makes a call, as part of a transaction or on its own. -/
def StoreCall.run (tx : Option Handle) : StoreCall → Action Session Answer
  | posts c => c.run postStore tx
  | comments c => c.run commentStore tx
  | replica c => c.run (replicaStore tx)

/-- The stores of a database as a repository, which can be made to refuse commands that start with a text. -/
def repository : Repository Session StoreCall :=
  ⟨transactions, fun c tx => c.run tx, fun start s => { s with refused := start :: s.refused }⟩

/-! ## What calls keep -/

section

variable {R : Session → Session → Prop}

/-- A request as an operation of a store keeps what it keeps as a request. -/
theorem keeps_action {r : Request α} (h : Keeps R r) : Keeps R r.action := by
  intro s
  have hs := h s
  unfold Request.action
  rcases hr : r s with ⟨e | x, s'⟩
  · rw [hr] at hs
    exact hs
  · rw [hr] at hs
    exact hs

variable [IsPreorder Session R]

/-- Reading a row leaves the session as it is. -/
theorem keeps_read (r : RowReader α) (row : List Cell) : Keeps R (r.read row) := by
  unfold RowReader.read
  split
  · exact keeps_pure _
  · exact keeps_throw _

theorem keeps_orMissing {r : Request Nat} (h : Keeps R r) (e : Error) : Keeps R (orMissing e r) := by
  refine (keeps_action h).bind fun n => ?_
  split
  · exact keeps_throw e
  · exact keeps_pure ()

theorem keeps_orNotFound {r : Request (Option α)} (h : Keeps R r) (e : Error) : Keeps R (orNotFound e r) := by
  refine (keeps_action h).bind fun found => ?_
  cases found with
  | none => exact keeps_throw e
  | some x => exact keeps_pure x

/-- How many records were affected does not matter to what is kept. -/
theorem keeps_affects {r : Request Nat} (h : Keeps R r) : Keeps R (affects r) :=
  (keeps_action h).bind fun _ => keeps_pure _

variable {tx : Option Handle} (hsend : ∀ st, Keeps R (send tx st))

include hsend

/-- What sending a statement keeps, its execution keeps. -/
theorem keeps_execute (st : Statement) : Keeps R (execute tx st) :=
  (hsend st).bind fun r => by cases r <;> exact keeps_pure _

/-- What sending a statement keeps, a query keeps. -/
theorem keeps_query (st : Statement) : Keeps R (query tx st) :=
  (hsend st).bind fun r => by cases r <;> exact keeps_pure _

/-- What sending a statement keeps, fetching all its rows keeps. -/
theorem keeps_fetchAll (r : RowReader α) (st : Statement) : Keeps R (fetchAll tx r st) := by
  refine (keeps_query hsend st).bind fun rows => ?_
  induction rows with
  | nil => exact keeps_pure []
  | cons row rows ih =>
    rw [List.mapM_cons]
    exact (keeps_read r row).bind fun x => ih.bind fun xs => keeps_pure (x :: xs)

/-- What sending a statement keeps, fetching its first row keeps. -/
theorem keeps_fetchOne (r : RowReader α) (st : Statement) : Keeps R (fetchOne tx r st) := by
  refine (keeps_query hsend st).bind fun rows => ?_
  cases rows with
  | nil => exact keeps_pure none
  | cons row rows => exact (keeps_read r row).map some

/-- What every statement of a transaction keeps, every call keeps. -/
theorem keeps_run (c : StoreCall) : Keeps R (c.run tx) := by
  have execute st := keeps_execute hsend st
  have list {α : Type} (r : RowReader α) st := keeps_action (keeps_fetchAll hsend r st)
  have one {α : Type} (r : RowReader α) st := keeps_fetchOne hsend r st
  cases c with
  | posts c =>
    cases c with
    | create post => exact ((keeps_action (execute _)).map _).map _
    | update post => exact (keeps_orMissing (execute _) _).map _
    | delete id => exact (keeps_affects (execute _)).map _
    | page page => exact (list _ _).map _
    | find id => exact (keeps_orNotFound (one _ _) _).map _
    | ofUser user => exact (list _ _).map _
  | comments c =>
    cases c with
    | create comment => exact ((keeps_action (execute _)).map _).map _
    | update comment => exact (keeps_orMissing (execute _) _).map _
    | delete id => exact (keeps_affects (execute _)).map _
    | page page => exact (list _ _).map _
    | find id => exact (keeps_orNotFound (one _ _) _).map _
    | ofUser user => exact (list _ _).map _
    | ofPost post => exact (list _ _).map _
    | withPost post => exact (list _ _).map _
  | replica c =>
    cases c with
    | insert post =>
      refine Keeps.map ((keeps_affects (execute _)).bind fun inserted => ?_) _
      cases inserted with
      | true => exact keeps_pure _
      | false =>
        refine (keeps_action (one _ _)).bind fun found => ?_
        cases found <;> exact keeps_pure _
    | update post =>
      exact Keeps.map ((keeps_affects (execute _)).bind fun was => by cases was <;> exact keeps_pure _) _
    | delete id =>
      exact Keeps.map ((keeps_affects (execute _)).bind fun was => by cases was <;> exact keeps_pure _) _
    | find id => exact (keeps_action (one _ _)).map _

end

/-! ## What stays -/

/-- An operation begins and ends no transaction. -/
def Stays (a : ExceptT ε (StateM Session) α) : Prop :=
  ∀ s, (a s).2.current = s.current ∧ (a s).2.begun = s.begun

/-- The same transaction is open, and as many were begun. -/
def Unmoved (s s' : Session) : Prop := s'.current = s.current ∧ s'.begun = s.begun

instance : IsPreorder Session Unmoved where
  refl _ := ⟨rfl, rfl⟩
  trans _ _ _ h h' := ⟨h'.1.trans h.1, h'.2.trans h.2⟩

/-- The rollback of what was abandoned opens and ends no transaction. -/
theorem settle_stays (s : Session) : s.settle.current = s.current ∧ s.settle.begun = s.begun := by
  unfold settle
  split
  · exact ⟨rfl, rfl⟩
  · exact ⟨rfl, rfl⟩

/-- Finding the free connection opens and ends no transaction. -/
theorem unmoved_acquire : Keeps Unmoved acquire := by
  intro s
  unfold acquire
  split
  · exact ⟨rfl, rfl⟩
  · split
    · exact ⟨rfl, rfl⟩
    · exact settle_stays s

/-- A statement and its reply open and end no transaction. -/
theorem unmoved_exchange (st : Statement) : Keeps Unmoved (exchange st) := by
  rintro ⟨_ | ⟨reply, replies⟩⟩
  · exact ⟨rfl, rfl⟩
  · cases reply <;> exact ⟨rfl, rfl⟩

/-- A statement opens and ends no transaction, wherever it is sent. -/
theorem unmoved_send (tx : Option Handle) (st : Statement) : Keeps Unmoved (send tx st) := by
  cases tx with
  | none => exact unmoved_acquire.bind fun _ => unmoved_exchange st
  | some tx =>
    have hopen : Keeps Unmoved (requireOpen tx) := fun _ => ⟨rfl, rfl⟩
    exact hopen.bind fun _ => unmoved_exchange st

/-- A call begins and ends no transaction. -/
theorem Stays.run (tx : Option Handle) (c : StoreCall) : Stays (c.run tx) := keeps_run (unmoved_send tx) c

/-! ## Refused calls -/

/-- The error of what is done through a transaction that is over. -/
def overError : Error := StoreFault.transactionOver.error

/-- An operation is refused as one of a transaction that is over, and leaves the session. -/
def Refused (s : Session) (a : Action Session α) : Prop := a s = (.error overError, s)

/-- What follows a refused operation is not done. -/
theorem Refused.bind {a : Action Session α} (h : Refused s a) (f : α → Action Session β) : Refused s (a >>= f) :=
  Action.bind_of_error h f

/-- A refused operation has no answer to be made something of. -/
theorem Refused.map {a : Action Session α} (h : Refused s a) (f : α → β) : Refused s (f <$> a) :=
  Action.map_of_error h f

section

variable (h : s.current ≠ some tx)

include h

/-- A transaction that is not the open one is found to be over. -/
theorem requireOpen_of_over : requireOpen tx s = (.error .transactionOver, s) := by rw [requireOpen, if_neg h]

/-- A request that starts with a statement is refused. -/
theorem refused_bind (st : Statement) (f : Reply → Request α) : Refused s (send (some tx) st >>= f).action := by
  have hsend : send (some tx) st s = (.error .transactionOver, s) :=
    Action.bind_of_error (requireOpen_of_over h) _
  rw [Refused, Request.action, Action.bind_of_error hsend]
  rfl

/-- A statement is not executed. -/
theorem refused_execute (st : Statement) : Refused s (execute (some tx) st).action := refused_bind h st _

/-- No rows are fetched. -/
theorem refused_fetchAll (r : RowReader α) (st : Statement) : Refused s (fetchAll (some tx) r st).action := by
  rw [fetchAll, query, bind_assoc]
  exact refused_bind h st _

/-- No row is fetched. -/
theorem refused_fetchOne (r : RowReader α) (st : Statement) : Refused s (fetchOne (some tx) r st).action := by
  rw [fetchOne, query, bind_assoc]
  exact refused_bind h st _

/-- Through a transaction that is not the open one a call sends nothing and is refused. -/
theorem refused_run (c : StoreCall) : Refused s (c.run (some tx)) := by
  cases c with
  | posts c =>
    cases c with
    | create post => exact ((refused_execute h _).map _).map _
    | update post => exact ((refused_execute h _).bind _).map _
    | delete id => exact ((refused_execute h _).bind _).map _
    | page page => exact (refused_fetchAll h _ _).map _
    | find id => exact ((refused_fetchOne h _ _).bind _).map _
    | ofUser user => exact (refused_fetchAll h _ _).map _
  | comments c =>
    cases c with
    | create comment => exact ((refused_execute h _).map _).map _
    | update comment => exact ((refused_execute h _).bind _).map _
    | delete id => exact ((refused_execute h _).bind _).map _
    | page page => exact (refused_fetchAll h _ _).map _
    | find id => exact ((refused_fetchOne h _ _).bind _).map _
    | ofUser user => exact (refused_fetchAll h _ _).map _
    | ofPost post => exact (refused_fetchAll h _ _).map _
    | withPost post => exact (refused_fetchAll h _ _).map _
  | replica c =>
    cases c with
    | insert post => exact (((refused_execute h _).bind _).bind _).map _
    | update post => exact (((refused_execute h _).bind _).bind _).map _
    | delete id => exact (((refused_execute h _).bind _).bind _).map _
    | find id => exact (refused_fetchOne h _ _).map _

/-- A transaction that is over is neither committed nor rolled back once more. -/
theorem refused_finish (c : Command) : Refused s (finish tx c).action := by
  rw [Refused, Request.action, finish, Action.bind_of_error (requireOpen_of_over h)]
  rfl

end

/-! ## Transactions of a name -/

/-- All transactions that have names have begun. -/
def Known (m : Shared Session) : Prop := ∀ y tx, m.named y = some tx → tx < m.state.begun

/-- The transaction of a name has begun and is not the open one. -/
def Past (name : String) (m : Shared Session) : Prop :=
  ∃ tx, m.named name = some tx ∧ tx < m.state.begun ∧ m.state.current ≠ some tx

variable {m : Shared Session} {name : String} {d : Deed StoreCall}

/-- Ends a transaction by a command. -/
def ending (tx : Handle) (c : Command) : Action Session Answer := (fun _ => .done) <$> (finish tx c).action

/-- The end of a transaction leaves it closed, whether the database takes or refuses it, and opens no other one. -/
theorem ending_after (tx : Handle) (c : Command) (s : Session) :
    (ending tx c s).2.begun = s.begun ∧
      ((ending tx c s).2.current = s.current ∨ (ending tx c s).2.current = none) ∧
        (ending tx c s).2.current ≠ some tx := by
  rw [ending, Action.map_snd]
  by_cases h : s.current = some tx
  · rw [finish_of_open h]
    unfold ended
    split
    · exact ⟨rfl, .inr rfl, nofun⟩
    · exact ⟨rfl, .inr rfl, nofun⟩
  · rw [refused_finish h]
    exact ⟨rfl, .inl rfl, h⟩

/-- A transaction begins, or none does and the open one stays so or ends. -/
theorem perform_cases (m : Shared Session) (d : Deed StoreCall) :
    (∃ y, d = .begin y ∧
        (perform repository m d).2 = (⟨m.state.opened, m.named⟩ : Shared Session).name y m.state.begun) ∨
      (perform repository m d).2.named = m.named ∧ (perform repository m d).2.state.begun = m.state.begun ∧
        ((perform repository m d).2.state.current = m.state.current ∨
          (perform repository m d).2.state.current = none) := by
  cases d with
  | begin y =>
    have hbegin : repository.transactions.begin = transactions.begin := rfl
    simp only [perform, hbegin]
    rcases begin_cases m.state with ⟨fault, -, h⟩ | ⟨-, -, h⟩ | ⟨-, -, h⟩
    · rw [h]
      exact .inr ⟨rfl, rfl, .inl rfl⟩
    · rw [h]
      obtain ⟨hcurrent, hbegun⟩ := settle_stays m.state
      exact .inr ⟨rfl, hbegun, .inl hcurrent⟩
    · rw [h]
      exact .inl ⟨y, rfl, rfl⟩
  | call name? c =>
    cases name? with
    | none => exact .inr ⟨rfl, (Stays.run none c m.state).2, .inl (Stays.run none c m.state).1⟩
    | some y =>
      simp only [perform, Shared.actAs]
      cases m.named y with
      | none => exact .inr ⟨rfl, rfl, .inl rfl⟩
      | some tx => exact .inr ⟨rfl, (Stays.run (some tx) c m.state).2, .inl (Stays.run (some tx) c m.state).1⟩
  | commit y =>
    simp only [perform, Shared.actAs]
    cases m.named y with
    | none => exact .inr ⟨rfl, rfl, .inl rfl⟩
    | some tx =>
      obtain ⟨hbegun, hcurrent, -⟩ := ending_after tx .commit m.state
      exact .inr ⟨rfl, hbegun, hcurrent⟩
  | rollback y =>
    simp only [perform, Shared.actAs]
    cases m.named y with
    | none => exact .inr ⟨rfl, rfl, .inl rfl⟩
    | some tx =>
      obtain ⟨hbegun, hcurrent, -⟩ := ending_after tx .rollback m.state
      exact .inr ⟨rfl, hbegun, hcurrent⟩
  | fail start => exact .inr ⟨rfl, rfl, .inl rfl⟩

/-- Whatever is done, the transactions that have names have begun. -/
theorem Known.deed (h : Known m) (d : Deed StoreCall) : Known (perform repository m d).2 := by
  intro z tx hz
  rcases perform_cases m d with ⟨y, -, hbegun⟩ | ⟨hnamed, hbegun, -⟩
  · rw [hbegun] at hz ⊢
    simp only [Shared.name] at hz
    split at hz
    · rw [← Option.some.inj hz]
      exact Nat.lt_succ_self _
    · exact Nat.lt_succ_of_lt (h z tx hz)
  · rw [hnamed] at hz
    rw [hbegun]
    exact h z tx hz

/-- After any deeds, the transactions that have names have begun. -/
theorem known_after (ds : List (Deed StoreCall)) : ∀ {m : Shared Session}, Known m → Known (after repository ds m) := by
  induction ds with
  | nil => exact fun h => h
  | cons d ds ih => exact fun h => ih (h.deed d)

/-- A transaction that is not the open one never becomes it. -/
theorem Past.deed (h : Past name m) (hd : d ≠ .begin name) : Past name (perform repository m d).2 := by
  obtain ⟨tx, hname, hlt, hover⟩ := h
  rcases perform_cases m d with ⟨y, rfl, hbegun⟩ | ⟨hnamed, hbegun, hcurrent⟩
  · -- the transaction that begins has a handle that no earlier one has
    have hother : name ≠ y := fun heq => hd (heq ▸ rfl)
    rw [hbegun]
    refine ⟨tx, (if_neg hother).trans hname, Nat.lt_succ_of_lt hlt, fun hopen => ?_⟩
    exact absurd (Option.some.inj hopen) (Nat.ne_of_gt hlt)
  · refine ⟨tx, hnamed ▸ hname, hbegun ▸ hlt, ?_⟩
    rcases hcurrent with hcurrent | hcurrent
    · exact hcurrent ▸ hover
    · exact hcurrent ▸ nofun

/-- Once it was committed or rolled back, whether the database took or refused that, a transaction is not the open
one. -/
theorem past_of_end (h : Known m) (hname : (m.named name).isSome = true) (hd : d.Ends name) :
    Past name (perform repository m d).2 := by
  obtain ⟨tx, htx⟩ := Option.isSome_iff_exists.1 hname
  have hend (c : Command) : Past name (m.act (ending tx c)).2 := by
    obtain ⟨hbegun, -, hcurrent⟩ := ending_after tx c m.state
    exact ⟨tx, htx, hbegun.symm ▸ h name tx htx, hcurrent⟩
  rcases hd with rfl | rfl
  · simp only [perform, Shared.actAs, htx]
    exact hend .commit
  · simp only [perform, Shared.actAs, htx]
    exact hend .rollback

/-- What is done through a transaction that is over is refused, sends nothing and changes nothing. -/
theorem Past.refuses (h : Past name m) (huses : d.Uses name) :
    perform repository m d = (some (.error overError), m) := by
  obtain ⟨tx, hname, -, hover⟩ := h
  obtain ⟨a, ha, hperform⟩ := perform_of_uses (r := repository) (P := Refused m.state) hname huses
    (fun c _ => refused_run hover c) ((refused_finish hover .commit).map _) ((refused_finish hover .rollback).map _)
  rw [hperform, Shared.act, ha]

/-- A transaction of a database is dead after its end, whatever the database replied to that. -/
theorem dead_of_end (ds : List (Deed StoreCall)) (s : Session)
    (hname : ((after repository ds (.new s)).named name).isSome = true) (hd : d.Ends name) :
    Dead repository id (fun _ e => e = overError) (fun _ => False) name
      (perform repository (after repository ds (.new s)) d).2 := by
  refine dead_of_kept (P := Past name) (fun _ _ h hd => h.deed hd) (fun m d h huses _ => ?_)
    (past_of_end (known_after ds nofun) hname hd)
  have hperform := h.refuses huses
  exact ⟨overError, congrArg Prod.fst hperform, rfl, congrArg (fun result => result.2.state) hperform⟩

end Forum.Database

namespace Forum

open Sharing Memory

/-! ## In memory and in the database -/

/-- The switches of the store of posts fail with errors of transactions. -/
theorem Memory.Posts.faults_transactional (x : Bool × Bool × Bool) : (Posts.faults x).Transactional := by
  intro e he
  have hswitch (fails : Bool) (reason : String)
      (h : (if fails then some (Error.transaction reason) else none) = some e) : ∃ reason, e = .transaction reason := by
    cases fails with
    | true => exact ⟨reason, (Option.some.inj h).symm⟩
    | false => cases h
  rcases he with he | he | he
  · exact hswitch _ _ he
  · exact hswitch _ _ he
  · exact hswitch _ _ he

/-- Once a transaction was committed or rolled back, each deed through it is refused as one of a transaction that is
over, unless the writes of its key are made to fail, and changes nothing. Of posts this is so where no switch has kept
the end from the table, and of comments for all but the calls that ask for a post that the replica does not have. In
the database it is so without exception, also where the database has refused to commit or to roll back. -/
theorem finished_transactions_dead (name : String) :
    (∀ (ds : List (Deed PostCall)) (s : Posts) (d : Deed PostCall),
        ((after Posts.repository ds (.new s)).named name).isSome = true → d.Ends name →
          (Posts.faults s.switches).of d = none →
            Dead Posts.repository Posts.table (fun s => s.table.Refusal) (fun _ => False) name
              (perform Posts.repository (after Posts.repository ds (.new s)) d).2) ∧
      (∀ (ds : List (Deed CommentCall)) (s : Comments) (d : Deed CommentCall),
        ((after Comments.repository ds (.new s)).named name).isSome = true → d.Ends name →
          Dead Comments.repository Comments.table (fun s => s.table.Refusal)
            (fun d => ∃ c, d = .call (some name) c ∧ c.Unposted s.replica) name
            (perform Comments.repository (after Comments.repository ds (.new s)) d).2) ∧
      ∀ (ds : List (Deed Database.StoreCall)) (s : Database.Session) (d : Deed Database.StoreCall),
        ((after Database.repository ds (.new s)).named name).isSome = true → d.Ends name →
          Dead Database.repository id (fun _ e => e = Database.overError) (fun _ => False) name
            (perform Database.repository (after Database.repository ds (.new s)) d).2 := by
  refine ⟨fun ds s d hname hd hfault => ?_, fun ds s d hname hd => ?_, fun ds s d hname hd => ?_⟩
  · exact Posts.repository_wraps.dead (fun _ => Posts.call_result) Posts.faults_transactional
      (fun c _ tx t hshut => hshut.posts c) ds hname hd hfault
  · refine Comments.repository_wraps.dead Comments.call_result (fun _ e he => ?_) ?_ ds hname hd ?_
    · rcases he with he | he | he <;> cases he
    · exact fun c hleft tx t hshut => hshut.comments fun hpost => hleft ⟨c, rfl, hpost⟩
    · rcases hd with rfl | rfl <;> rfl
  · exact Database.dead_of_end ds s hname hd

/-- A post, created in a transaction that is committed, where switches may keep that from the table. -/
def published (s : Posts) : Shared Posts :=
  after Posts.repository [.begin "a", .call (some "a") (.create (Fixture.post "p" "first")), .commit "a"] (.new s)

/-- A comment, created in a transaction that is rolled back. -/
def discarded : Shared Comments :=
  after Comments.repository
    [.begin "a", .call (some "a") (.create ((Fixture.newComment "p" "first").toComment ⟨"c"⟩ Fixture.date)),
      .rollback "a"] (.new .empty)

/-- A transaction of a database that refuses to commit. -/
def uncommitted : Shared Database.Session :=
  after Database.repository [.begin "a", .call (some "a") (.posts (.delete ⟨"p"⟩)), .commit "a"]
    (.new (.new [.affected 1] ["COMMIT"] none))

-- a transaction whose commit a switch has kept from the table is not over, and still writes
example : (perform Posts.repository (published { Posts.empty with failCommit := true })
    (.call (some "a") (.update (Fixture.post "p" "second")))).1 = some (.ok .done) := by decide +kernel

/-- A post that was published, a comment that was discarded, and a transaction that the database has refused to commit.
-/
theorem published_dead :
    Dead Posts.repository Posts.table (fun s => s.table.Refusal) (fun _ => False) "a" (published .empty) ∧
      Dead Comments.repository Comments.table (fun s => s.table.Refusal)
        (fun d => ∃ c, d = .call (some "a") c ∧ c.Unposted .empty) "a" discarded ∧
      Dead Database.repository id (fun _ e => e = Database.overError) (fun _ => False) "a" uncommitted :=
  ⟨(finished_transactions_dead "a").1 [.begin "a", .call (some "a") (.create (Fixture.post "p" "first"))] .empty
      (.commit "a") (by decide +kernel) (.inl rfl) rfl,
    (finished_transactions_dead "a").2.1
      [.begin "a", .call (some "a") (.create ((Fixture.newComment "p" "first").toComment ⟨"c"⟩ Fixture.date))] .empty
      (.rollback "a") (by decide +kernel) (.inr rfl),
    (finished_transactions_dead "a").2.2 [.begin "a", .call (some "a") (.posts (.delete ⟨"p"⟩))]
      (.new [.affected 1] ["COMMIT"] none) (.commit "a") (by decide +kernel) (.inl rfl)⟩

/-- Through a transaction that was rolled back a call finds no comments on a post that the replica does not have,
instead of being refused. -/
theorem ended_transaction_answers :
    ¬Dead Comments.repository Comments.table (fun s => s.table.Refusal) (fun _ => False) "a" discarded := by
  intro h
  have hanswer : (perform Comments.repository discarded (.call (some "a") (.withPost ⟨"p"⟩))).1 =
      some (.ok (.postComments [])) := by decide +kernel
  obtain ⟨e, he, -⟩ := h [] (by simp) (.call (some "a") (.withPost ⟨"p"⟩)) ⟨rfl, nofun⟩ id
  nomatch hanswer.symm.trans he

end Forum
