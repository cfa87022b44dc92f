import Forum.Database.Stores
import Forum.Fixture
import Forum.Proofs.Service.Program

/-!
# What a transaction sends

A call of the posts store sends one statement, and what it answers is read from the reply to it alone (`run_postStore`).
So the replies say what a flat program sends and how it ends (`Flat.said`, `Flat.outcome`, `run_flat`). A program in a
transaction of its own sends BEGIN, the statements of its flattened form up to where that ends, and then one command:
COMMIT after work that succeeded and ROLLBACK after work that failed (`statements_bracketed`).
-/

namespace Forum

open Database Session

/-! ## What a call sends and answers -/

namespace Database

namespace Reply

/-- The reply, unless it is a refusal. -/
def checked : Reply → Except Error Reply
  | refused reason => .error (.infrastructure (Fault.refused (untilNul reason)).message)
  | reply => .ok reply

/-- How many rows were affected. -/
def count : Reply → Nat
  | affected n => n
  | .rows found => found.length
  | refused _ => 0

/-- The rows that were found. -/
def found : Reply → List (List Cell)
  | .rows found => found
  | _ => []

end Reply

/-- Reads the row of a post. -/
def readPost (row : List Cell) : Except Error Post :=
  match RowReader.post row with
  | .ok (post, _) => .ok post
  | .error fault => .error (.infrastructure fault.message)

end Database

namespace PostCall

/-- The statement that a call sends. -/
def statement : PostCall → Statement
  | create post => .insertPost post
  | update post => .updatePost post
  | delete id => .deletePost id
  | page p => .pageOfPosts p
  | find id => .postById id
  | ofUser user => .postsByUser user

/-- What a reply that is no refusal tells a call. -/
def read (r : Reply) : PostCall → Except Error Answer
  | create _ => .ok .done
  | update post => if r.count = 0 then .error (.postNotFound post.id) else .ok .done
  | delete _ => .ok (.existed (r.count > 0))
  | page _ | ofUser _ => .posts <$> r.found.mapM readPost
  | find id =>
    match r.found with
    | [] => .error (.postNotFound id)
    | row :: _ => .post <$> readPost row

/-- What a call answers to a reply. -/
def answer (c : PostCall) (r : Reply) : Except Error Answer := r.checked >>= fun r => c.read r

end PostCall

namespace Flat

variable {α : Type}

/-- The statements that a program sends up to where it ends, given the replies. Where there is no reply left, nothing is
found. -/
def said : Flat α → List Reply → List Statement
  | done _, _ => []
  | stop _, _ => []
  | call c next, replies => c.statement :: (next (c.answer (replies.headD (.rows [])))).said replies.tail

/-- How a program ends, given the replies. -/
def outcome : Flat α → List Reply → Except Halt α
  | done answer, _ => .ok answer
  | stop halt, _ => .error halt
  | call c next, replies => (next (c.answer (replies.headD (.rows [])))).outcome replies.tail

end Flat

namespace Database

variable {α : Type} {s : Session} {tx : Handle}

/-- The session after a statement that took the next reply. -/
def Session.told (s : Session) (st : Statement) : Session :=
  { s.record (.statement st) with replies := s.replies.tail }

/-- A statement is recorded, and its reply is the next one. -/
theorem exchange_action (st : Statement) (s : Session) :
    (exchange st).action s = ((s.replies.headD (.rows [])).checked, s.told st) := by
  unfold Request.action exchange told record
  match hreplies : s.replies with
  | [] => rfl
  | .refused reason :: replies => rfl
  | .affected n :: replies => rfl
  | .rows found :: replies => rfl

/-- Why there is no connection for a transaction, or for a statement outside of every transaction. -/
def Session.busy (s : Session) : Option Fault :=
  if s.closed then some .poolClosed else if s.current.isSome then some .noConnection else none

/-- There is no free connection where the session is busy. -/
theorem acquire_of_busy {fault : Fault} (h : s.busy = some fault) : acquire s = (.error (.database fault), s) := by
  unfold busy at h
  unfold acquire
  split at h
  · rename_i hclosed
    rw [if_pos hclosed, Option.some.inj h]
  · rename_i hclosed
    split at h
    · rename_i hcurrent
      rw [if_neg hclosed, if_pos hcurrent, Option.some.inj h]
    · cases h

/-- A free connection is found, and what was abandoned is rolled back first. -/
theorem acquire_of_free (h : s.busy = none) : acquire s = (.ok (), s.settle) := by
  unfold busy at h
  unfold acquire
  split at h
  · cases h
  · rename_i hclosed
    split at h
    · cases h
    · rename_i hcurrent
      rw [if_neg hclosed, if_neg hcurrent]

/-- A statement goes through: its transaction is open, or it needs none and a connection is free. -/
def Session.Ready (tx : Option Handle) (s : Session) : Prop :=
  match tx with
  | some tx => s.current = some tx
  | none => s.busy = none ∧ s.abandoned = false

/-- A session that has sent a statement is ready for the next one. -/
theorem Session.Ready.told {tx : Option Handle} (h : s.Ready tx) (st : Statement) : (s.told st).Ready tx := by
  cases tx with
  | some tx => exact h
  | none => exact h

/-- Where the session is ready, a statement is sent and its reply is the next one. -/
theorem send_of_ready {tx : Option Handle} (h : s.Ready tx) (st : Statement) :
    (send tx st).action s = ((s.replies.headD (.rows [])).checked, s.told st) := by
  have hsend : send tx st s = exchange st s := by
    cases tx with
    | some tx =>
      have hcurrent : s.current = some tx := h
      have hopen : requireOpen tx s = (.ok (), s) := by
        rw [requireOpen, if_pos hcurrent]
      exact Action.bind_of_ok hopen _
    | none =>
      obtain ⟨hfree, hsettled⟩ := h
      have hacquire : acquire s = (.ok (), s) := by
        rw [acquire_of_free hfree, settle, if_neg (by simp [hsettled])]
      exact Action.bind_of_ok hacquire _
  rw [Request.action, hsend, ← Request.action, exchange_action]

/-- A request as operations one after the other. -/
theorem action_bind {β : Type} (r : Request α) (f : α → Request β) :
    (r >>= f).action = r.action >>= fun x => (f x).action := by
  funext s
  rcases h : r s with ⟨e | x, s'⟩
  · have hr : r.action s = (.error e.error, s') := by rw [Request.action, h]
    rw [Action.bind_of_error hr, Request.action, Action.bind_of_error h]
  · have hr : r.action s = (.ok x, s') := by rw [Request.action, h]
    rw [Action.bind_of_ok hr, Request.action, Action.bind_of_ok h]
    rfl

/-- What is made of the answer of a request is made of that of the operation. -/
theorem action_map {β : Type} (f : α → β) (r : Request α) : (f <$> r).action = f <$> r.action := by
  rw [map_eq_pure_bind, action_bind, map_eq_pure_bind]
  rfl

/-- The execution of a statement tells how many records it affected. -/
theorem execute_action (tx : Option Handle) (st : Statement) :
    (execute tx st).action = (send tx st).action >>= fun r => pure r.count := by
  rw [execute, action_bind]
  exact congrArg _ (funext fun r => by cases r <;> rfl)

/-- A query tells which rows it found. -/
theorem query_action (tx : Option Handle) (st : Statement) :
    (query tx st).action = (send tx st).action >>= fun r => pure r.found := by
  rw [query, action_bind]
  exact congrArg _ (funext fun r => by cases r <;> rfl)

/-- What the cells of a row say. -/
def RowReader.said (reader : RowReader α) (row : List Cell) : Except Error α :=
  match reader row with
  | .ok (a, _) => .ok a
  | .error fault => .error (.infrastructure fault.message)

/-- A row is read without a word to the database. -/
theorem RowReader.read_action (reader : RowReader α) (row : List Cell) (s : Session) :
    (reader.read row).action s = (reader.said row, s) := by
  unfold RowReader.read RowReader.said
  rcases reader row with fault | ⟨a, rest⟩ <;> rfl

theorem readPost_eq_said : readPost = RowReader.post.said := by
  funext row
  unfold readPost RowReader.said
  rcases RowReader.post row with fault | ⟨post, rest⟩ <;> rfl

/-- Rows are read without a word to the database. -/
theorem RowReader.mapM_read_action (reader : RowReader α) (rows : List (List Cell)) (s : Session) :
    (rows.mapM reader.read).action s = (rows.mapM reader.said, s) := by
  induction rows with
  | nil => rfl
  | cons row rows ih =>
    rw [List.mapM_cons, List.mapM_cons, action_bind]
    rcases hrow : reader.said row with e | a
    · exact Action.bind_of_error ((reader.read_action row s).trans (by rw [hrow])) _
    · rw [Action.bind_of_ok ((reader.read_action row s).trans (by rw [hrow])), action_bind]
      rcases hrows : rows.mapM reader.said with e | found
      · exact Action.bind_of_error (ih.trans (by rw [hrows])) _
      · exact Action.bind_of_ok (ih.trans (by rw [hrows])) _

/-- What follows a statement, where that only looks at the reply. -/
theorem send_bind {β : Type} {tx : Option Handle} (h : s.Ready tx) (st : Statement) {g : Reply → Action Session β}
    {f : Reply → Except Error β} (hg : ∀ r s, g r s = (f r, s)) :
    ((send tx st).action >>= g) s = ((s.replies.headD (.rows [])).checked >>= f, s.told st) := by
  rcases hreply : (s.replies.headD (.rows [])).checked with e | r
  · rw [Action.bind_of_error (by rw [send_of_ready h, hreply])]
    rfl
  · rw [Action.bind_of_ok (by rw [send_of_ready h, hreply]), hg]
    rfl

/-- A query that goes through sends its statement, and finds what the rows of the reply say. -/
theorem fetchAll_of_ready {tx : Option Handle} (h : s.Ready tx) (reader : RowReader α) (st : Statement) :
    (fetchAll tx reader st).action s =
      ((s.replies.headD (.rows [])).checked >>= fun r => r.found.mapM reader.said, s.told st) := by
  rw [fetchAll, action_bind, query_action, bind_assoc]
  refine send_bind h _ fun r s => ?_
  rw [pure_bind]
  exact reader.mapM_read_action r.found s

/-- A query for posts reads the rows of its reply. -/
theorem send_bind_posts {tx : Option Handle} (h : s.Ready tx) (st : Statement) :
    (Answer.posts <$> (fetchAll tx .post st).action) s =
      ((s.replies.headD (.rows [])).checked >>= fun r => Answer.posts <$> r.found.mapM readPost, s.told st) := by
  rw [readPost_eq_said]
  refine (Action.map_of_eq (fetchAll_of_ready h .post st) Answer.posts).trans ?_
  rcases (s.replies.headD (.rows [])).checked with e | r <;> rfl

/-- A query that goes through sends its statement, and finds what the first row of the reply says, if there is one. -/
theorem fetchOne_of_ready {tx : Option Handle} (h : s.Ready tx) (reader : RowReader α) (st : Statement) :
    (fetchOne tx reader st).action s =
      ((s.replies.headD (.rows [])).checked >>= fun r =>
        r.found.head?.elim (.ok none) fun row => some <$> reader.said row, s.told st) := by
  rw [fetchOne, action_bind, query_action, bind_assoc]
  refine send_bind h _ fun r s => ?_
  rw [pure_bind]
  cases r.found with
  | nil => rfl
  | cons row rows =>
    rw [action_map]
    exact Action.map_of_eq (reader.read_action row s) some

/-- A query for one row that goes through fails where it finds none. -/
theorem orNotFound_of_ready {tx : Option Handle} (h : s.Ready tx) (missing : Error) (reader : RowReader α)
    (st : Statement) :
    orNotFound missing (fetchOne tx reader st) s =
      ((s.replies.headD (.rows [])).checked >>= fun r => r.found.head?.elim (.error missing) reader.said,
        s.told st) := by
  simp only [orNotFound, fetchOne, action_bind, query_action, bind_assoc, pure_bind]
  refine send_bind h _ fun r s => ?_
  cases r.found with
  | nil => rfl
  | cons row rows =>
    rw [action_map, bind_map_left]
    show _ = (reader.said row, s)
    have hread := reader.read_action row s
    rcases hrow : reader.said row with e | a
    · exact Action.bind_of_error (hread.trans (by rw [hrow])) _
    · exact Action.bind_of_ok (hread.trans (by rw [hrow])) _

/-- A statement that goes through fails where it affects no row. -/
theorem orMissing_of_ready {tx : Option Handle} (h : s.Ready tx) (missing : Error) (st : Statement) :
    orMissing missing (execute tx st) s =
      ((s.replies.headD (.rows [])).checked >>= fun r => if r.count = 0 then .error missing else .ok (),
        s.told st) := by
  simp only [orMissing, execute_action, bind_assoc, pure_bind]
  refine send_bind h _ fun r s => ?_
  split <;> rfl

/-- A call that goes through sends its statement, and answers what the reply to that tells. -/
theorem run_postStore {tx : Option Handle} (h : s.Ready tx) (c : PostCall) :
    c.run postStore tx s = (c.answer (s.replies.headD (.rows [])), s.told c.statement) := by
  cases c with
  | create post =>
    have hdiscard (a : Action Session Nat) : discard a = a >>= fun _ => pure () := rfl
    simp only [PostCall.run, postStore, hdiscard, execute_action, map_eq_pure_bind, bind_assoc, pure_bind]
    exact send_bind h _ fun r s => rfl
  | update post =>
    refine (Action.map_of_eq (orMissing_of_ready h (.postNotFound post.id) (.updatePost post)) _).trans ?_
    simp only [PostCall.answer, PostCall.read]
    rcases (s.replies.headD (.rows [])).checked with e | r
    · rfl
    · show (_ <$> (if r.count = 0 then _ else _), _) = (if r.count = 0 then _ else _, _)
      split <;> rfl
  | delete id =>
    simp only [PostCall.run, postStore, affects, execute_action, map_eq_pure_bind, bind_assoc, pure_bind]
    exact send_bind h _ fun r s => rfl
  | page page => exact send_bind_posts h _
  | find id =>
    refine (Action.map_of_eq (orNotFound_of_ready h (.postNotFound id) .post (.postById id)) _).trans ?_
    simp only [PostCall.answer, PostCall.read, readPost_eq_said]
    rcases (s.replies.headD (.rows [])).checked with e | r
    · rfl
    · show (_ <$> r.found.head?.elim _ _, _) = (match r.found with | [] => _ | row :: _ => _, _)
      cases r.found <;> rfl
  | ofUser user => exact send_bind_posts h _

/-! ## What a flat program sends -/

/-- The session after statements that took as many replies. -/
def Session.toldAll (s : Session) (sts : List Statement) : Session := sts.foldl told s

/-- Statements one after the other use up a reply each. -/
theorem toldAll_eq (s : Session) (sts : List Statement) :
    s.toldAll sts =
      { s with sent := s.sent ++ sts.map .statement, replies := s.replies.drop sts.length } := by
  induction sts generalizing s with
  | nil => simp [toldAll]
  | cons st sts ih =>
    show (s.told st).toldAll sts = _
    rw [ih]
    simp [told, record]

/-- In the open transaction the replies tell what a flat program sends and how it ends. -/
theorem run_flat (h : s.current = some tx) (f : Flat α) :
    f.run postStore (some tx) s = (f.outcome s.replies, s.toldAll (f.said s.replies)) := by
  induction f generalizing s with
  | done answer => rfl
  | stop halt => rfl
  | call c next ih =>
    have hready : s.Ready (some tx) := h
    rw [Flat.run_call, run_postStore hready, ih _ (hready.told c.statement)]
    rfl

/-! ## Begin, commit and rollback -/

/-- The error of a command that the database refuses. -/
def refusal (c : Command) : Error :=
  .infrastructure (Fault.refused s!"scripted failure of {firstWord c.sql}").message

/-- The session when a transaction has begun. -/
def Session.opened (s : Session) : Session :=
  { s.settle.record (.command .begin) with begun := s.begun + 1, current := some s.begun }

/-- The session when a command has ended the open transaction. -/
def Session.ended (s : Session) (c : Command) : Session :=
  if s.refuses c then (s.record (.command c)).letGo else { s.record (.command c) with current := none }

/-- A rollback of what was abandoned does not change which commands are refused. -/
theorem refuses_settle (s : Session) (c : Command) : s.settle.refuses c = s.refuses c := by
  unfold settle
  split <;> rfl

/-- A command that is refused is sent all the same. -/
theorem command_of_refused {c : Command} (h : s.refuses c = true) :
    command c s =
      (.error (.database (.refused s!"scripted failure of {firstWord c.sql}")), s.record (.command c)) := by
  rw [command, if_pos h]

/-- A command that is not refused is sent. -/
theorem command_of_taken {c : Command} (h : s.refuses c = false) : command c s = (.ok (), s.record (.command c)) := by
  rw [command, if_neg (by simp [h])]

/-- No connection is free, or BEGIN is refused, or a transaction begins. -/
theorem begin_cases (s : Session) :
    (∃ fault, s.busy = some fault ∧ transactions.begin s = (.error (.infrastructure fault.message), s)) ∨
      (s.busy = none ∧ s.refuses .begin = true ∧
        transactions.begin s = (.error (refusal .begin), s.settle.record (.command .begin))) ∨
      s.busy = none ∧ s.refuses .begin = false ∧ transactions.begin s = (.ok s.begun, s.opened) := by
  have haction : transactions.begin s = begin.action s := rfl
  rw [haction, Request.action]
  cases hbusy : s.busy with
  | some fault =>
    refine .inl ⟨fault, rfl, ?_⟩
    rw [begin, Action.bind_of_error (acquire_of_busy hbusy)]
    rfl
  | none =>
    refine .inr ?_
    cases hbegin : s.refuses .begin with
    | true =>
      have hcommand := command_of_refused ((refuses_settle s .begin).trans hbegin)
      refine .inl ⟨rfl, rfl, ?_⟩
      rw [begin, Action.bind_of_ok (acquire_of_free hbusy), Action.bind_of_error hcommand]
      rfl
    | false =>
      have hcommand := command_of_taken ((refuses_settle s .begin).trans hbegin)
      have hbegun : s.settle.begun = s.begun := by
        unfold settle
        split <;> rfl
      refine .inr ⟨rfl, rfl, ?_⟩
      rw [begin, Action.bind_of_ok (acquire_of_free hbusy), Action.bind_of_ok hcommand, opened, ← hbegun]
      rfl

/-- The open transaction ends, also where its command is refused. -/
theorem finish_of_open (h : s.current = some tx) (c : Command) :
    (finish tx c).action s = (if s.refuses c then .error (refusal c) else .ok (), s.ended c) := by
  have hopen : requireOpen tx s = (.ok (), s) := by
    rw [requireOpen, if_pos h]
  rw [Request.action, finish, Action.bind_of_ok hopen, ended]
  cases hc : s.refuses c with
  | true =>
    rw [command_of_refused hc]
    rfl
  | false =>
    rw [command_of_taken hc]
    rfl

/-! ## The whole transaction -/

/-- What a transaction sends around the statements of its work. -/
def bracket (sts : List Statement) (last : Command) : List Sent :=
  .command .begin :: sts.map .statement ++ [.command last]

/-- What comes of a program in a transaction of its own, over a session on which `before` was sent. The transaction is
not begun; or it is committed after work that succeeded, or rolled back after work that failed, and the database takes
or refuses that. -/
inductive Bracket (p : Program α) (s : Session) (before : List Sent) : Except Halt α × Session → Prop
  | unavailable {fault : Fault} (hbusy : s.busy = some fault) :
    Bracket p s before (.error (.failed (.infrastructure fault.message)), s)
  | unbegun {s' : Session} (hfree : s.busy = none) (hbegin : s.refuses .begin = true)
      (hsent : s'.sent = before ++ [.command .begin]) :
    Bracket p s before (.error (.failed (refusal .begin)), s')
  | committed {answer : α} {s' : Session} (hfree : s.busy = none) (hbegin : s.refuses .begin = false)
      (hwork : p.flatten.outcome s.replies = .ok answer) (hcommit : s.refuses .commit = false)
      (hsent : s'.sent = before ++ bracket (p.flatten.said s.replies) .commit) :
    Bracket p s before (.ok answer, s')
  | uncommitted {answer : α} {s' : Session} (hfree : s.busy = none) (hbegin : s.refuses .begin = false)
      (hwork : p.flatten.outcome s.replies = .ok answer) (hcommit : s.refuses .commit = true)
      (hsent : s'.sent = before ++ bracket (p.flatten.said s.replies) .commit) :
    Bracket p s before (.error (.failed (refusal .commit)), s')
  | rolledBack {halt : Halt} {s' : Session} (hfree : s.busy = none) (hbegin : s.refuses .begin = false)
      (hwork : p.flatten.outcome s.replies = .error halt) (hrollback : s.refuses .rollback = false)
      (hsent : s'.sent = before ++ bracket (p.flatten.said s.replies) .rollback) :
    Bracket p s before (.error (.failed (halt.error s.limit)), s')
  | rollbackFailed {halt : Halt} {s' : Session} (hfree : s.busy = none) (hbegin : s.refuses .begin = false)
      (hwork : p.flatten.outcome s.replies = .error halt) (hrollback : s.refuses .rollback = true)
      (hsent : s'.sent = before ++ bracket (p.flatten.said s.replies) .rollback) :
    Bracket p s before (.error (.failed (.rollbackFailed (halt.error s.limit) (refusal .rollback).message)), s')

theorem opened_eq (s : Session) :
    s.opened = { s with
      sent := s.settle.sent ++ [.command .begin]
      begun := s.begun + 1
      current := some s.begun
      abandoned := false } := by
  unfold opened settle record
  cases s with
  | mk replies refused sent begun current abandoned closed limit => cases abandoned <;> rfl

/-- The end of a transaction is its command. -/
theorem sent_ended (s : Session) (c : Command) : (s.ended c).sent = s.sent ++ [.command c] := by
  unfold ended
  split <;> rfl

/-- The session when the work of a transaction is done. -/
def Session.worked (s : Session) (sts : List Statement) : Session := s.opened.toldAll sts

theorem worked_eq (s : Session) (sts : List Statement) :
    s.worked sts = { s with
      replies := s.replies.drop sts.length, sent := s.settle.sent ++ .command .begin :: sts.map .statement,
      begun := s.begun + 1, current := some s.begun, abandoned := false } := by
  rw [worked, toldAll_eq, opened_eq]
  simp

/-- After its statements a transaction ends, and all of it is bracketed. -/
theorem finish_of_worked (s : Session) (sts : List Statement) (c : Command) :
    ∃ s', (finish s.begun c).action (s.worked sts) = (if s.refuses c then .error (refusal c) else .ok (), s') ∧
      s'.sent = s.settle.sent ++ bracket sts c := by
  have hopen : (s.worked sts).current = some s.begun := by rw [worked_eq]
  have hrefuses : (s.worked sts).refuses c = s.refuses c := by
    rw [worked_eq]
    rfl
  refine ⟨_, hrefuses ▸ finish_of_open hopen c, ?_⟩
  rw [sent_ended, worked_eq]
  simp [bracket]

/-- A program in a transaction is bracketed, whatever comes of it. -/
theorem within_result (p : Program α) (s : Session) :
    Bracket p s s.settle.sent (transactions.within .unbound (p.run postStore transactions) s) := by
  have hwithin : transactions.within .unbound (p.run postStore transactions) s =
      Work.ofAction (transactions.run (p.run postStore transactions)) s := rfl
  rw [hwithin, Work.ofAction, Transactions.run]
  rcases begin_cases s with ⟨fault, hbusy, h⟩ | ⟨hfree, hbegin, h⟩ | ⟨hfree, hbegin, h⟩
  · rw [h]
    exact .unavailable hbusy
  · rw [h]
    exact .unbegun hfree hbegin rfl
  · rw [h]
    have hwork : p.run postStore transactions ⟨some s.begun, s.limit.map (transactions.now s.opened + ·)⟩ s.opened =
        (p.flatten.outcome s.replies, s.worked (p.flatten.said s.replies)) := by
      have hopen : s.opened.current = some s.begun := rfl
      have hreplies : s.opened.replies = s.replies := by rw [opened_eq]
      rw [Program.run_of_bound _ _ rfl, run_flat hopen, hreplies, worked]
    have hlimit : transactions.limit s.opened = s.limit := by
      show s.opened.limit = s.limit
      rw [opened_eq]
    simp only [hlimit, hwork]
    rcases houtcome : p.flatten.outcome s.replies with halt | answer
    · obtain ⟨s', hfinish, hsent⟩ := finish_of_worked s (p.flatten.said s.replies) .rollback
      have habandon : transactions.rollback s.begun (s.worked (p.flatten.said s.replies)) = _ := hfinish
      simp only [Transactions.abandon, habandon]
      cases hrollback : s.refuses .rollback with
      | true => exact .rollbackFailed hfree hbegin houtcome hrollback hsent
      | false => exact .rolledBack hfree hbegin houtcome hrollback hsent
    · obtain ⟨s', hfinish, hsent⟩ := finish_of_worked s (p.flatten.said s.replies) .commit
      have hcommitted : transactions.commit s.begun (s.worked (p.flatten.said s.replies)) = _ := hfinish
      simp only [Transactions.finish, hcommitted]
      cases hcommit : s.refuses .commit with
      | true => exact .uncommitted hfree hbegin houtcome hcommit hsent
      | false => exact .committed hfree hbegin houtcome hcommit hsent

/-- Over a session that has no abandoned transaction, work in a transaction of its own sends BEGIN, the statements of
the work, and COMMIT or ROLLBACK, and answers as the last of these goes. That holds of programs and of units of work. -/
theorem statements_bracketed {s : Session} (h : s.abandoned = false) :
    (∀ {α : Type} (p : Program α), Bracket p s s.sent (transactions.within .unbound (p.run postStore transactions) s)) ∧
      ∀ steps answer entries s',
        UnitOfWork.run ⟨postStore, transactions, fun _ _ => pure ()⟩ .unbound steps s = (answer, entries, s') →
          Bracket (UnitOfWork.program steps) s s.sent (answer, s') := by
  have hsent : s.settle.sent = s.sent := by
    rw [settle, if_neg (by simp [h])]
  refine ⟨fun p => hsent ▸ within_result p s, fun steps answer entries s' hrun => ?_⟩
  rw [← UnitOfWork.run_eq_program postStore transactions hrun, ← hsent]
  exact within_result _ s

/-- A session whose second statement finds nothing to change, and that refuses to roll back. -/
def shaky : Session := .new [.affected 1, .affected 0] ["ROLLBACK"] none

/-- A post is inserted, and another one is changed in a block inside. -/
def shakyUnit : List UnitOfWork.Step :=
  [.call (.create (Fixture.post "p" "first")) false, .nested [.call (.update (Fixture.post "q" "second")) false] false]

/-- The unit fails as its second statement does, and the error tells that it was not rolled back. -/
theorem shaky_bracketed :
    ∃ entries s', UnitOfWork.run ⟨postStore, transactions, fun _ _ => pure ()⟩ .unbound shakyUnit shaky =
        (.error (.failed (.rollbackFailed (.postNotFound ⟨"q"⟩) (refusal .rollback).message)), entries, s') ∧
      Bracket (UnitOfWork.program shakyUnit) shaky []
        (.error (.failed (.rollbackFailed (.postNotFound ⟨"q"⟩) (refusal .rollback).message)), s') ∧
      s'.sent = [.command .begin, .statement (.insertPost (Fixture.post "p" "first")),
        .statement (.updatePost (Fixture.post "q" "second")), .command .rollback] :=
  ⟨_, _, rfl, (statements_bracketed rfl).2 _ _ _ _ rfl, rfl⟩

end Database

end Forum
