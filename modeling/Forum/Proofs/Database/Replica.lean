import Forum.Proofs.Database.Bracket
import Forum.Proofs.Database.Sql

/-!
# The replica over a database

A call of the replica sends one or two statements, and what it answers is read from the replies (`run_replicaStore`). A
database that keeps tables replies to the statements as they come (`Served`). Then the tables alone determine what is
sent and answered (`Served.steps_eq`), and such a database never gets stuck (`exists_served`).
-/

namespace Forum

open Calendar Database Session Sql

/-! ## What a call of the replica sends and answers -/

namespace Database

/-- Reads the row of a tombstone. -/
def readTombstone (row : List Cell) : Except Error PostId :=
  match RowReader.tombstone row with
  | .ok (id, _) => .ok id
  | .error fault => .error (.infrastructure fault.message)

theorem readTombstone_eq_said : readTombstone = RowReader.tombstone.said := by
  funext row
  unfold readTombstone RowReader.said
  rcases RowReader.tombstone row with fault | ⟨id, rest⟩ <;> rfl

end Database

namespace ReplicaCall

/-- The statement that a call sends first. -/
def first : ReplicaCall → Statement
  | insert post => .replicatePost post
  | update post => .updateReplica post
  | delete id => .buryPost id
  | find id => .postById id

/-- The statement that a call sends after the reply to the first one, if any. -/
def second? (r : Reply) : ReplicaCall → Option Statement
  | insert post =>
    match r.checked with
    | .ok r => if r.count > 0 then none else some (.tombstoneById post.id)
    | .error _ => none
  | _ => none

/-- The statements that a call sends, given the replies. -/
def said (c : ReplicaCall) (replies : List Reply) : List Statement :=
  c.first :: (c.second? (replies.headD (.rows []))).toList

/-- What a write answers that affected a record or none. -/
def wrote (r : Reply) : Answer := .wrote (if r.count > 0 then .applied else .missing)

/-- What is found of a tombstone. -/
def foundTombstone (r : Reply) : Except Error (Option PostId) :=
  match r.found with
  | [] => .ok none
  | row :: _ => some <$> readTombstone row

/-- What the insertion of a post that was not inserted answers. -/
def kept : Option PostId → Answer
  | some _ => .wrote .tombstoned
  | none => .wrote .alreadyPresent

/-- What a call answers, given the replies. -/
def answer (replies : List Reply) : ReplicaCall → Except Error Answer
  | insert _ => do
    let r ← (replies.headD (.rows [])).checked
    if r.count > 0 then .ok (.wrote .applied)
    else kept <$> ((replies.tail.headD (.rows [])).checked >>= foundTombstone)
  | update _ | delete _ => do .ok (wrote (← (replies.headD (.rows [])).checked))
  | find _ => do
    match (← (replies.headD (.rows [])).checked).found with
    | [] => .ok (.found none)
    | row :: _ => (fun post => .found (some post)) <$> readPost row

end ReplicaCall

namespace Database

variable {tx : Option Handle} {s : Session}

theorem fetch_tombstone (h : s.Ready tx) (id : PostId) :
    (fetchOne tx .tombstone (.tombstoneById id)).action s =
      ((s.replies.headD (.rows [])).checked >>= ReplicaCall.foundTombstone, s.told (.tombstoneById id)) := by
  rw [fetchOne_of_ready h]
  refine congrArg (fun f => (_ >>= f, _)) (funext fun r => ?_)
  rw [ReplicaCall.foundTombstone, readTombstone_eq_said]
  cases r.found <;> rfl

theorem run_insert (h : s.Ready tx) (post : Post) :
    (ReplicaCall.insert post).run (replicaStore tx) s =
      ((ReplicaCall.insert post).answer s.replies, s.toldAll ((ReplicaCall.insert post).said s.replies)) := by
  simp only [ReplicaCall.run, replicaStore, affects, execute_action, map_eq_pure_bind, bind_assoc, pure_bind]
  have hsend := send_of_ready h (.replicatePost post)
  rcases hreply : (s.replies.headD (.rows [])).checked with e | r
  · rw [Action.bind_of_error (hsend.trans (by rw [hreply]))]
    simp only [ReplicaCall.answer, ReplicaCall.said, ReplicaCall.first, ReplicaCall.second?, hreply]
    rfl
  rw [Action.bind_of_ok (hsend.trans (by rw [hreply]))]
  simp only [ReplicaCall.answer, ReplicaCall.said, ReplicaCall.first, ReplicaCall.second?, hreply]
  by_cases hcount : r.count > 0
  · simp only [decide_eq_true hcount, if_pos hcount, if_true]
    show _ = (if r.count > 0 then _ else _, _)
    rw [if_pos hcount]
    rfl
  · simp only [decide_eq_false hcount, if_neg hcount, Bool.false_eq_true, if_false, bind_assoc]
    show _ = (if r.count > 0 then _ else _, _)
    rw [if_neg hcount]
    have htomb := fetch_tombstone (h.told (.replicatePost post)) post.id
    have hnext : (s.told (.replicatePost post)).replies = s.replies.tail := rfl
    rw [hnext] at htomb
    rcases hfound : (s.replies.tail.headD (.rows [])).checked >>= ReplicaCall.foundTombstone with e | found
    · rw [hfound] at htomb
      exact Action.bind_of_error htomb _
    · rw [hfound] at htomb
      rw [Action.bind_of_ok htomb]
      cases found <;> rfl

/-- A write that sends one statement answers whether that affected a record. -/
theorem run_affects (h : s.Ready tx) (st : Statement) :
    (Answer.wrote <$> (do if ← affects (execute tx st) then return .applied else return .missing) :
        Action Session Answer) s =
      ((s.replies.headD (.rows [])).checked >>= fun r => .ok (ReplicaCall.wrote r), s.told st) := by
  simp only [affects, execute_action, map_eq_pure_bind, bind_assoc, pure_bind]
  refine send_bind h _ fun r s => ?_
  by_cases hr : r.count > 0 <;> simp only [ReplicaCall.wrote, hr, decide_true, decide_false, if_true] <;> rfl

theorem run_find (h : s.Ready tx) (id : PostId) :
    (ReplicaCall.find id).run (replicaStore tx) s =
      ((ReplicaCall.find id).answer s.replies, s.told (.postById id)) := by
  refine (Action.map_of_eq (fetchOne_of_ready h .post (.postById id)) Answer.found).trans ?_
  simp only [ReplicaCall.answer, readPost_eq_said]
  rcases (s.replies.headD (.rows [])).checked with e | r
  · rfl
  show (_ <$> r.found.head?.elim _ _, _) = (match r.found with | [] => _ | row :: _ => _, _)
  cases r.found with
  | nil => rfl
  | cons row rows => exact congrArg (·, _) (Functor.map_map some Answer.found (RowReader.post.said row))

/-- The replies tell what a call of the replica sends and answers. -/
theorem run_replicaStore (h : s.Ready tx) (c : ReplicaCall) :
    c.run (replicaStore tx) s = (c.answer s.replies, s.toldAll (c.said s.replies)) :=
  match c with
  | .insert post => run_insert h post
  | .update post => run_affects h (.updateReplica post)
  | .delete id => run_affects h (.buryPost id)
  | .find id => run_find h id

end Database

/-! ## A database that keeps tables -/

namespace ReplicaCall

/-- The statements that a call sends to a database with the tables. -/
def asks (c : ReplicaCall) (T : Tables) : List Statement := c.first :: (c.second? (T.answer c.first).1).toList

/-- What a call answers over a database with the tables, and the tables afterwards. -/
def onTables (c : ReplicaCall) (T : Tables) : Except Error Answer × Tables :=
  (c.answer (T.serve (c.asks T)).1, (T.serve (c.asks T)).2)

/-- A call looks at the replies to what it sends only. -/
theorem answer_of_serve (c : ReplicaCall) (T : Tables) (replies : List Reply) :
    c.answer ((T.serve (c.asks T)).1 ++ replies) = (c.onTables T).1 := by
  cases c with
  | insert post =>
    unfold onTables asks answer second?
    simp only [Tables.serve, List.cons_append, List.headD_cons, List.tail_cons]
    rcases (T.answer (first (insert post))).1.checked with e | r
    · rfl
    · by_cases hcount : r.count > 0
      · simp only [bind, Except.bind, if_pos hcount]
      · simp only [if_neg hcount]
        rfl
  | update post => rfl
  | delete id => rfl
  | find id => rfl

end ReplicaCall

namespace Database

variable {tx : Option Handle} {s : Session}

/-- The calls of a session are answered by a database that keeps tables: every call takes the replies to the statements
that it sends. The steps are what the calls answer, with the tables after each. -/
inductive Served (tx : Option Handle) :
    Tables → Session → List ReplicaCall → List (Except Error Answer × Tables) → Prop
  | nil {T : Tables} {s : Session} : Served tx T s [] []
  | cons {T : Tables} {s s' : Session} {c : ReplicaCall} {calls : List ReplicaCall} {sts : List Statement}
      {answer : Except Error Answer} {steps : List (Except Error Answer × Tables)}
      (hcall : c.run (replicaStore tx) s = (answer, s')) (hsent : s'.sent = s.sent ++ sts.map .statement)
      (hreplies : s.replies = (T.serve sts).1 ++ s'.replies) (hrest : Served tx (T.serve sts).2 s' calls steps) :
    Served tx T s (c :: calls) ((answer, (T.serve sts).2) :: steps)

/-- What calls answer over a database with the tables, with the tables after each. -/
def allOnTables : List ReplicaCall → Tables → List (Except Error Answer × Tables)
  | [], _ => []
  | c :: calls, T => c.onTables T :: allOnTables calls (c.onTables T).2

theorem Session.Ready.toldAll (h : s.Ready tx) (sts : List Statement) : (s.toldAll sts).Ready tx := by
  induction sts generalizing s with
  | nil => exact h
  | cons st sts ih => exact ih (h.told st)

theorem length_serve (T : Tables) (sts : List Statement) : (T.serve sts).1.length = sts.length := by
  induction sts generalizing T with
  | nil => rfl
  | cons st sts ih => exact congrArg (· + 1) (ih (T.answer st).2)

/-- What is answered, and how the tables change, is determined by the tables. -/
theorem Served.steps_eq {T : Tables} {calls : List ReplicaCall} {steps : List (Except Error Answer × Tables)}
    (h : Served tx T s calls steps) (hs : s.Ready tx) : steps = allOnTables calls T := by
  induction h with
  | nil => rfl
  | @cons T s s' c calls sts answer steps hcall hsent hreplies hrest ih =>
    rw [run_replicaStore hs, toldAll_eq] at hcall
    obtain ⟨rfl, rfl⟩ := Prod.mk.inj hcall
    have hsaid : sts = c.said s.replies :=
      (List.map_inj_right fun _ _ => Sent.statement.inj).1 (List.append_cancel_left hsent).symm
    have hasks : sts = c.asks T := by
      rw [hsaid, ReplicaCall.said] at hreplies
      rw [hsaid, hreplies]
      rfl
    subst hasks
    have hanswer : c.answer s.replies = (c.onTables T).1 := by
      rw [hreplies, ReplicaCall.answer_of_serve]
    rw [allOnTables, hanswer]
    exact congrArg _ (ih (toldAll_eq s _ ▸ hs.toldAll _))

/-- A database with tables can answer all calls. -/
theorem exists_served (calls : List ReplicaCall) (T : Tables) (hs : s.Ready tx) :
    ∃ replies, Served tx T { s with replies := replies } calls (allOnTables calls T) := by
  induction calls generalizing T s with
  | nil => exact ⟨[], .nil⟩
  | cons c calls ih =>
    obtain ⟨replies, hrest⟩ := ih (c.onTables T).2 (hs.toldAll (c.asks T))
    let start : Session := { s with replies := (T.serve (c.asks T)).1 ++ replies }
    have hready : start.Ready tx := by
      cases tx <;> exact hs
    have hcall := run_replicaStore hready c
    have hsaid : c.said start.replies = c.asks T := rfl
    have hend : { s.toldAll (c.asks T) with replies := replies } = start.toldAll (c.asks T) := by
      simp only [toldAll_eq, start, List.drop_left' (length_serve T _)]
    rw [hsaid, ← hend] at hcall
    refine ⟨(T.serve (c.asks T)).1 ++ replies, ?_⟩
    have hstep := Served.cons hcall (by simp only [toldAll_eq]; rfl) rfl hrest
    rwa [ReplicaCall.answer_of_serve] at hstep

end Database

end Forum
