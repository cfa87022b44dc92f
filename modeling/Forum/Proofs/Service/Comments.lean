import Forum.Proofs.Service.Deeds
import Forum.Proofs.Service.Posts
import Forum.Proofs.Service.Validity

/-!
# What a request to the comments service does

Work in a transaction of its own on a table fails and leaves the rows as they were, or the writes that it staged are made
(`Table.atomically_of_error`, `Table.atomically_of_ok`). So a request to the comments service fails and leaves the rows, or
it only looks, or it makes the milestone that it asks for (`commentRequest_result`).
-/

namespace Forum

open Calendar Memory

/-! ## Transactions of a table -/

namespace Memory.Table

variable {ν α : Type} {t t' : Table ν}

/-- The transactions of a table. -/
def transactions : Transactions (Table ν) where
  begin := fun t => (.ok t.begin.1, t.begin.2)
  commit tx := change fun t => t.commit tx
  rollback tx := change fun t => t.rollback tx
  limit _ := none
  now _ := 0

theorem staged_begin (t : Table ν) : t.begin.2.staged[t.begin.1]? = some (some []) := List.getElem?_concat_length

/-- Work that fails in a transaction of its own leaves the rows as it left them. -/
theorem atomically_of_error (work : Option Handle → Action (Table ν) α) {e : Error}
    (h : work (some t.begin.1) t.begin.2 = (.error e, t')) :
    ∃ e' t'', transactions.atomically none work t = (.error e', t'') ∧ t''.rows = t'.rows := by
  have hbegin : transactions.begin t = (.ok t.begin.1, t.begin.2) := rfl
  rw [Transactions.atomically_of_begin hbegin, h]
  rcases hrollback : t'.rollback t.begin.1 with e' | t''
  · have hend : transactions.rollback t.begin.1 t' = (.error e', t') :=
      change_of_error (f := fun t' => t'.rollback t.begin.1) hrollback
    simp only [Transactions.abandon, hend]
    exact ⟨_, _, rfl, rfl⟩
  · have hend : transactions.rollback t.begin.1 t' = (.ok (), t'') :=
      change_of_ok (f := fun t' => t'.rollback t.begin.1) hrollback
    obtain ⟨ws, -, rfl⟩ := rollback_eq_ok hrollback
    simp only [Transactions.abandon, hend]
    exact ⟨_, _, rfl, rfl⟩

/-- Work that succeeds in a transaction of its own makes the writes that it staged. -/
theorem atomically_of_ok (work : Option Handle → Action (Table ν) α) {x : α} {ws : List (Rows.Write ν)}
    (h : work (some t.begin.1) t.begin.2 = (.ok x, t')) (hstaged : t'.staged[t.begin.1]? = some (some ws)) :
    ∃ t'', transactions.atomically none work t = (.ok x, t'') ∧ t''.rows = t'.rows.writeAll ws := by
  have hbegin : transactions.begin t = (.ok t.begin.1, t.begin.2) := rfl
  have hend : transactions.commit t.begin.1 t' = (.ok (), _) :=
    change_of_ok (f := fun t' => t'.commit t.begin.1) (commit_of_getElem? hstaged)
  rw [Transactions.atomically_of_begin hbegin, h]
  simp only [Transactions.finish, hend]
  exact ⟨_, rfl, rfl⟩

end Memory.Table

/-! ## The work of each request -/

namespace Memory.Comments

open Table

/-- Work of a request on the table. -/
def createWork (comment : Comment) (tx : Option Handle) : Action (Table Comment) Unit :=
  Table.put tx comment.id.text comment

def findWork (id : CommentId) (tx : Option Handle) : Action (Table Comment) Comment :=
  Table.ask tx fun r => (r.get? id.text).elim (.error (.commentNotFound id)) .ok

def amendWork (id : CommentId) (update : CommentUpdate) (now : Instant) (tx : Option Handle) :
    Action (Table Comment) Comment := do
  let comment := (← findWork id tx).apply update now
  Table.put tx comment.id.text comment
  pure comment

/-- A creation fails and leaves the rows, or the comment has its row. -/
theorem create_cases (comment : Comment) (t : Table Comment) :
    ∃ result t', Table.transactions.atomically none (createWork comment) t = (result, t') ∧
      ((∃ e, result = .error e) ∧ t'.rows = t.rows ∨
        (∃ x, result = .ok x) ∧ t'.rows = t.rows.insert comment.id.text comment) := by
  rcases put_cases (staged_begin t) comment.id.text comment with ⟨reason, hput⟩ | hput
  · obtain ⟨e, t', hrun, hrows⟩ := atomically_of_error (createWork comment) hput
    exact ⟨_, t', hrun, .inl ⟨⟨e, rfl⟩, hrows⟩⟩
  · obtain ⟨t', hrun, hrows⟩ := atomically_of_ok (createWork comment) hput (staged_stage (staged_begin t) _)
    exact ⟨_, t', hrun, .inr ⟨⟨(), rfl⟩, hrows⟩⟩

/-- A change fails and leaves the rows, or the comment that was there has the change. -/
theorem amend_cases (id : CommentId) (u : CommentUpdate) (now : Instant) (t : Table Comment) :
    ∃ result t', Table.transactions.atomically none (amendWork id u now) t = (result, t') ∧
      ((∃ e, result = .error e) ∧ t'.rows = t.rows ∨
        ∃ row, t.rows.get? id.text = some row ∧ result = .ok (row.apply u now) ∧
          t'.rows = t.rows.insert row.id.text (row.apply u now)) := by
  have hask := ask_of_staged (staged_begin t) fun r => (r.get? id.text).elim (.error (.commentNotFound id)) .ok
  cases hrow : t.rows.get? id.text with
  | none =>
    have hview : (t.begin.2.rows.writeAll []).get? id.text = none := hrow
    rw [hview] at hask
    obtain ⟨e, t', hrun, hrows⟩ :=
      atomically_of_error (amendWork id u now) (Action.bind_of_error (a := findWork id _) hask _)
    exact ⟨_, t', hrun, .inl ⟨⟨e, rfl⟩, hrows⟩⟩
  | some row =>
    have hview : (t.begin.2.rows.writeAll []).get? id.text = some row := hrow
    rw [hview] at hask
    have hwork := Action.bind_of_ok (a := findWork id (some t.begin.1)) hask fun found => do
      Table.put (some t.begin.1) (found.apply u now).id.text (found.apply u now)
      pure (found.apply u now)
    rcases put_cases (staged_begin t) row.id.text (row.apply u now) with ⟨reason, hput⟩ | hput
    · obtain ⟨e, t', hrun, hrows⟩ := atomically_of_error (amendWork id u now)
        (hwork.trans (Action.bind_of_error (a := Table.put _ (row.apply u now).id.text _) hput _))
      exact ⟨_, t', hrun, .inl ⟨⟨e, rfl⟩, hrows⟩⟩
    · obtain ⟨t', hrun, hrows⟩ := atomically_of_ok (amendWork id u now)
        (hwork.trans (Action.bind_of_ok (a := Table.put _ (row.apply u now).id.text _) hput _))
        (staged_stage (staged_begin t) _)
      exact ⟨_, t', hrun, .inr ⟨row, rfl, rfl, hrows⟩⟩

/-- A removal fails or finds nothing and leaves the table, or the comment is gone. -/
theorem remove_cases (id : CommentId) (t : Table Comment) :
    (∃ e, Table.remove none id.text t = (.error e, t)) ∨ Table.remove none id.text t = (.ok false, t) ∨
      ∃ row t', t.rows.get? id.text = some row ∧ Table.remove none id.text t = (.ok true, t') ∧
        t'.rows = t.rows.erase id.text := by
  have hview : (t.view none).map (·.contains id.text) = .ok (t.rows.contains id.text) := rfl
  unfold Table.remove
  rw [hview]
  cases hc : t.rows.contains id.text with
  | false => exact .inr (.inl rfl)
  | true =>
    obtain ⟨row, hrow⟩ := Option.isSome_iff_exists.1 hc
    rcases hw : t.write none (id.text, none) with e | t'
    · exact .inl ⟨e, rfl⟩
    · obtain rfl := write_none_eq_ok hw
      exact .inr (.inr ⟨row, _, hrow, rfl, rfl⟩)

end Memory.Comments

/-! ## Requests -/

namespace Simulation.World

/-- The table of comments within the world. -/
def commentTable : Part World (Table Comment) :=
  ⟨fun w => w.comments.table, fun t w => { w with comments := { w.comments with table := t } }⟩

theorem commentTable_lawful : commentTable.Lawful := ⟨fun _ => rfl, fun _ _ => rfl, fun _ _ _ => rfl⟩

/-- What comes of a request to the comments service: it fails and leaves the rows, or it only looks, or it makes the
milestone that it asks for. -/
inductive CommentResult (w : World) (r : CommentRequest) : Except Error Answer × World → Prop
  | failed {e : Error} {t : Table Comment} (hrows : t.rows = w.comments.table.rows) :
    CommentResult w r (.error e, commentTable.put t w)
  | looked {answer : Answer} (h : r.milestone = none) : CommentResult w r (.ok answer, w)
  | made {answer : Answer} {m : String × Milestone Comment} {t : Table Comment} (h : r.milestone = some m)
      (hmade : MadeComments w.comments.table.rows m t.rows) :
    CommentResult w r (.ok answer, commentTable.put t w)

theorem comment_of_check {α : Type} {w : World} {r : CommentRequest} {c : Except Error α}
    {rest : α → Action World Answer} (hrest : ∀ x, c = .ok x → CommentResult w r (rest x w)) :
    CommentResult w r ((liftM c >>= rest : Action World Answer) w) := by
  cases h : c with
  | error e =>
    rw [Action.bind_of_error (check_of_error rfl w)]
    exact .failed (t := w.comments.table) rfl
  | ok x =>
    rw [Action.bind_of_ok (check_of_ok rfl w)]
    exact hrest x h

/-- What only looks at the world, and answers. -/
theorem comment_of_look {w : World} {r : CommentRequest} (hr : r.milestone = none) {a : Action World Answer}
    (ha : (a w).2 = w) : CommentResult w r (a w) := by
  rcases h : a w with ⟨e | answer, w'⟩
  · obtain rfl : w' = w := by rw [← ha, h]
    exact .failed (t := w'.comments.table) rfl
  · obtain rfl : w' = w := by rw [← ha, h]
    exact .looked hr

/-- A write, and then its answer. -/
theorem comment_of_write {α : Type} {w : World} {r : CommentRequest} {write : Action World α} (answer : α → Answer)
    {result : Except Error α} {t : Table Comment} (hwrite : write w = (result, commentTable.put t w))
    (hcases : (∃ e, result = .error e) ∧ t.rows = w.comments.table.rows ∨
      (∃ x, result = .ok x) ∧ ∃ m, r.milestone = some m ∧ MadeComments w.comments.table.rows m t.rows) :
    CommentResult w r ((do
      let x ← write
      pure (answer x) : Action World Answer) w) := by
  rcases hcases with ⟨⟨e, rfl⟩, hrows⟩ | ⟨⟨x, rfl⟩, m, hm, hmade⟩
  · rw [Action.bind_of_error hwrite]
    exact .failed hrows
  · rw [Action.bind_of_ok hwrite]
    exact .made hm hmade

/-- A transaction on the table, within the world. -/
theorem comment_atomically {α : Type} {work : Option Handle → Action (Table Comment) α} {w : World}
    {result : Except Error α} {t : Table Comment}
    (h : Table.transactions.atomically none work w.comments.table = (result, t)) :
    w.backend.commentTransactions.atomically none (fun tx => commentTable.lift (work tx)) w =
      (result, commentTable.put t w) := by
  rw [show w.backend.commentTransactions.atomically none (fun tx => commentTable.lift (work tx)) =
    commentTable.lift (Table.transactions.atomically none work) from
      Part.atomically_lift commentTable_lawful now Table.transactions work]
  exact Part.lift_of_eq h

theorem read_comment_eq_ok {text : String} {id : CommentId} (h : CommentId.read text = .ok id) : id = ⟨text⟩ := by
  unfold CommentId.read CommentId.parse? at h
  split at h
  · exact (Except.ok.inj h).symm
  · nomatch h

theorem comment_create (w : World) {id : CommentId} (hid : Uuid.isUuidText id.text = true) (new : NewComment)
    (now : Instant) :
    CommentResult w (.create id new now)
      ((CommentRequest.create id new now).run (w.backend.commentService none) w) := by
  unfold CommentRequest.run CommentService.create
  simp only [map_eq_pure_bind, bind_assoc, pure_bind]
  refine comment_of_check fun _ hvalid => ?_
  obtain ⟨result, t, hrun, hcases⟩ := Comments.create_cases (new.toComment id now) w.comments.table
  refine comment_of_write (fun _ => .comment (new.toComment id now)) (comment_atomically hrun) ?_
  refine hcases.imp_right fun ⟨hok, hrows⟩ => ⟨hok, _, rfl, ?_⟩
  rw [hrows]
  exact .created trivial (new.sound_of_validate hvalid hid now)

theorem comment_update (w : World) (hk : ∀ k c, w.comments.table.rows.get? k = some c → c.id.text = k) (text : String)
    (u : CommentUpdate) (now : Instant) :
    CommentResult w (.update text u now)
      ((CommentRequest.update text u now).run (w.backend.commentService none) w) := by
  unfold CommentRequest.run CommentService.update
  simp only [map_eq_pure_bind, bind_assoc]
  refine comment_of_check fun id hid => ?_
  refine comment_of_check fun _ hvalid => ?_
  obtain rfl := read_comment_eq_ok hid
  obtain ⟨result, t, hrun, hcases⟩ := Comments.amend_cases ⟨text⟩ u now w.comments.table
  have hwrite := comment_atomically hrun
  unfold Comments.amendWork at hwrite
  simp only [Part.lift_bind commentTable_lawful, Part.lift_pure commentTable_lawful] at hwrite
  refine comment_of_write .comment hwrite ?_
  refine hcases.imp_right fun ⟨row, hrow, hok, hrows⟩ => ⟨⟨_, hok⟩, _, rfl, ?_⟩
  rw [hrows, hk text row hrow]
  exact .changed hrow rfl rfl fun hsound => hsound.apply hvalid now

theorem comment_delete (w : World) (text : String) :
    CommentResult w (.delete text) ((CommentRequest.delete text).run (w.backend.commentService none) w) := by
  unfold CommentRequest.run CommentService.delete
  simp only [map_eq_pure_bind, bind_assoc]
  refine comment_of_check fun id hid => ?_
  obtain rfl := read_comment_eq_ok hid
  have hstore : (w.backend.commentService none).store.delete (w.backend.commentService none).tx ⟨text⟩ =
      commentTable.lift (Table.remove none text) := rfl
  rw [hstore]
  rcases Comments.remove_cases ⟨text⟩ w.comments.table with ⟨e, hremove⟩ | hremove | ⟨row, t, hrow, hremove, hrows⟩
  · rw [Action.bind_of_error (Part.lift_of_eq hremove)]
    exact .failed rfl
  · rw [Action.bind_of_ok (Part.lift_of_eq hremove)]
    exact .failed (t := w.comments.table) rfl
  · rw [Action.bind_of_ok (Part.lift_of_eq hremove)]
    refine .made (t := t) rfl ?_
    rw [hrows]
    exact .removed hrow

/-- A request that only reads, once its text was checked. -/
theorem comment_of_read {α β : Type} {w : World} {r : CommentRequest} (hr : r.milestone = none) {c : Except Error α}
    (f : β → Answer) {look : α → Action World β} (hlook : ∀ x, (look x w).2 = w) :
    CommentResult w r ((f <$> (liftM c >>= look) : Action World Answer) w) := by
  rw [map_bind]
  refine comment_of_check fun x _ => comment_of_look hr ?_
  rw [Action.map_snd]
  exact hlook x

/-- What comes of a request of any kind. -/
theorem commentRequest_result (w : World) (hk : ∀ k c, w.comments.table.rows.get? k = some c → c.id.text = k)
    (r : CommentRequest) (hid : ∀ id ∈ r.drawn, Uuid.isUuidText id = true) :
    CommentResult w r (r.run (w.backend.commentService none) w) := by
  cases r with
  | create id new now => exact comment_create w (hid _ List.mem_cons_self) new now
  | update text u now => exact comment_update w hk text u now
  | delete text => exact comment_delete w text
  | page page => exact comment_of_look rfl rfl
  | find text => exact comment_of_read rfl .comment fun _ => rfl
  | ofUser text => exact comment_of_read rfl .comments fun _ => rfl
  | ofPost text => exact comment_of_read rfl .comments fun _ => rfl
  | withPost text =>
    refine comment_of_read rfl .postComments fun id => ?_
    have hlook : (Comments.store.withPost none id w.comments).2 = w.comments := by
      simp only [Comments.store]
      split
      · rfl
      · rw [Action.map_snd]
        rfl
    show { w with comments := (Comments.store.withPost none id w.comments).2 } = w
    rw [hlook]

end Simulation.World

end Forum
