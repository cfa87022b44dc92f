import Forum.Call
import Forum.Memory.Comments
import Forum.Proofs.Service.Transaction

/-!
# Tables that agree

Two transactions on two tables agree (`Table.Agree`) where they see the same rows, and a write is refused to both or
made in both. Nothing else of a table matters to a call: where transactions agree, calls of posts (`Table.alike_call`)
and of comments (`Table.alike_commentCall`) answer alike.
-/

namespace Forum

namespace Memory

namespace Table

variable {ν α : Type} {P : Table ν → Table ν → Prop} {tx tx' : Option Handle}

/-- On related tables the transactions see the same rows, and their writes are refused both or made both, which leaves
related tables. -/
structure Agree (P : Table ν → Table ν → Prop) (tx tx' : Option Handle) : Prop where
  view : ∀ {t q}, P t q → t.view tx = q.view tx'
  write : ∀ {t q}, P t q → ∀ w, (∃ e, t.write tx w = .error e ∧ q.write tx' w = .error e) ∨
    ∃ t' q', t.write tx w = .ok t' ∧ q.write tx' w = .ok q' ∧ P t' q'

/-- Changes that are both refused, or both made so that the tables stay related. -/
theorem alike_change {f g : Table ν → Except Error (Table ν)}
    (hfg : ∀ t q, P t q → (∃ e, f t = .error e ∧ g q = .error e) ∨
      ∃ t' q', f t = .ok t' ∧ g q = .ok q' ∧ P t' q') : Alike P (change f) (change g) := by
  intro t q h
  rcases hfg t q h with ⟨e, hf, hg⟩ | ⟨t', q', hf, hg, hafter⟩
  · rw [change_of_error hf, change_of_error hg]
    exact ⟨rfl, h⟩
  · rw [change_of_ok hf, change_of_ok hg]
    exact ⟨rfl, hafter⟩

theorem alike_put (h : Agree P tx tx') (key : String) (row : ν) : Alike P (put tx key row) (put tx' key row) :=
  alike_change fun _ _ hp => h.write hp (key, some row)

theorem alike_putNew (h : Agree P tx tx') (key : String) (row : ν) :
    Alike P (putNew tx key row) (putNew tx' key row) := by
  refine alike_change fun t q hp => ?_
  rw [h.view hp]
  rcases q.view tx' with e | rows
  · exact .inl ⟨e, rfl, rfl⟩
  · simp only [bind, Except.bind]
    split
    · exact .inl ⟨_, rfl, rfl⟩
    · exact h.write hp (key, some row)

theorem alike_remove (h : Agree P tx tx') (key : String) :
    Alike P (remove tx key : Action (Table ν) Bool) (remove tx' key) := by
  intro t q hp
  unfold remove
  rw [h.view hp]
  generalize (q.view tx').map (·.contains key) = was
  match was with
  | .error e => exact ⟨rfl, hp⟩
  | .ok false => exact ⟨rfl, hp⟩
  | .ok true =>
    rcases h.write hp (key, none) with ⟨e, hf, hg⟩ | ⟨t', q', hf, hg, hafter⟩
    · simp only [hf, hg]
      exact ⟨trivial, hp⟩
    · simp only [hf, hg]
      exact ⟨trivial, hafter⟩

theorem alike_ask (h : Agree P tx tx') (f : Rows ν → Except Error α) : Alike P (ask tx f) (ask tx' f) := by
  intro t q hp
  refine ⟨?_, hp⟩
  show (t.view tx).bind f = (q.view tx').bind f
  rw [h.view hp]

end Table

/-! ## Stores on a table -/

/-- A call of posts is one of their table. -/
theorem Posts.run_store (c : PostCall) (tx : Option Handle) : c.run store tx = rows.lift (c.run tableStore tx) := by
  cases c <;> exact (Part.lift_map rows_lawful _ _).symm

/-- The table of comments is a part of their database. -/
theorem Comments.rows_lawful : rows.Lawful := ⟨fun _ => rfl, fun _ _ => rfl, fun _ _ _ => rfl⟩

/-- The store of comments that a table is beside a replica of the posts. -/
def Comments.tableStore (replica : Replica) : CommentStore (Table Comment) where
  create tx comment := Table.put tx comment.id.text comment
  update tx comment := Table.put tx comment.id.text comment
  delete tx id := Table.remove tx id.text
  page tx page := Table.ask tx fun r => .ok (page.of (listed r.values))
  find tx id := Table.ask tx fun r => (r.get? id.text).elim (.error (.commentNotFound id)) .ok
  ofUser tx user := Table.ask tx fun r => .ok (r.values.filter fun c => c.user = user)
  ofPost tx post := Table.ask tx fun r => .ok (r.values.filter fun c => c.post = post)
  withPost tx post :=
    match replica.rows.get? post.text with
    | none => pure []
    | some row => PostComment.rows row <$> Table.ask tx fun r => .ok (r.values.filter fun c => c.post = post)

/-! ## Calls that agree -/

namespace Table

variable {tx tx' : Option Handle}

/-- A call of posts answers alike as part of transactions that agree. -/
theorem alike_call {P : Table Post → Table Post → Prop} (h : Agree P tx tx') (c : PostCall) :
    Alike P (c.run Posts.tableStore tx) (c.run Posts.tableStore tx') := by
  cases c with
  | create post => exact (alike_putNew h post.id.text post).map _
  | update post => exact (alike_put h post.id.text post).map _
  | delete id => exact (alike_remove h id.text).map _
  | page page => exact (alike_ask h _).map _
  | find id => exact (alike_ask h _).map _
  | ofUser user => exact (alike_ask h _).map _

/-- A call of comments answers alike as part of transactions that agree. -/
theorem alike_commentCall {P : Table Comment → Table Comment → Prop} (h : Agree P tx tx') (replica : Replica)
    (c : CommentCall) : Alike P (c.run (Comments.tableStore replica) tx) (c.run (Comments.tableStore replica) tx') := by
  cases c with
  | create comment => exact (alike_put h comment.id.text comment).map _
  | update comment => exact (alike_put h comment.id.text comment).map _
  | delete id => exact (alike_remove h id.text).map _
  | page page => exact (alike_ask h _).map _
  | find id => exact (alike_ask h _).map _
  | ofUser user => exact (alike_ask h _).map _
  | ofPost post => exact (alike_ask h _).map _
  | withPost post =>
    refine Alike.map ?_ _
    simp only [Comments.tableStore]
    cases replica.rows.get? post.text with
    | none => exact alike_pure []
    | some row => exact (alike_ask h _).map _

end Table

end Memory

end Forum
