import Forum.Memory.Replica
import Forum.Memory.Table
import Forum.Transaction

/-!
# Comments in memory

The database of the comments service: a table of comments beside the replica of posts.
-/

namespace Forum.Memory

structure Comments where
  table : Table Comment
  replica : Replica
deriving DecidableEq

namespace Comments

/-- A database without comments and posts. -/
def empty : Comments := ⟨.empty, .empty⟩

/-- The table of comments. -/
def rows : Part Comments (Table Comment) := ⟨table, fun t s => { s with table := t }⟩

/-- The replicated posts. -/
def posts : Part Comments Replica := ⟨replica, fun r s => { s with replica := r }⟩

/-- Comments in the order of listings. -/
def listed (comments : List Comment) : List Comment := comments.mergeSort Comment.precedes

/-- Asks the table for comments that fulfil a condition, in the order of their identifiers. -/
def matching (tx : Option Handle) (p : Comment → Bool) : Action Comments (List Comment) :=
  rows.lift (Table.ask tx fun r => .ok (r.values.filter p))

/-- The store of comments. -/
def store : CommentStore Comments where
  create tx comment := rows.lift (Table.put tx comment.id.text comment)
  update tx comment := rows.lift (Table.put tx comment.id.text comment)
  delete tx id := rows.lift (Table.remove tx id.text)
  page tx page := rows.lift (Table.ask tx fun r => .ok (page.of (listed r.values)))
  find tx id := rows.lift (Table.ask tx fun r => (r.get? id.text).elim (.error (.commentNotFound id)) .ok)
  ofUser tx user := matching tx fun c => c.user = user
  ofPost tx post := matching tx fun c => c.post = post
  withPost tx post := fun s =>
    match s.replica.rows.get? post.text with
    | none => (.ok [], s)
    | some row => ((PostComment.rows row <$> matching tx fun c => c.post = post) : Action Comments _) s

/-- The transactions of the store. -/
def transactions : Transactions Comments where
  begin := rows.lift fun t =>
    let (tx, t) := t.begin
    (.ok tx, t)
  commit tx := rows.lift (Table.change fun t => t.commit tx)
  rollback tx := rows.lift (Table.change fun t => t.rollback tx)
  limit _ := none
  now _ := 0

end Comments

end Forum.Memory
