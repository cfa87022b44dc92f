import Forum.Memory.Rows
import Forum.Store

/-!
# The replica in memory

Rows of replicated posts, and the identifiers of posts that were deleted. A post that was deleted once is never inserted
again. A change keeps the row's time of creation. Writes of chosen posts can be made to fail.
-/

namespace Forum.Memory

structure Replica where
  rows : Rows Post
  /-- The posts that were deleted. -/
  tombstones : Rows Unit
  /-- The posts whose writes fail. -/
  failing : List String
deriving DecidableEq

namespace Replica

/-- A replica without posts. -/
def empty : Replica := ⟨.empty, .empty, []⟩

/-- Makes the writes of a post fail. -/
def fail (r : Replica) (id : PostId) : Replica := { r with failing := id.text :: r.failing }

/-- Lets all writes succeed again. -/
def heal (r : Replica) : Replica := { r with failing := [] }

/-- A row with what an update of the post changes. -/
def updated (row post : Post) : Post :=
  { row with title := post.title, description := post.description, user := post.user, updated := post.updated }

/-- Inserts a post that is new and not deleted. -/
def insert (r : Replica) (post : Post) : ReplicaWrite × Replica :=
  if r.tombstones.contains post.id.text then (.tombstoned, r)
  else if r.rows.contains post.id.text then (.alreadyPresent, r)
  else (.applied, { r with rows := r.rows.insert post.id.text post })

/-- Changes the row of a post. -/
def update (r : Replica) (post : Post) : ReplicaWrite × Replica :=
  match r.rows.get? post.id.text with
  | some row => (.applied, { r with rows := r.rows.insert post.id.text (updated row post) })
  | none => (.missing, r)

/-- Removes the row of a post and remembers that it is deleted. -/
def delete (r : Replica) (id : PostId) : ReplicaWrite × Replica :=
  (if r.rows.contains id.text then .applied else .missing,
    { r with rows := r.rows.erase id.text, tombstones := r.tombstones.insert id.text () })

/-- A write of a post, unless those of the post fail. -/
def guarded (id : PostId) (write : Replica → ReplicaWrite × Replica) : Action Replica ReplicaWrite := fun r =>
  if r.failing.contains id.text then (.error (.infrastructure s!"injected replica failure for {id.text}"), r)
  else
    let (outcome, r) := write r
    (.ok outcome, r)

/-- The store of replicated posts. -/
def store : ReplicaStore Replica where
  insert post := guarded post.id fun r => r.insert post
  update post := guarded post.id fun r => r.update post
  delete id := guarded id fun r => r.delete id
  find id := fun r => (.ok (r.rows.get? id.text), r)

end Replica

end Forum.Memory
