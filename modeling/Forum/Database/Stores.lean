import Forum.Call
import Forum.Database.Row

/-!
# Stores in the database

The stores of the services as statements. What a write did is told by how many rows it affected.
-/

namespace Forum.Database

open Session

/-- Fails where a statement affected no row. -/
def orMissing (missing : Error) (request : Request Nat) : Action Session Unit := do
  if (← request.action) = 0 then throw missing

/-- Tells whether a statement affected a row. -/
def affects (request : Request Nat) : Action Session Bool := do return (← request.action) > 0

/-- Fails where a statement found no row. -/
def orNotFound {α : Type} (missing : Error) (request : Request (Option α)) : Action Session α := do
  match ← request.action with
  | some a => pure a
  | none => throw missing

def postStore : PostStore Session where
  create tx post := discard (execute tx (.insertPost post)).action
  update tx post := orMissing (.postNotFound post.id) (execute tx (.updatePost post))
  delete tx id := affects (execute tx (.deletePost id))
  page tx page := (fetchAll tx .post (.pageOfPosts page)).action
  find tx id := orNotFound (.postNotFound id) (fetchOne tx .post (.postById id))
  ofUser tx user := (fetchAll tx .post (.postsByUser user)).action

def commentStore : CommentStore Session where
  create tx comment := discard (execute tx (.insertComment comment)).action
  update tx comment := orMissing (.commentNotFound comment.id) (execute tx (.updateComment comment))
  delete tx id := affects (execute tx (.deleteComment id))
  page tx page := (fetchAll tx .comment (.pageOfComments page)).action
  find tx id := orNotFound (.commentNotFound id) (fetchOne tx .comment (.commentById id))
  ofUser tx user := (fetchAll tx .comment (.commentsByUser user)).action
  ofPost tx post := (fetchAll tx .comment (.commentsByPost post)).action
  withPost tx post := (fetchAll tx .postComment (.postWithComments post)).action

/-- The replica. A post that was not inserted is there already, or was deleted. -/
def replicaStore (tx : Option Handle) : ReplicaStore Session where
  insert post := do
    if ← affects (execute tx (.replicatePost post)) then return .applied
    match ← (fetchOne tx .tombstone (.tombstoneById post.id)).action with
    | some _ => return .tombstoned
    | none => return .alreadyPresent
  update post := do
    if ← affects (execute tx (.updateReplica post)) then return .applied else return .missing
  delete id := do
    if ← affects (execute tx (.buryPost id)) then return .applied else return .missing
  find id := (fetchOne tx .post (.postById id)).action

/-- The transactions of the stores. -/
def transactions : Transactions Session where
  begin := begin.action
  commit tx := (commit tx).action
  rollback tx := (rollback tx).action
  limit s := s.limit
  now _ := 0

/-- All that calls are made to, with a publisher of its own. -/
def backend (publisher : Publisher Session) : Backend Session :=
  ⟨postStore, commentStore, replicaStore, transactions, transactions, publisher⟩

/-! ## Tables -/

/-- Sends a command outside of every transaction. -/
def bare (c : Command) : Request Unit := do
  acquire
  command c

/-- Makes the tables of the posts service. -/
def createPostsTables : Request Unit := bare .createPosts

/-- Makes the tables of the comments service. -/
def createCommentsTables : Request Unit := do
  bare .createPosts
  bare .createTombstones
  bare .createComments

end Forum.Database
