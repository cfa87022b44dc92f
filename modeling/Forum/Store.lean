import Forum.Comment
import Forum.Page

/-!
# Stores

What the services ask of the places where posts, comments and replicated posts are kept. A store is a record of
operations on a state `σ`; two kinds of store, in memory and in a database, answer the same questions.

A write may belong to a transaction, which is known by its handle. A write without a transaction takes effect at once;
one that belongs to a transaction takes effect when that is committed.
-/

namespace Forum

/-- An operation on a state that answers or fails, and leaves a state in both cases. -/
abbrev Action (σ α : Type) : Type := ExceptT Error (StateM σ) α

/-- A transaction, by the order in which transactions were begun. -/
abbrev Handle := Nat

/-- The posts of the posts service. -/
structure PostStore (σ : Type) where
  create : Option Handle → Post → Action σ Unit
  update : Option Handle → Post → Action σ Unit
  /-- Tells whether there was such a post. -/
  delete : Option Handle → PostId → Action σ Bool
  /-- A page of all posts, by creation. -/
  page : Option Handle → Page → Action σ (List Post)
  find : Option Handle → PostId → Action σ Post
  ofUser : Option Handle → UserId → Action σ (List Post)

/-- The comments of the comments service. -/
structure CommentStore (σ : Type) where
  create : Option Handle → Comment → Action σ Unit
  update : Option Handle → Comment → Action σ Unit
  /-- Tells whether there was such a comment. -/
  delete : Option Handle → CommentId → Action σ Bool
  /-- A page of all comments, by creation. -/
  page : Option Handle → Page → Action σ (List Comment)
  find : Option Handle → CommentId → Action σ Comment
  ofUser : Option Handle → UserId → Action σ (List Comment)
  ofPost : Option Handle → PostId → Action σ (List Comment)
  /-- The replicated post with each of its comments. -/
  withPost : Option Handle → PostId → Action σ (List PostComment)

/-- What a write did to the replica. -/
inductive ReplicaWrite where
  | applied
  /-- There is a row already, which stays as it is. -/
  | alreadyPresent
  /-- There is no row to change. -/
  | missing
  /-- The post was deleted before, and stays deleted. -/
  | tombstoned
deriving DecidableEq, Repr

/-- The replica of the posts that the comments service keeps. -/
structure ReplicaStore (σ : Type) where
  insert : Post → Action σ ReplicaWrite
  update : Post → Action σ ReplicaWrite
  delete : PostId → Action σ ReplicaWrite
  find : PostId → Action σ (Option Post)

/-! ## Stores inside a larger state -/

/-- A part of a state that can be taken out and put back. -/
structure Part (ω σ : Type) where
  get : ω → σ
  put : σ → ω → ω

namespace Part

variable {ω σ : Type}

/-- An operation on a part as one on the whole. -/
def lift {α : Type} (p : Part ω σ) (a : Action σ α) : Action ω α := fun w =>
  let (answer, s) := a (p.get w)
  (answer, p.put s w)

def posts (p : Part ω σ) (s : PostStore σ) : PostStore ω where
  create tx post := p.lift (s.create tx post)
  update tx post := p.lift (s.update tx post)
  delete tx id := p.lift (s.delete tx id)
  page tx page := p.lift (s.page tx page)
  find tx id := p.lift (s.find tx id)
  ofUser tx user := p.lift (s.ofUser tx user)

def comments (p : Part ω σ) (s : CommentStore σ) : CommentStore ω where
  create tx comment := p.lift (s.create tx comment)
  update tx comment := p.lift (s.update tx comment)
  delete tx id := p.lift (s.delete tx id)
  page tx page := p.lift (s.page tx page)
  find tx id := p.lift (s.find tx id)
  ofUser tx user := p.lift (s.ofUser tx user)
  ofPost tx post := p.lift (s.ofPost tx post)
  withPost tx post := p.lift (s.withPost tx post)

def replica (p : Part ω σ) (s : ReplicaStore σ) : ReplicaStore ω where
  insert post := p.lift (s.insert post)
  update post := p.lift (s.update post)
  delete id := p.lift (s.delete id)
  find id := p.lift (s.find id)

end Part

end Forum
