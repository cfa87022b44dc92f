import Forum.Publisher
import Forum.Transaction

/-!
# The posts service

Every request is checked first. A write is committed, and only then told to the replicas: a failure to publish is an
error of the request, but does not undo the write.
-/

namespace Forum

open Calendar

/-- The posts service on a state. -/
structure PostService (σ : Type) where
  store : PostStore σ
  transactions : Transactions σ
  /-- The transaction that the service itself is part of, if any. -/
  tx : Option Handle
  publisher : Publisher σ

namespace PostService

variable {σ : Type}

/-- Stores a new post under an identifier that is not in use. -/
def create (s : PostService σ) (id : PostId) (new : NewPost) (now : Instant) : Action σ Post := do
  new.validate
  let post := new.toPost id now
  s.transactions.atomically s.tx fun tx => s.store.create tx post
  s.publisher.publish (.created post)
  pure post

/-- Changes a stored post. -/
def amend (s : PostService σ) (id : PostId) (update : PostUpdate) (now : Instant) : Action σ Post :=
  s.transactions.atomically s.tx fun tx => do
    let post := (← s.store.find tx id).apply update now
    s.store.update tx post
    pure post

/-- Changes the post that a text identifies. -/
def update (s : PostService σ) (text : String) (update : PostUpdate) (now : Instant) : Action σ Post := do
  let id ← PostId.read text
  update.validate
  let post ← s.amend id update now
  s.publisher.publish (.updated post)
  pure post

/-- Removes a stored post. -/
def remove (s : PostService σ) (id : PostId) : Action σ Unit :=
  s.transactions.atomically s.tx fun tx => do
    if !(← s.store.delete tx id) then throw (.postNotFound id)

/-- Deletes the post that a text identifies. -/
def delete (s : PostService σ) (text : String) : Action σ Unit := do
  let id ← PostId.read text
  s.remove id
  s.publisher.publish (.deleted id)

def page (s : PostService σ) (page : Page) : Action σ (List Post) := s.store.page s.tx page

def find (s : PostService σ) (text : String) : Action σ Post := do
  s.store.find s.tx (← PostId.read text)

def ofUser (s : PostService σ) (text : String) : Action σ (List Post) := do
  s.store.ofUser s.tx (← UserId.read text)

end PostService

end Forum
