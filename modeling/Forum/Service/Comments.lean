import Forum.Transaction

/-!
# The comments service

Every request is checked before the store is asked. The service reads the replicated posts, but never writes them.
-/

namespace Forum

open Calendar

/-- The comments service on a state. -/
structure CommentService (σ : Type) where
  store : CommentStore σ
  transactions : Transactions σ
  /-- The transaction that the service itself is part of, if any. -/
  tx : Option Handle

namespace CommentService

variable {σ : Type}

/-- Stores a new comment under an identifier that is not in use. -/
def create (s : CommentService σ) (id : CommentId) (new : NewComment) (now : Instant) : Action σ Comment := do
  new.validate
  let comment := new.toComment id now
  s.transactions.atomically s.tx fun tx => s.store.create tx comment
  pure comment

/-- Changes the comment that a text identifies. -/
def update (s : CommentService σ) (text : String) (update : CommentUpdate) (now : Instant) : Action σ Comment := do
  let id ← CommentId.read text
  update.validate
  s.transactions.atomically s.tx fun tx => do
    let comment := (← s.store.find tx id).apply update now
    s.store.update tx comment
    pure comment

/-- Deletes the comment that a text identifies. This single write begins no transaction. -/
def delete (s : CommentService σ) (text : String) : Action σ Unit := do
  let id ← CommentId.read text
  if !(← s.store.delete s.tx id) then throw (.commentNotFound id)

def page (s : CommentService σ) (page : Page) : Action σ (List Comment) := s.store.page s.tx page

def find (s : CommentService σ) (text : String) : Action σ Comment := do
  s.store.find s.tx (← CommentId.read text)

def ofUser (s : CommentService σ) (text : String) : Action σ (List Comment) := do
  s.store.ofUser s.tx (← UserId.read text)

def ofPost (s : CommentService σ) (text : String) : Action σ (List Comment) := do
  s.store.ofPost s.tx (← PostId.read text)

/-- The replicated post that a text identifies with each of its comments. -/
def withPost (s : CommentService σ) (text : String) : Action σ (List PostComment) := do
  s.store.withPost s.tx (← PostId.read text)

end CommentService

end Forum
