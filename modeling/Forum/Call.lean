import Forum.Service.Comments
import Forum.Service.Posts

/-!
# Calls

What can be asked of the stores and of the services, as data, so that whole sequences of calls can be run and reasoned
about. A backend is all that calls are made to.
-/

namespace Forum

open Calendar

/-- What a call answers. -/
inductive Answer where
  | done
  /-- Whether there was such a record. -/
  | existed (was : Bool)
  | post (post : Post)
  | posts (posts : List Post)
  | comment (comment : Comment)
  | comments (comments : List Comment)
  | postComments (rows : List PostComment)
  | wrote (write : ReplicaWrite)
  | found (post : Option Post)
deriving DecidableEq, Repr

/-- A call of the posts store. -/
inductive PostCall where
  | create (post : Post)
  | update (post : Post)
  | delete (id : PostId)
  | page (page : Page)
  | find (id : PostId)
  | ofUser (user : UserId)
deriving DecidableEq, Repr

/-- A call of the comments store. -/
inductive CommentCall where
  | create (comment : Comment)
  | update (comment : Comment)
  | delete (id : CommentId)
  | page (page : Page)
  | find (id : CommentId)
  | ofUser (user : UserId)
  | ofPost (post : PostId)
  | withPost (post : PostId)
deriving DecidableEq, Repr

/-- A call of the replica. -/
inductive ReplicaCall where
  | insert (post : Post)
  | update (post : Post)
  | delete (id : PostId)
  | find (id : PostId)
deriving DecidableEq, Repr

/-- A request to the posts service. A new post gets the identifier that is given. -/
inductive PostRequest where
  | create (id : PostId) (new : NewPost) (now : Instant)
  | update (id : String) (update : PostUpdate) (now : Instant)
  | delete (id : String)
  | page (page : Page)
  | find (id : String)
  | ofUser (user : String)
deriving DecidableEq, Repr

/-- A request to the comments service. A new comment gets the identifier that is given. -/
inductive CommentRequest where
  | create (id : CommentId) (new : NewComment) (now : Instant)
  | update (id : String) (update : CommentUpdate) (now : Instant)
  | delete (id : String)
  | page (page : Page)
  | find (id : String)
  | ofUser (user : String)
  | ofPost (post : String)
  | withPost (post : String)
deriving DecidableEq, Repr

variable {σ : Type}

namespace PostCall

/-- Makes a call of a store. -/
def run (s : PostStore σ) (tx : Option Handle) : PostCall → Action σ Answer
  | create post => (fun _ => .done) <$> s.create tx post
  | update post => (fun _ => .done) <$> s.update tx post
  | delete id => .existed <$> s.delete tx id
  | page p => .posts <$> s.page tx p
  | find id => .post <$> s.find tx id
  | ofUser user => .posts <$> s.ofUser tx user

end PostCall

namespace CommentCall

/-- Makes a call of a store. -/
def run (s : CommentStore σ) (tx : Option Handle) : CommentCall → Action σ Answer
  | create comment => (fun _ => .done) <$> s.create tx comment
  | update comment => (fun _ => .done) <$> s.update tx comment
  | delete id => .existed <$> s.delete tx id
  | page p => .comments <$> s.page tx p
  | find id => .comment <$> s.find tx id
  | ofUser user => .comments <$> s.ofUser tx user
  | ofPost post => .comments <$> s.ofPost tx post
  | withPost post => .postComments <$> s.withPost tx post

end CommentCall

namespace ReplicaCall

/-- Makes a call of a replica. -/
def run (s : ReplicaStore σ) : ReplicaCall → Action σ Answer
  | insert post => .wrote <$> s.insert post
  | update post => .wrote <$> s.update post
  | delete id => .wrote <$> s.delete id
  | find id => .found <$> s.find id

end ReplicaCall

namespace PostRequest

/-- Makes a request to a service. -/
def run (s : PostService σ) : PostRequest → Action σ Answer
  | create id new now => .post <$> s.create id new now
  | update id u now => .post <$> s.update id u now
  | delete id => (fun _ => .done) <$> s.delete id
  | page p => .posts <$> s.page p
  | find id => .post <$> s.find id
  | ofUser user => .posts <$> s.ofUser user

end PostRequest

namespace CommentRequest

/-- Makes a request to a service. -/
def run (s : CommentService σ) : CommentRequest → Action σ Answer
  | create id new now => .comment <$> s.create id new now
  | update id u now => .comment <$> s.update id u now
  | delete id => (fun _ => .done) <$> s.delete id
  | page p => .comments <$> s.page p
  | find id => .comment <$> s.find id
  | ofUser user => .comments <$> s.ofUser user
  | ofPost post => .comments <$> s.ofPost post
  | withPost post => .postComments <$> s.withPost post

end CommentRequest

/-! ## Backends -/

/-- All that calls are made to. -/
structure Backend (σ : Type) where
  posts : PostStore σ
  comments : CommentStore σ
  replica : Option Handle → ReplicaStore σ
  postTransactions : Transactions σ
  commentTransactions : Transactions σ
  publisher : Publisher σ

namespace Backend

/-- The posts service, as part of a transaction or on its own. -/
def postService (b : Backend σ) (tx : Option Handle) : PostService σ :=
  ⟨b.posts, b.postTransactions, tx, b.publisher⟩

/-- The comments service, as part of a transaction or on its own. -/
def commentService (b : Backend σ) (tx : Option Handle) : CommentService σ :=
  ⟨b.comments, b.commentTransactions, tx⟩

end Backend

/-- A call of any kind. -/
inductive Call where
  | posts (call : PostCall)
  | comments (call : CommentCall)
  | replica (call : ReplicaCall)
  | postService (request : PostRequest)
  | commentService (request : CommentRequest)
deriving DecidableEq, Repr

/-- Makes a call, as part of a transaction or on its own. -/
def Call.run (b : Backend σ) (tx : Option Handle) : Call → Action σ Answer
  | posts call => call.run b.posts tx
  | comments call => call.run b.comments tx
  | replica call => call.run (b.replica tx)
  | postService request => request.run (b.postService tx)
  | commentService request => request.run (b.commentService tx)

end Forum
