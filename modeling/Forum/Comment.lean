import Forum.Post

/-!
# Comments

The comments service owns the comments and shows them next to the replicated posts.
-/

namespace Forum

open Calendar

/-- A comment on a post. -/
structure Comment where
  id : CommentId
  description : String
  post : PostId
  user : UserId
  created : Instant
  updated : Instant
deriving DecidableEq, Repr

/-- What a caller supplies to create a comment. -/
structure NewComment where
  description : String
  post : String
  user : String
deriving DecidableEq, Repr

/-- A change of a comment; what is absent keeps its value. -/
structure CommentUpdate where
  description : Option String
deriving DecidableEq, Repr

/-- A replicated post with one of its comments, or with none where it has none. -/
structure PostComment where
  post : Post
  comment : Option Comment
deriving DecidableEq, Repr

namespace NewComment

/-- Checks the fields in their order. -/
def validate (c : NewComment) : Except Error Unit := do
  requireText "description" c.description
  requireUuid "post_id" c.post
  requireUuid "user_id" c.user

/-- The comment that is asked for, made at `now`. -/
def toComment (c : NewComment) (id : CommentId) (now : Instant) : Comment :=
  ⟨id, c.description, ⟨c.post⟩, ⟨c.user⟩, now, now⟩

end NewComment

/-- Checks the given fields. -/
def CommentUpdate.validate (u : CommentUpdate) : Except Error Unit :=
  requireTextIfGiven "description" u.description

namespace Comment

/-- The comment after a change made at `now`. -/
def apply (c : Comment) (u : CommentUpdate) (now : Instant) : Comment :=
  { c with description := u.description.getD c.description, updated := now }

/-- Order of listings: by creation, then by identifier. -/
def precedes (a b : Comment) : Bool :=
  (a.created.compare b.created).then (compare a.id.text b.id.text) != .gt

end Comment

/-- The rows that pair a post with its comments: one without a comment where there is none. -/
def PostComment.rows (post : Post) : List Comment → List PostComment
  | [] => [⟨post, none⟩]
  | comments => comments.map fun c => ⟨post, some c⟩

end Forum
