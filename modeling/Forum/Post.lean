import Forum.Calendar.Instant
import Forum.Error
import Forum.Text.Blank

/-!
# Posts

The posts service owns the posts; the comments service keeps a replica of them.
-/

namespace Forum

open Calendar

/-- A post as both services store it. -/
structure Post where
  id : PostId
  title : String
  description : String
  user : UserId
  created : Instant
  updated : Instant
deriving DecidableEq, Repr

/-- What a caller supplies to create a post. -/
structure NewPost where
  title : String
  description : String
  user : String
deriving DecidableEq, Repr

/-- A change of a post; what is absent keeps its value. -/
structure PostUpdate where
  title : Option String
  description : Option String
deriving DecidableEq, Repr

/-- A text field has to hold more than blanks. -/
def requireText (field value : String) : Except Error Unit :=
  if Text.isBlankText value then .error (.validation field "is required") else .ok ()

/-- A text field, where it is given, has to hold more than blanks. -/
def requireTextIfGiven (field : String) : Option String → Except Error Unit
  | none => .ok ()
  | some value => requireText field value

/-- An identifier field has to be a UUID. -/
def requireUuid (field value : String) : Except Error Unit :=
  if Uuid.isUuidText value then .ok () else .error (.validation field "must be a UUID")

namespace NewPost

/-- Checks the fields in their order. -/
def validate (p : NewPost) : Except Error Unit := do
  requireText "title" p.title
  requireText "description" p.description
  requireUuid "user_id" p.user

/-- The post that is asked for, made at `now`. -/
def toPost (p : NewPost) (id : PostId) (now : Instant) : Post :=
  ⟨id, p.title, p.description, ⟨p.user⟩, now, now⟩

end NewPost

namespace PostUpdate

/-- Checks the given fields in their order. -/
def validate (u : PostUpdate) : Except Error Unit := do
  requireTextIfGiven "title" u.title
  requireTextIfGiven "description" u.description

end PostUpdate

namespace Post

/-- The post after a change made at `now`. -/
def apply (p : Post) (u : PostUpdate) (now : Instant) : Post :=
  { p with title := u.title.getD p.title, description := u.description.getD p.description, updated := now }

/-- Order of listings: by creation, then by identifier. -/
def precedes (a b : Post) : Bool :=
  (a.created.compare b.created).then (compare a.id.text b.id.text) != .gt

end Post

end Forum
