import Forum.Post

/-!
# Replication events

The posts service tells of every change of a post by an event. The subject of a message says what happened; the payload
is the whole post, or for a deleted one its identifier.
-/

namespace Forum

/-- The octets of a message. -/
abbrev Payload := List UInt8

/-- What happened to a post. -/
inductive EventKind where
  | created
  | updated
  | deleted
deriving DecidableEq, Repr

namespace Subject

def postCreated : String := "post-created"

def postUpdated : String := "post-updated"

def postDeleted : String := "post-deleted"

/-- Takes the messages that no replica could apply. -/
def deadLetter : String := "post-dead-letter"

/-- The subjects that a replica listens to. -/
def posts : List String := [postCreated, postUpdated, postDeleted]

/-- Names the subject that a dead letter was published on first. -/
def originHeader : String := "Agora-Original-Subject"

/-- The name of the stream that keeps the messages of a cluster: letters in upper case, and an underscore for every
character that is no ASCII letter or digit. -/
def streamName (cluster : String) : String :=
  String.ofList (cluster.toList.map fun c => if c.isAlphanum then c.toUpper else '_') ++ "_POSTS"

/-- The name of the consumer that the members of a queue group share on a subject. -/
def durableName (group subject : String) : String := s!"{group}-{subject}"

end Subject

namespace EventKind

def all : List EventKind := [created, updated, deleted]

def subject : EventKind → String
  | created => Subject.postCreated
  | updated => Subject.postUpdated
  | deleted => Subject.postDeleted

/-- The kind of the events on a subject. -/
def ofSubject? (subject : String) : Option EventKind := all.find? fun k => k.subject == subject

/-- The message for a subject without events. -/
def unknownSubjectMessage (subject : String) : String := s!"Unknown post event subject: {subject}"

end EventKind

/-- A change of a post. -/
inductive PostEvent where
  | created (post : Post)
  | updated (post : Post)
  | deleted (id : PostId)
deriving DecidableEq, Repr

namespace PostEvent

def kind : PostEvent → EventKind
  | created _ => .created
  | updated _ => .updated
  | deleted _ => .deleted

def subject (e : PostEvent) : String := e.kind.subject

def postId : PostEvent → PostId
  | created post => post.id
  | updated post => post.id
  | deleted id => id

end PostEvent

end Forum
