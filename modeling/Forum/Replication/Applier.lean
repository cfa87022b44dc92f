import Forum.Codec
import Forum.Store

/-!
# Applying events

What arrives on a subject is read and written to the replica. A replica ignores what it holds already, so that applying
an event again does no harm.
-/

namespace Forum.Replication

/-- Why a message was not applied. -/
inductive ApplyError where
  /-- No events arrive on the subject. -/
  | unknownSubject (subject : String)
  | decode (subject : String) (source : CodecError)
  | store (subject : String) (source : Error)
deriving DecidableEq, Repr

def ApplyError.message : ApplyError → String
  | .unknownSubject subject => s!"No post event is published on subject {subject}"
  | .decode subject source => s!"Undecodable payload on {subject}: {source.message}"
  | .store subject source => s!"Replica write for {subject} failed: {source.message}"

/-- What an event did to the replica. -/
structure Applied where
  kind : EventKind
  post : PostId
  write : ReplicaWrite
deriving DecidableEq, Repr

/-- Writes events to a replica. -/
structure Applier (σ : Type) where
  replica : ReplicaStore σ
  codec : Codec

namespace Applier

variable {σ : Type}

/-- The write that an event asks for. -/
def write (a : Applier σ) : PostEvent → Action σ ReplicaWrite
  | .created post => a.replica.insert post
  | .updated post => a.replica.update post
  | .deleted id => a.replica.delete id

/-- Applies an event. -/
def applyEvent (a : Applier σ) (event : PostEvent) : ExceptT ApplyError (StateM σ) Applied := fun s =>
  match a.write event s with
  | (.ok write, s) => (.ok ⟨event.kind, event.postId, write⟩, s)
  | (.error e, s) => (.error (.store event.subject e), s)

/-- The event that arrived as a payload on a subject. -/
def read (codec : Codec) (subject : String) (payload : Payload) : Except ApplyError PostEvent :=
  match EventKind.ofSubject? subject with
  | none => .error (.unknownSubject subject)
  | some kind => (codec.decode kind payload).mapError (.decode subject)

/-- Applies what arrived on a subject. -/
def apply (a : Applier σ) (subject : String) (payload : Payload) : ExceptT ApplyError (StateM σ) Applied := fun s =>
  match read a.codec subject payload with
  | .ok event => a.applyEvent event s
  | .error e => (.error e, s)

end Applier

end Forum.Replication
