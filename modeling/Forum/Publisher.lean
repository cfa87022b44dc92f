import Forum.Codec
import Forum.Messaging
import Forum.Store

/-!
# Publishing events

An event is written by the codec and sent on its subject. Nothing is tried twice: where the event is not written or not
sent, the caller is told, although the change that the event tells of is kept.
-/

namespace Forum

/-- Sends events. -/
structure Publisher (σ : Type) where
  codec : Codec
  send : Sender σ

/-- Publishes an event. -/
def Publisher.publish {σ : Type} (p : Publisher σ) (event : PostEvent) : Action σ Unit := fun s =>
  match p.codec.encode event with
  | .error e => (.error (.publish event.subject e.message), s)
  | .ok payload =>
    match p.send event.subject [] payload s with
    | (.ok _, s) => (.ok (), s)
    | (.error e, s) => (.error (.publish event.subject e.message), s)

end Forum
