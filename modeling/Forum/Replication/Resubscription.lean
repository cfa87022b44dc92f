import Forum.Replication.Subscriber

/-!
# Subscribing again

What a subscriber does about a subject whose stream has ended. It waits, and then asks the broker to join the durable
consumer again. Where that fails it waits twice as long as before, up to a bound, and asks once more. That goes on until
there is another stream, or until the subscriber notices that it is over. It looks for that before a wait and all
through it, but not while the broker is asked.
-/

namespace Forum.Replication

/-- Why a subscriber is over. -/
inductive Ending where
  /-- It was told to stop. -/
  | requested
  /-- Nobody holds it any more. -/
  | dropped
deriving DecidableEq, Repr

/-- What the broker is asked for. -/
structure Petition where
  subject : String
  group : String
  options : SubscriptionOptions
deriving DecidableEq, Repr

/-- How far a subscriber has got. -/
inductive Stage (α : Type) where
  | waiting (delay : Nat)
  /-- It has waited for so long, and asks the broker. -/
  | asking (delay : Nat)
  | restored (stream : α)
  | stopped
deriving DecidableEq, Repr

structure Resubscription (α : Type) where
  settings : SubscriberSettings
  petition : Petition
  /-- Why the subscriber is over, if it is. -/
  ending : Option Ending
  stage : Stage α
deriving DecidableEq, Repr

/-- What happens in the meantime. -/
inductive Occurrence (α : Type) where
  | ends (ending : Ending)
  /-- The subscriber looks whether it is over, while it waits. -/
  | looks
  /-- The time of a wait has passed. That may be so just when the subscriber is over. -/
  | waited
  | answered (answer : Except BrokerError α)

namespace Resubscription

variable {α : Type}

/-- Waits, unless the subscriber was told to stop. -/
def pause (r : Resubscription α) (delay : Nat) : Resubscription α :=
  { r with stage := if r.ending = some .requested then .stopped else .waiting delay }

/-- A stream has ended. The subscriber may be over by then. -/
def start (s : SubscriberSettings) (subject : String) (ending : Option Ending) : Resubscription α :=
  pause ⟨s, ⟨subject, s.group, s.options subject⟩, ending, .stopped⟩ s.resubscribeDelay

/-- What is over stays so, for the reason that it was over first. -/
def step (r : Resubscription α) (o : Occurrence α) : Resubscription α :=
  match o, r.stage with
  | .ends ending, _ => { r with ending := r.ending.or (some ending) }
  | .looks, .waiting _ => if r.ending.isSome then { r with stage := .stopped } else r
  | .waited, .waiting delay => { r with stage := .asking delay }
  | .answered (.ok stream), .asking _ => { r with stage := .restored stream }
  | .answered (.error _), .asking delay => r.pause (r.settings.nextDelay delay)
  | _, _ => r

end Resubscription

end Forum.Replication
