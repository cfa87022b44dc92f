import Forum.Messaging
import Forum.Replication.Applier
import Forum.Settings

/-!
# The subscriber

What is done with a message that is handed out. It is acknowledged once it is applied. A message that cannot be applied
is left to be handed out again, until it has been handed out as often as the settings allow; then it is published as a
dead letter and given up. Where that fails too, it is left once more.

A subscription that ended is tried again after a while, and after twice the while each time that fails, up to a bound.
-/

namespace Forum.Replication

/-- How a subscriber takes messages. Times are milliseconds. -/
structure SubscriberSettings where
  group : String
  ackWait : Nat
  /-- At which delivery a message that cannot be applied is given up. -/
  maxDeliver : Nat
  deadLetter : String
  /-- How long to wait after a subscription ended. -/
  resubscribeDelay : Nat
  /-- How long to wait at most. -/
  maxResubscribeDelay : Nat
deriving DecidableEq, Repr

namespace SubscriberSettings

def default : SubscriberSettings := ⟨"posts", 60000, 5, Subject.deadLetter, 1000, 60000⟩

/-- The subscriber that the replicator is told to run. -/
def ofSettings (r : ReplicationSettings) : SubscriberSettings :=
  { default with
    group := r.group
    ackWait := r.ackWait.toNat * 1000
    maxDeliver := r.maxDeliver.toNat
    deadLetter := r.deadLetter }

/-- What is asked of the consumer of a subject. The broker is to hand out a message again as often as it takes: the
subscriber itself decides when to give it up. -/
def options (s : SubscriberSettings) (subject : String) : SubscriptionOptions :=
  ⟨Subject.durableName s.group subject, true, s.ackWait, none⟩

/-- How long to wait after a wait was in vain. -/
def nextDelay (s : SubscriberSettings) (delay : Nat) : Nat := min (2 * delay) s.maxResubscribeDelay

/-- How long to wait before an attempt; the first attempt has number zero. -/
def delayBefore (s : SubscriberSettings) : Nat → Nat
  | 0 => s.resubscribeDelay
  | n + 1 => s.nextDelay (s.delayBefore n)

end SubscriberSettings

/-- What became of a delivery. -/
inductive Outcome where
  /-- Applied and acknowledged. -/
  | acked
  /-- Left, so that it is handed out again. -/
  | unacked
  /-- Forwarded as a dead letter. -/
  | deadLettered
deriving DecidableEq, Repr

/-- Applies deliveries and forwards dead letters. -/
structure Subscriber (σ : Type) where
  settings : SubscriberSettings
  applier : Applier σ
  send : Sender σ

namespace Subscriber

variable {σ : Type}

/-- Publishes a delivery as a dead letter and gives it up. The message stays forwarded also where it is not given up. -/
def forward (r : Subscriber σ) (d : Delivery) (settle : Settlement σ) : StateM σ Outcome := fun s =>
  match r.send r.settings.deadLetter [(Subject.originHeader, d.subject)] d.payload s with
  | (.error _, s) => (.unacked, s)
  | (.ok _, s) => (.deadLettered, (settle.term s).2)

/-- Applies a delivery and settles it. -/
def process (r : Subscriber σ) (d : Delivery) (settle : Settlement σ) : StateM σ Outcome := fun s =>
  match r.applier.apply d.subject d.payload s with
  | (.ok _, s) =>
    match settle.ack s with
    | (.ok _, s) => (.acked, s)
    | (.error _, s) => (.unacked, s)
  | (.error _, s) => if d.count < r.settings.maxDeliver then (.unacked, s) else r.forward d settle s

end Subscriber

end Forum.Replication
