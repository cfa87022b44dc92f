import Forum.Event

/-!
# Messaging

What the services ask of a broker. A broker keeps published messages and hands them to durable consumers. The members of
a queue group share a consumer; a message that is not acknowledged in time is handed out again.

Times are milliseconds.
-/

namespace Forum

/-- Why a broker did not do what it was asked. -/
inductive BrokerError where
  | connection (reason : String)
  | publish (subject reason : String)
  | subscribe (subject reason : String)
  | ack (reason : String)
  /-- The subscription, or the broker, is gone. -/
  | closed
deriving DecidableEq, Repr

def BrokerError.message : BrokerError → String
  | connection reason => s!"Connection error: {reason}"
  | publish subject reason => s!"Publish to {subject} failed: {reason}"
  | subscribe subject reason => s!"Subscribe to {subject} failed: {reason}"
  | ack reason => s!"Acknowledgment failed: {reason}"
  | closed => "Subscription closed"

/-- Names with values that travel beside a payload. -/
abbrev Headers := List (String × String)

/-- What is asked of a durable consumer. -/
structure SubscriptionOptions where
  /-- The name under which the broker remembers the consumer. -/
  durable : String
  /-- A new consumer starts with the first message that is kept. -/
  deliverAll : Bool
  /-- How long a message may stay unacknowledged before it is handed out again. -/
  ackWait : Nat
  /-- How often a message is handed out at most. -/
  maxDeliver : Option Nat
deriving DecidableEq, Repr

/-- A message as it is handed out. -/
structure Delivery where
  subject : String
  payload : Payload
  /-- How often the message has been handed out, this time included. -/
  count : Nat
deriving DecidableEq, Repr

/-- A request to a broker inside a state. -/
abbrev BrokerAction (σ α : Type) : Type := ExceptT BrokerError (StateM σ) α

/-- Publishes a payload with headers on a subject. -/
abbrev Sender (σ : Type) : Type := (subject : String) → Headers → Payload → BrokerAction σ Unit

/-- The two ways in which a delivery is settled. -/
structure Settlement (σ : Type) where
  /-- The message is done with. -/
  ack : BrokerAction σ Unit
  /-- The message is given up. -/
  term : BrokerAction σ Unit

end Forum
