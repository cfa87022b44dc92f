import Forum.Memory.Broker.Consumer
import Forum.Memory.Rows

/-!
# The broker in memory

A broker keeps all messages that were published, and its consumers by their durable names. Each request answers with the
messages that it makes the broker hand out; who makes the request sees to it that a hand-out expires in time.
-/

namespace Forum.Memory

structure Broker where
  /-- The messages, oldest first. -/
  log : List StoredMessage
  consumers : Rows Consumer
  /-- How many members have joined; they are numbered from one. -/
  joined : Nat
  /-- The members whose streams are held. -/
  live : List Nat

namespace Broker

/-- A broker without messages and consumers. -/
def empty : Broker := ⟨[], .empty, 0, []⟩

def isLive (b : Broker) (member : Nat) : Bool := b.live.contains member

/-- Puts a consumer in its place. -/
def put (b : Broker) (c : Consumer) : Broker := { b with consumers := b.consumers.insert c.options.durable c }

/-- Keeps a message without handing it out. -/
def append (b : Broker) (subject : String) (headers : Headers) (payload : Payload) : Broker :=
  { b with log := b.log ++ [⟨b.log.length + 1, subject, headers, payload⟩] }

/-- Lets consumers hand out what is new, one after the other. -/
def pumpAll : List Consumer → Broker → Broker × List HandOut
  | [], b => (b, [])
  | c :: cs, b =>
    let (c, hs) := c.pump b.isLive b.log
    let (b, hs') := pumpAll cs (b.put c)
    (b, hs ++ hs')

/-- Publishes a message. -/
def publish (b : Broker) (subject : String) (headers : Headers) (payload : Payload) : Broker × List HandOut :=
  let b := b.append subject headers payload
  pumpAll (b.consumers.values.filter fun c => c.subject = subject) b

/-- A member joins the consumer that the options name. -/
def join (b : Broker) (c : Consumer) : Nat × Broker × List HandOut :=
  let member := b.joined + 1
  let b := { b with joined := member, live := b.live ++ [member] }
  let (c, hs) := c.join b.isLive b.log member
  (member, b.put c, hs)

/-- Joins the consumer that the options name, which is made if there is none. A consumer stays on its subject and keeps
the options with which it was made. -/
def subscribe (b : Broker) (subject : String) (options : SubscriptionOptions) :
    Except BrokerError (Nat × Broker × List HandOut) :=
  let c := (b.consumers.get? options.durable).getD (.new subject options b.log.length)
  if c.subject = subject then .ok (b.join c)
  else .error (.subscribe subject s!"durable {options.durable} is bound to {c.subject}")

/-- The time of a delivery is over. -/
def expire (b : Broker) (durable : String) (seq count : Nat) : Broker × List HandOut :=
  match b.consumers.get? durable with
  | none => (b, [])
  | some c =>
    let (c, hs) := c.expire b.isLive b.log seq count
    (b.put c, hs)

/-- Settles a message. -/
def settle (b : Broker) (durable : String) (seq : Nat) (giveUp : Bool) : Except BrokerError Broker :=
  match b.consumers.get? durable with
  | none => .error (.ack s!"unknown durable {durable}")
  | some c => .ok (b.put (c.settle seq giveUp))

/-- Parts from every member. What is pending stays so. -/
def disconnectAll (b : Broker) : Broker :=
  b.consumers.values.foldl (fun b c => b.put { c with members := [] }) b

/-- The stream of a member is not held any more. -/
def dropMember (b : Broker) (member : Nat) : Broker := { b with live := b.live.filter (· ≠ member) }

/-- The member belongs to a consumer, so that its stream has not ended. -/
def isMember (b : Broker) (member : Nat) : Bool := b.consumers.values.any fun c => c.members.contains member

/-! ## Looking -/

/-- The messages on a subject, oldest first. -/
def published (b : Broker) (subject : String) : List StoredMessage := b.log.filter fun m => m.subject = subject

/-- How many messages of a consumer are pending. -/
def pendingCount (b : Broker) (durable : String) : Nat :=
  ((b.consumers.get? durable).map fun c => c.pending.length).getD 0

/-- The messages that members of a consumer gave up. -/
def terminated (b : Broker) (durable : String) : List Nat :=
  ((b.consumers.get? durable).map Consumer.terminated).getD []

/-- The messages that a consumer gave up. -/
def exhausted (b : Broker) (durable : String) : List Nat :=
  ((b.consumers.get? durable).map Consumer.exhausted).getD []

end Broker

end Forum.Memory
