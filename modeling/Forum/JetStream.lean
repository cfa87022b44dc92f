import Forum.Messaging
import Forum.Settings

/-!
# Streams and consumers of the message servers

What is asked of the message servers: one stream keeps all messages of a cluster, dead letters included, for a week. A
subscription is a consumer of the stream that is filtered to one subject and known by its durable name.

Times are nanoseconds, unless something else is said.
-/

namespace Forum.JetStream

/-- Which servers are connected to, and as whom. -/
structure Connection where
  /-- The addresses with commas between them. -/
  servers : String
  client : String
  /-- How many whole seconds may pass until the connection stands. -/
  timeout : UInt64
deriving DecidableEq, Repr

/-- The connection that settings ask for. -/
def Connection.ofSettings (s : MessagingSettings) : Connection :=
  ⟨String.intercalate "," s.urls, s.client, s.connectTimeout⟩

/-- The nanoseconds of a millisecond. -/
def nanosPerMilli : Nat := 1000000

/-- What is asked of a stream. -/
structure StreamConfig where
  name : String
  subjects : List String
  /-- Messages that are older are dropped. -/
  maxAge : Nat
deriving DecidableEq, Repr

/-- The stream of a cluster. -/
def StreamConfig.ofSettings (s : MessagingSettings) (deadLetter : String) : StreamConfig :=
  ⟨Subject.streamName s.cluster, Subject.posts ++ [deadLetter], 7 * 24 * 60 * 60 * 1000 * nanosPerMilli⟩

/-- Where a new consumer starts. -/
inductive DeliverPolicy where
  | all
  | new
deriving DecidableEq, Repr

/-- What is asked of a consumer. Every message has to be acknowledged by itself. -/
structure ConsumerConfig where
  durable : String
  filter : String
  deliver : DeliverPolicy
  ackWait : Nat
  /-- How often a message is delivered at most; minus one for any number of times. -/
  maxDeliver : Int
deriving DecidableEq, Repr

/-- The consumer for a subscription to a subject. -/
def ConsumerConfig.ofOptions (subject : String) (o : SubscriptionOptions) : ConsumerConfig :=
  ⟨o.durable, subject, if o.deliverAll then .all else .new, o.ackWait * nanosPerMilli,
    (o.maxDeliver.map Int.ofNat).getD (-1)⟩

/-- A message as a server hands it out. -/
structure Message where
  subject : String
  payload : Payload
  /-- How often the server says that the message was handed out. -/
  told : Option Int
deriving DecidableEq, Repr

/-- The largest delivery count. -/
def countLimit : Nat := UInt32.size - 1

/-- How often a message was handed out: what the server says, or once where it says nothing. What is no count within 32
bits is the largest one. -/
def deliveryCount : Option Int → Nat
  | none => 1
  | some n => if 0 ≤ n ∧ n ≤ countLimit then n.toNat else countLimit

/-- A message as it is handled. -/
def Message.delivery (m : Message) : Delivery := ⟨m.subject, m.payload, deliveryCount m.told⟩

end Forum.JetStream
