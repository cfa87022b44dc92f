import Forum.Memory.Broker
import Forum.Memory.Comments
import Forum.Memory.Posts
import Forum.Replication.Resubscription
import Forum.Simulation.Agenda
import Forum.UnitOfWork

/-!
# The simulated forum

Both services side by side in memory: the store of posts, the database of comments with its replica, a broker between
them, and a clock that moves only when it is told to. Publishing and subscribing can be made to fail.
-/

namespace Forum.Simulation

open Memory Replication

/-- A member's end of a subscription. -/
structure Stream where
  member : Nat
  subject : String
  /-- What was handed out to the member and not taken yet. -/
  inbox : List HandOut
  /-- Faults of the connection that were not noticed yet. -/
  faults : List String
deriving DecidableEq, Repr

/-- What a subscriber does about one of its subjects. -/
inductive Phase where
  | receiving
  /-- Its stream has ended; the timer for the next attempt is set. -/
  | resubscribing (r : Resubscription Nat)
  | stopped
deriving DecidableEq, Repr

/-- The part of a subscriber that serves one subject. -/
structure Task where
  subject : String
  /-- Whose stream it holds. -/
  member : Nat
  phase : Phase
deriving DecidableEq, Repr

/-- A subscriber that was started. -/
structure Running where
  settings : SubscriberSettings
  tasks : List Task
deriving DecidableEq, Repr

/-- An attempt to subscribe. -/
structure Attempt where
  time : Nat
  subject : String
  durable : String
  succeeded : Bool
deriving DecidableEq, Repr

structure World where
  /-- Milliseconds since the beginning. -/
  now : Nat
  codec : Codec
  posts : Memory.Posts
  comments : Memory.Comments
  /-- The broker, unless it is gone. -/
  broker : Option Broker
  failPublishes : Bool
  /-- The subjects to which nobody can subscribe. -/
  refused : List String
  agenda : Agenda
  streams : List Stream
  subscribers : List Running
  /-- All attempts to subscribe, last first. -/
  attempts : List Attempt

namespace World

/-- Nothing has happened yet. -/
def start (codec : Codec) : World :=
  ⟨0, codec, .empty, .empty, some .empty, false, [], [], [], [], []⟩

/-! ## The broker -/

/-- Hands a message to its stream and sets the timer of the delivery. -/
def receive (w : World) (h : HandOut) : World :=
  { w with
    streams := w.streams.map fun s => if s.member = h.member then { s with inbox := s.inbox ++ [h] } else s
    agenda := w.agenda.schedule ⟨w.now + h.wait, .expiry h.durable h.seq h.delivery.count⟩ }

/-- The world after a request to the broker. -/
def afterBroker (w : World) (answer : Broker × List HandOut) : World :=
  answer.2.foldl receive { w with broker := some answer.1 }

/-- Publishes a message. -/
def publish : Sender World := fun subject headers payload w =>
  if w.failPublishes then (.error (.publish subject "broker unavailable"), w)
  else
    match w.broker with
    | none => (.error .closed, w)
    | some b => (.ok (), w.afterBroker (b.publish subject headers payload))

/-- Opens a stream on a subject, unless that is refused. -/
def subscribe (subject : String) (options : SubscriptionOptions) : BrokerAction World Nat := fun w =>
  let attempt succeeded (w : World) : World :=
    { w with attempts := ⟨w.now, subject, options.durable, succeeded⟩ :: w.attempts }
  if w.refused.contains subject then (.error (.subscribe subject "injected subscribe failure"), attempt false w)
  else
    match w.broker with
    | none => (.error .closed, attempt false w)
    | some b =>
      match b.subscribe subject options with
      | .error e => (.error e, attempt false w)
      | .ok (member, answer) =>
        let w := attempt true { w with streams := w.streams ++ [⟨member, subject, [], []⟩] }
        (.ok member, w.afterBroker answer)

/-- Settles a message that was handed out. -/
def settle (h : HandOut) (giveUp : Bool) : BrokerAction World Unit := fun w =>
  match w.broker with
  | none => (.error .closed, w)
  | some b =>
    match b.settle h.durable h.seq giveUp with
    | .error e => (.error e, w)
    | .ok b => (.ok (), { w with broker := some b })

/-- How a message that was handed out is settled. -/
def settlement (h : HandOut) : Settlement World := ⟨settle h false, settle h true⟩

/-- The time of a delivery is over. -/
def expire (w : World) (durable : String) (seq count : Nat) : World :=
  match w.broker with
  | none => w
  | some b => w.afterBroker (b.expire durable seq count)

/-- Parts the broker from all members. -/
def disconnect (w : World) : World := { w with broker := w.broker.map Broker.disconnectAll }

/-- Lets the broker go. -/
def dropBroker (w : World) : World := { w with broker := none }

/-! ## Faults on purpose -/

/-- Changes the store of posts. -/
def onPosts (f : Memory.Posts → Memory.Posts) (w : World) : World := { w with posts := f w.posts }

/-- Makes the writes of a post fail. -/
def failWrites (id : String) : World → World := onPosts fun p => { p with table := p.table.fail id }

/-- Lets transactions of the store of posts begin, or not. -/
def failBegin (on : Bool) : World → World := onPosts fun p => { p with failBegin := on }

/-- Lets transactions of the store of posts be committed, or not. -/
def failCommit (on : Bool) : World → World := onPosts fun p => { p with failCommit := on }

/-- Lets transactions of the store of posts be rolled back, or not. -/
def failRollback (on : Bool) : World → World := onPosts fun p => { p with failRollback := on }

/-- Limits how long transactions of the store of posts may take. -/
def limit (time : Option Nat) : World → World := onPosts fun p => { p with limit := time }

/-- Changes the replica. -/
def onReplica (f : Replica → Replica) (w : World) : World :=
  { w with comments := { w.comments with replica := f w.comments.replica } }

/-! ## Streams -/

/-- The stream of a member. -/
def stream? (w : World) (member : Nat) : Option Stream := w.streams.find? fun s => s.member = member

/-- Changes the stream of a member. -/
def changeStream (w : World) (member : Nat) (f : Stream → Stream) : World :=
  { w with streams := w.streams.map fun s => if s.member = member then f s else s }

/-- Lets a stream go. -/
def dropStream (w : World) (member : Nat) : World :=
  { w with
    streams := w.streams.filter fun s => s.member ≠ member
    broker := w.broker.map fun b => b.dropMember member }

/-- Nothing comes to the stream any more. -/
def isOver (w : World) (member : Nat) : Bool := !w.broker.any fun b => b.isMember member

/-- What a look into a stream finds. -/
inductive Found where
  | delivery (handOut : HandOut)
  | fault (error : BrokerError)
  | nothing
  | ended

/-- Takes what is next in a stream, if it is there already. A fault is noticed first. -/
def take (w : World) (s : Stream) : Found × World :=
  match s.faults, s.inbox with
  | fault :: faults, _ => (.fault (.connection fault), w.changeStream s.member fun s => { s with faults := faults })
  | [], h :: hs => (.delivery h, w.changeStream s.member fun s => { s with inbox := hs })
  | [], [] => (if w.isOver s.member then .ended else .nothing, w)

/-- A fault on all streams of a subject; tells how many there are. -/
def disturb (w : World) (subject fault : String) : Nat × World :=
  ((w.streams.filter fun s => s.subject = subject).length,
    { w with streams := w.streams.map fun s =>
        if s.subject = subject then { s with faults := s.faults ++ [fault] } else s })

/-! ## The services -/

/-- The store of posts within the world. -/
def postsPart : Part World Memory.Posts := ⟨posts, fun p w => { w with posts := p }⟩

/-- The database of comments within the world. -/
def commentsPart : Part World Memory.Comments := ⟨comments, fun c w => { w with comments := c }⟩

def postStore : PostStore World := postsPart.posts Posts.store

def postTransactions : Transactions World := postsPart.transactions now Posts.transactions

/-- The replica of the world. -/
def replicaStore : ReplicaStore World := commentsPart.replica (Comments.posts.replica Replica.store)

/-- All that calls are made to. -/
def backend (w : World) : Backend World where
  posts := postStore
  comments := commentsPart.comments Comments.store
  replica _ := replicaStore
  postTransactions := postTransactions
  commentTransactions := commentsPart.transactions now Comments.transactions
  publisher := ⟨w.codec, publish⟩

/-- What applies events to the replica. -/
def applier (w : World) : Applier World := ⟨replicaStore, w.codec⟩

/-- What handles the deliveries of a subscriber. -/
def subscriber (w : World) (settings : SubscriberSettings) : Subscriber World := ⟨settings, w.applier, publish⟩

end World

end Forum.Simulation
