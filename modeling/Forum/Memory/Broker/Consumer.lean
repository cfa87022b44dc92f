import Forum.Messaging

/-!
# Durable consumers

A durable consumer goes through the messages that a broker keeps and hands those on its subject to its members in turn.
A message that was handed out is pending until it is settled. It is handed out again when it is not settled in time, and
when its member is gone and another one joins; after as many times as the consumer allows it is given up.

A member is live as long as its stream is held. A member that is not is dropped from the consumer when its turn comes.
-/

namespace Forum.Memory

/-- A message as a broker keeps it, with its place among all messages, counted from one. -/
structure StoredMessage where
  seq : Nat
  subject : String
  headers : Headers
  payload : Payload
deriving DecidableEq, Repr

/-- The value of the first header of a name. -/
def StoredMessage.header (m : StoredMessage) (name : String) : Option String := m.headers.lookup name

/-- A message that was handed out and is not settled: how often, and to which member the last time. The count has no
bound. A counter of 32 bits would be full after 2^32 deliveries of one message, and what is said of counts is about fewer
than that. -/
structure Pending where
  seq : Nat
  count : Nat
  member : Nat
deriving DecidableEq, Repr

/-- A message on its way to a member. -/
structure HandOut where
  durable : String
  seq : Nat
  member : Nat
  delivery : Delivery
  /-- After how many milliseconds it is handed out again, unless it is settled. -/
  wait : Nat
deriving DecidableEq, Repr

structure Consumer where
  subject : String
  /-- What was asked for when the consumer was made. -/
  options : SubscriptionOptions
  /-- How many of the kept messages were considered. -/
  cursor : Nat
  /-- In the order of the messages. -/
  pending : List Pending
  members : List Nat
  /-- Counts the turns. -/
  turn : UInt64
  /-- The messages that members gave up. -/
  terminated : List Nat
  /-- The messages that were handed out as often as allowed. -/
  exhausted : List Nat
deriving DecidableEq, Repr

/-! ## Pending messages -/

namespace Pending

/-- The entry of a message. -/
def find? (ps : List Pending) (seq : Nat) : Option Pending := ps.find? fun p => p.seq = seq

/-- Entries without that of a message. -/
def erase (ps : List Pending) (seq : Nat) : List Pending := ps.filter fun p => p.seq ≠ seq

/-- Entries with one more in its place, instead of the one for the same message. -/
def insert (ps : List Pending) (p : Pending) : List Pending :=
  ps.filter (fun q => q.seq < p.seq) ++ p :: ps.filter fun q => p.seq < q.seq

end Pending

namespace Consumer

/-- A consumer before its first member joins a broker that keeps some messages. -/
def new (subject : String) (options : SubscriptionOptions) (kept : Nat) : Consumer :=
  ⟨subject, options, if options.deliverAll then 0 else kept, [], [], 0, [], []⟩

/-! ## Turns -/

/-- The live member whose turn it is, the members that are left, and the next turn. Members that are not live are left
out as their turns come. -/
def choose (live : Nat → Bool) (members : List Nat) (turn : UInt64) : Option Nat × List Nat × UInt64 :=
  if h : members = [] then (none, members, turn)
  else
    have : turn.toNat % members.length < members.length := Nat.mod_lt _ (List.length_pos_iff.2 h)
    let i := turn.toNat % members.length
    if live members[i] then (some members[i], members, turn + 1)
    else choose live (members.eraseIdx i) (turn + 1)
termination_by members.length
decreasing_by
  rw [List.length_eraseIdx_of_lt this]
  omega

/-- Hands a message to the member whose turn it is. -/
def offer (live : Nat → Bool) (c : Consumer) (m : StoredMessage) (count : Nat) : Option HandOut × Consumer :=
  match choose live c.members c.turn with
  | (none, members, turn) => (none, { c with members := members, turn := turn })
  | (some member, members, turn) =>
    (some ⟨c.options.durable, m.seq, member, ⟨m.subject, m.payload, count⟩, c.options.ackWait⟩,
      { c with members := members, turn := turn, pending := Pending.insert c.pending ⟨m.seq, count, member⟩ })

/-! ## First deliveries -/

/-- Goes through messages as long as there is a member to take them. -/
def consider (live : Nat → Bool) : List StoredMessage → Consumer → Consumer × List HandOut
  | [], c => (c, [])
  | m :: ms, c =>
    if m.subject = c.subject then
      match c.offer live m 1 with
      | (none, c) => (c, [])
      | (some h, c) =>
        let (c, hs) := consider live ms { c with cursor := c.cursor + 1 }
        (c, h :: hs)
    else consider live ms { c with cursor := c.cursor + 1 }

/-- Hands out what was not handed out yet. -/
def pump (live : Nat → Bool) (log : List StoredMessage) (c : Consumer) : Consumer × List HandOut :=
  consider live (log.drop c.cursor) c

/-! ## Redeliveries -/

/-- The message was handed out as often as allowed. -/
def isSpent (c : Consumer) (count : Nat) : Bool := c.options.maxDeliver.any fun max => max ≤ count

/-- Hands a message out once more, or gives it up. The next count is one more, however high it is (see `Pending`). -/
def redeliver (live : Nat → Bool) (log : List StoredMessage) (c : Consumer) (seq count : Nat) :
    Consumer × List HandOut :=
  if c.isSpent count then
    ({ c with pending := Pending.erase c.pending seq, exhausted := c.exhausted ++ [seq] }, [])
  else
    match log[seq - 1]? with
    | none => (c, [])
    | some m =>
      let (h, c) := c.offer live m (count + 1)
      (c, h.toList)

/-- The pending messages whose member is gone. -/
def orphans (live : Nat → Bool) (c : Consumer) : List Pending :=
  c.pending.filter fun p => !(c.members.contains p.member && live p.member)

/-- Hands out messages once more, one after the other. -/
def redeliverAll (live : Nat → Bool) (log : List StoredMessage) : List Pending → Consumer → Consumer × List HandOut
  | [], c => (c, [])
  | p :: ps, c =>
    let (c, hs) := c.redeliver live log p.seq p.count
    let (c, hs') := redeliverAll live log ps c
    (c, hs ++ hs')

/-- A member joins. It takes over what members that are gone left behind, and then what is new. -/
def join (live : Nat → Bool) (log : List StoredMessage) (c : Consumer) (member : Nat) : Consumer × List HandOut :=
  let c := { c with members := c.members.filter live ++ [member] }
  let (c, hs) := redeliverAll live log (c.orphans live) c
  let (c, hs') := c.pump live log
  (c, hs ++ hs')

/-- The time of a delivery is over. Only the last delivery of a message that is not settled is made again. -/
def expire (live : Nat → Bool) (log : List StoredMessage) (c : Consumer) (seq count : Nat) :
    Consumer × List HandOut :=
  if (Pending.find? c.pending seq).any fun p => p.count = count then c.redeliver live log seq count else (c, [])

/-! ## Settling -/

/-- A message is settled through one of its deliveries; a message that is not pending stays as it is. -/
def settle (c : Consumer) (seq : Nat) (giveUp : Bool) : Consumer :=
  if (Pending.find? c.pending seq).isSome then
    { c with
      pending := Pending.erase c.pending seq
      terminated := if giveUp then c.terminated ++ [seq] else c.terminated }
  else c

end Consumer

end Forum.Memory
