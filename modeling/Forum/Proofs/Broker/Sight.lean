import Mathlib.Logic.Relation
import Forum.Proofs.Broker.Consumer

/-!
# A durable consumer in the course of time

What there is to see of a durable consumer of a broker: the log, the members, the consumer itself, and a record of what
it has handed out (`Sight`). Whatever the broker is asked, the consumer sees one of eight things happen (`Sight.Step`).
So an invariant of durable consumers holds at any time (`Sight.Reachable`) when it holds as a consumer is made and each
of the eight keeps it. The first one, on which the others rest, is that the consumer is sound and hands out to its own
members only (`Sight.Grounded`).
-/

namespace Forum.Memory

/-! ## Members of a consumer -/

namespace Consumer

variable {live : Nat → Bool} {log : List StoredMessage} {c d : Consumer} {hs : List HandOut} {ours : List Nat}

/-- The members of the consumer, and those that hold its pending messages, are among some. -/
structure Among (ours : List Nat) (c : Consumer) : Prop where
  members : ∀ member ∈ c.members, member ∈ ours
  pending : ∀ p ∈ c.pending, p.member ∈ ours

theorem Among.hold (h : c.Among ours) {m : StoredMessage} {member count : Nat} (hmember : member ∈ ours) :
    (c.hold m member count).Among ours where
  members := h.members
  pending p hp := by
    rcases Pending.mem_insert.1 hp with rfl | ⟨hp, -⟩
    · exact hmember
    · exact h.pending p hp

theorem Change.among (h : Change live log c hs d) (hc : c.Among ours) : d.Among ours ∧ ∀ h ∈ hs, h.member ∈ ours := by
  cases h with
  | turn members turn hleaves =>
    exact ⟨⟨fun member hm => hc.members member (hleaves.sublist.subset hm), hc.pending⟩, fun _ h => nomatch h⟩
  | skip _ _ => exact ⟨⟨hc.members, hc.pending⟩, fun _ h => nomatch h⟩
  | @first m member _ _ hmember _ =>
    have hheld : (c.hold m member 1).Among ours := hc.hold (hc.members member hmember)
    exact ⟨⟨hheld.members, hheld.pending⟩, fun h hh => List.mem_singleton.1 hh ▸ hc.members member hmember⟩
  | @again p m member _ _ _ hmember _ =>
    exact ⟨hc.hold (hc.members member hmember), fun h hh => List.mem_singleton.1 hh ▸ hc.members member hmember⟩
  | exhaust _ _ =>
    exact ⟨⟨hc.members, fun p hp => hc.pending p (Pending.mem_erase.1 hp).1⟩, fun _ h => nomatch h⟩

theorem Among.settle (h : c.Among ours) (seq : Nat) (giveUp : Bool) : (c.settle seq giveUp).Among ours := by
  unfold Consumer.settle
  split
  · exact ⟨h.members, fun p hp => h.pending p (Pending.mem_erase.1 hp).1⟩
  · exact h

theorem Among.enter (h : c.Among ours) (live : Nat → Bool) (member : Nat) :
    (c.enter live member).Among (ours ++ [member]) where
  members i hi := by
    rcases List.mem_append.1 hi with hi | hi
    · exact List.mem_append_left _ (h.members i (List.mem_filter.1 hi).1)
    · exact List.mem_append_right _ hi
  pending p hp := List.mem_append_left _ (h.pending p hp)

@[simp] theorem settle_subject (c : Consumer) (seq : Nat) (giveUp : Bool) :
    (c.settle seq giveUp).subject = c.subject := by
  unfold Consumer.settle
  split <;> rfl

@[simp] theorem settle_options (c : Consumer) (seq : Nat) (giveUp : Bool) :
    (c.settle seq giveUp).options = c.options := by
  unfold Consumer.settle
  split <;> rfl

end Consumer

/-! ## What a consumer sees -/

/-- How a durable consumer was made. -/
structure Creation where
  subject : String
  options : SubscriptionOptions
  /-- How many messages the broker kept. -/
  kept : Nat
deriving DecidableEq, Repr

/-- How many messages came too early for the consumer. -/
def Creation.start (k : Creation) : Nat := if k.options.deliverAll then 0 else k.kept

/-- What there is to see of a durable consumer. -/
structure Sight where
  log : List StoredMessage
  live : List Nat
  joined : Nat
  consumer : Consumer
  /-- What was handed out, oldest first. -/
  handed : List HandOut
  /-- The deliveries whose time is not over. -/
  timers : List HandOut
  /-- The deliveries through which a pending message was acknowledged. -/
  acked : List HandOut
  /-- The members that have joined the consumer. -/
  ours : List Nat

namespace Sight

def isLive (v : Sight) (member : Nat) : Bool := v.live.contains member

/-- The consumer comes further, and has handed something out. -/
def receive (v : Sight) (result : Consumer × List HandOut) : Sight :=
  { v with consumer := result.1, handed := v.handed ++ result.2, timers := v.timers ++ result.2 }

/-- A message is kept. -/
def keep (v : Sight) (m : StoredMessage) : Sight := { v with log := v.log ++ [m] }

/-- A member joins some consumer. -/
def welcome (v : Sight) : Sight := { v with joined := v.joined + 1, live := v.live ++ [v.joined + 1] }

/-- A member joins the consumer, and nothing has been handed to it yet. -/
def enroll (v : Sight) : Sight :=
  { v.welcome with
    consumer := v.consumer.enter v.welcome.isLive (v.joined + 1)
    ours := v.ours ++ [v.joined + 1] }

/-- A member joins the consumer. -/
def join (v : Sight) : Sight := v.enroll.receive (v.consumer.join v.enroll.isLive v.log (v.joined + 1))

/-- The broker parts from the members of the consumer. -/
def disconnect (v : Sight) : Sight := { v with consumer := { v.consumer with members := [] } }

/-- The stream of a member is not held any more. -/
def dropMember (v : Sight) (member : Nat) : Sight := { v with live := v.live.filter (· ≠ member) }

/-- A delivery is settled. -/
def settle (v : Sight) (h : HandOut) (giveUp : Bool) : Sight :=
  { v with
    consumer := v.consumer.settle h.seq giveUp
    acked := if !giveUp && (Pending.find? v.consumer.pending h.seq).isSome then v.acked ++ [h] else v.acked }

/-- The time of a delivery is over, and nothing has come of it yet. -/
def ring (v : Sight) (h : HandOut) : Sight := { v with timers := v.timers.erase h }

/-- The time of a delivery is over. -/
def expire (v : Sight) (h : HandOut) : Sight :=
  (v.ring h).receive (v.consumer.expire v.isLive v.log h.seq h.delivery.count)

/-- What a durable consumer can see happen. -/
inductive Step (v : Sight) : Sight → Prop
  /-- A message is published on another subject. -/
  | logged (m : StoredMessage) (hseq : m.seq = v.log.length + 1) (hs : m.subject ≠ v.consumer.subject) :
    Step v (v.keep m)
  | published (m : StoredMessage) (hseq : m.seq = v.log.length + 1) (hs : m.subject = v.consumer.subject) :
    Step v ((v.keep m).receive (v.consumer.pump v.isLive (v.keep m).log))
  /-- A member joins another consumer. -/
  | welcomed : Step v v.welcome
  | joined : Step v v.join
  | disconnected : Step v v.disconnect
  | dropped (member : Nat) : Step v (v.dropMember member)
  | settled (h : HandOut) (hh : h ∈ v.handed) (giveUp : Bool) : Step v (v.settle h giveUp)
  | expired (h : HandOut) (hh : h ∈ v.timers) : Step v (v.expire h)

theorem Step.of_eq {v w w' : Sight} (h : Step v w) (heq : w' = w) : Step v w' := heq ▸ h

/-- What there is to see at some time after a consumer was made. -/
inductive Reachable (k : Creation) : Sight → Prop
  | made {log : List StoredMessage} {live : List Nat} {joined : Nat} (hlog : Numbered log) (hkept : k.kept = log.length)
      (hlive : ∀ member ∈ live, member ≤ joined) :
    Reachable k ⟨log, live, joined, .new k.subject k.options k.kept, [], [], [], []⟩
  | step {v w : Sight} (h : Reachable k v) (hstep : Step v w) : Reachable k w

theorem Reachable.orStep {k : Creation} {v w : Sight} (h : Reachable k v) (hstep : Relation.ReflGen Step v w) :
    Reachable k w := by
  cases hstep with
  | refl => exact h
  | single hstep => exact .step h hstep

/-! ## Where everything starts from -/

/-- The consumer is sound, is as it was asked for, and has handed out what is in the log to its own members. Members are
numbered. -/
structure Grounded (k : Creation) (v : Sight) : Prop where
  numbered : Numbered v.log
  sound : v.consumer.Sound v.log
  subject : v.consumer.subject = k.subject
  options : v.consumer.options = k.options
  among : v.consumer.Among v.ours
  takers : ∀ h ∈ v.handed, h.member ∈ v.ours
  genuine : ∀ h ∈ v.handed, Consumer.Genuine v.log h
  ours_le : ∀ member ∈ v.ours, member ≤ v.joined
  live_le : ∀ member ∈ v.live, member ≤ v.joined

variable {k : Creation} {v w : Sight}

theorem mem_joined {members : List Nat} {joined : Nat} (h : ∀ member ∈ members, member ≤ joined) :
    ∀ member ∈ members ++ [joined + 1], member ≤ joined + 1 := by
  intro member hm
  rcases List.mem_append.1 hm with hm | hm
  · exact Nat.le_succ_of_le (h member hm)
  · exact Nat.le_of_eq (List.mem_singleton.1 hm)

/-- A new consumer. -/
theorem grounded_made {log : List StoredMessage} {live : List Nat} {joined : Nat} (hlog : Numbered log)
    (hkept : k.kept = log.length) (hlive : ∀ member ∈ live, member ≤ joined) :
    Grounded k ⟨log, live, joined, .new k.subject k.options k.kept, [], [], [], []⟩ where
  numbered := hlog
  sound := by
    refine ⟨?_, .nil, fun _ h => nomatch h⟩
    show (if k.options.deliverAll then 0 else k.kept) ≤ log.length
    split
    · exact Nat.zero_le _
    · exact Nat.le_of_eq hkept
  subject := rfl
  options := rfl
  among := ⟨(fun _ h => nomatch h), (fun _ h => nomatch h)⟩
  takers := fun _ h => nomatch h
  genuine := fun _ h => nomatch h
  ours_le := fun _ h => nomatch h
  live_le := hlive

/-- Elementary changes of the consumer do no harm. -/
theorem Grounded.receive {live : Nat → Bool} {d : Consumer} {hs : List HandOut} (h : Grounded k v)
    (hc : Consumer.Changes live v.log v.consumer hs d) : Grounded k (v.receive (d, hs)) := by
  obtain ⟨⟨hsound, hsubject, hoptions⟩, hgenuine⟩ := hc.sound h.numbered h.sound
  obtain ⟨hamong, htakers⟩ := hc.keeps (fun hc hchange => hchange.among hc) h.among
  refine ⟨h.numbered, hsound, hsubject.trans h.subject, hoptions.trans h.options, hamong, fun g hg => ?_,
    fun g hg => ?_, h.ours_le, h.live_le⟩
  · rcases List.mem_append.1 hg with hg | hg
    · exact h.takers g hg
    · exact htakers g hg
  · rcases List.mem_append.1 hg with hg | hg
    · exact h.genuine g hg
    · exact (hgenuine g hg).1

theorem Grounded.keep (h : Grounded k v) {m : StoredMessage} (hseq : m.seq = v.log.length + 1) :
    Grounded k (v.keep m) :=
  ⟨h.numbered.append hseq, h.sound.append _, h.subject, h.options, h.among, h.takers,
    fun g hg => (h.genuine g hg).append _, h.ours_le, h.live_le⟩

theorem Grounded.welcome (h : Grounded k v) : Grounded k v.welcome :=
  ⟨h.numbered, h.sound, h.subject, h.options, h.among, h.takers, h.genuine,
    fun member hm => Nat.le_succ_of_le (h.ours_le member hm), mem_joined h.live_le⟩

theorem Grounded.enroll (h : Grounded k v) : Grounded k v.enroll where
  numbered := h.numbered
  sound := h.sound.enter _ _
  subject := h.subject
  options := h.options
  among := h.among.enter _ _
  takers g hg := List.mem_append_left _ (h.takers g hg)
  genuine := h.genuine
  ours_le := mem_joined h.ours_le
  live_le := mem_joined h.live_le

/-- What a member that joins sets off is a sequence of elementary changes. -/
theorem Grounded.join_changes (h : Grounded k v) :
    Consumer.Changes v.enroll.isLive v.enroll.log v.enroll.consumer
      (v.consumer.join v.enroll.isLive v.log (v.joined + 1)).2
      (v.consumer.join v.enroll.isLive v.log (v.joined + 1)).1 :=
  Consumer.join_changes v.enroll.isLive h.numbered h.sound (v.joined + 1)

theorem Grounded.ring (h : Grounded k v) (g : HandOut) : Grounded k (v.ring g) :=
  ⟨h.numbered, h.sound, h.subject, h.options, h.among, h.takers, h.genuine, h.ours_le, h.live_le⟩

theorem Grounded.step (h : Grounded k v) (hstep : Step v w) : Grounded k w := by
  cases hstep with
  | logged m hseq _ => exact h.keep hseq
  | published m hseq _ => exact (h.keep hseq).receive (Consumer.pump_changes _ _ _)
  | welcomed => exact h.welcome
  | joined => exact h.enroll.receive h.join_changes
  | disconnected =>
    exact ⟨h.numbered, ⟨h.sound.cursor_le, h.sound.ordered, h.sound.logged⟩, h.subject, h.options,
      ⟨(fun _ h => nomatch h), h.among.pending⟩, h.takers, h.genuine, h.ours_le, h.live_le⟩
  | dropped member =>
    exact ⟨h.numbered, h.sound, h.subject, h.options, h.among, h.takers, h.genuine, h.ours_le,
      fun i hi => h.live_le i (List.mem_filter.1 hi).1⟩
  | settled g _ giveUp =>
    exact ⟨h.numbered, h.sound.settle _ _, (Consumer.settle_subject _ _ _).trans h.subject,
      (Consumer.settle_options _ _ _).trans h.options, h.among.settle _ _, h.takers, h.genuine, h.ours_le, h.live_le⟩
  | expired g _ => exact (h.ring g).receive (Consumer.expire_changes _ _ _ _ _)

theorem Reachable.grounded (h : Reachable k v) : Grounded k v := by
  induction h with
  | made hlog hkept hlive => exact grounded_made hlog hkept hlive
  | step _ hstep ih => exact ih.step hstep

end Sight

end Forum.Memory
