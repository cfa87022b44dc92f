import Forum.Proofs.Broker.Coverage
import Forum.Proofs.Broker.Sight

/-!
# A broker in the course of time

A broker is asked one thing after the other, and a record is kept beside it: what it handed out, which timers run, which
deliveries were acknowledged, how its durable consumers were made, and who has joined them (`Course`). A delivery can be
settled at any time after it was handed out, and as often as its member likes; its timer goes off once.

`Course.view` is what a durable consumer sees of all that. Each request is at most one step of what it sees
(`Charted.outcome`), so an invariant of sights holds of every durable in every run (`reachable_run`).
-/

namespace Forum.Memory

/-- A broker with a record of what has happened. -/
structure Course where
  broker : Broker
  /-- What was handed out, oldest first. -/
  handed : List HandOut
  /-- The deliveries whose time is not over. -/
  timers : List HandOut
  /-- The deliveries through which a pending message was acknowledged. -/
  acked : List HandOut
  /-- How the durable consumers were made. -/
  created : Rows Creation
  /-- Which member has joined which durable consumer. -/
  joins : List (Nat × String)

/-- What a durable consumer has handed out. -/
def handedBy (durable : String) (hs : List HandOut) : List HandOut := hs.filter fun h => h.durable = durable

/-- The members that have joined a durable consumer. -/
def joinedBy (durable : String) (joins : List (Nat × String)) : List Nat :=
  (joins.filter fun j => j.2 = durable).map (·.1)

namespace Course

/-- What happens to a broker. -/
inductive Request where
  | publish (subject : String) (headers : Headers) (payload : Payload)
  | subscribe (subject : String) (options : SubscriptionOptions)
  /-- The broker parts from all members. -/
  | disconnect
  /-- The stream of a member is let go. -/
  | drop (member : Nat)
  /-- A delivery is acknowledged, or its message is given up. -/
  | settle (h : HandOut) (giveUp : Bool)
  /-- The timer of a delivery goes off. -/
  | expire (h : HandOut)

/-- Nothing has happened yet. -/
def start : Course := ⟨.empty, [], [], [], .empty, []⟩

/-- The broker has handed something out. -/
def receive (x : Course) (result : Broker × List HandOut) : Course :=
  { x with broker := result.1, handed := x.handed ++ result.2, timers := x.timers ++ result.2 }

/-- The message of a delivery is not settled yet. -/
def isPending (b : Broker) (h : HandOut) : Bool :=
  (b.consumers.get? h.durable).any fun c => (Pending.find? c.pending h.seq).isSome

/-- What comes of a request. Only what was handed out can be settled, and only a timer that runs can go off. -/
def step (x : Course) : Request → Course
  | .publish subject headers payload => x.receive (x.broker.publish subject headers payload)
  | .subscribe subject options =>
    match x.broker.subscribe subject options with
    | .error _ => x
    | .ok (member, b, hs) =>
      { x.receive (b, hs) with
        created :=
          if x.broker.consumers.contains options.durable then x.created
          else x.created.insert options.durable ⟨subject, options, x.broker.log.length⟩
        joins := x.joins ++ [(member, options.durable)] }
  | .disconnect => { x with broker := x.broker.disconnectAll }
  | .drop member => { x with broker := x.broker.dropMember member }
  | .settle h giveUp =>
    if h ∈ x.handed then
      match x.broker.settle h.durable h.seq giveUp with
      | .error _ => x
      | .ok b => { x with broker := b, acked := if !giveUp && isPending x.broker h then x.acked ++ [h] else x.acked }
    else x
  | .expire h =>
    if h ∈ x.timers then
      { x with timers := x.timers.erase h }.receive (x.broker.expire h.durable h.seq h.delivery.count)
    else x

/-- Requests one after the other. -/
def after (x : Course) (rs : List Request) : Course := rs.foldl step x

/-- A run of a new broker. -/
def run (rs : List Request) : Course := start.after rs

/-- What a durable consumer sees. -/
def view (x : Course) (durable : String) (c : Consumer) : Sight :=
  ⟨x.broker.log, x.broker.live, x.broker.joined, c, handedBy durable x.handed, handedBy durable x.timers,
    handedBy durable x.acked, joinedBy durable x.joins⟩

end Course

/-! ## One durable among others -/

section

variable {durable : String} {hs hs' : List HandOut}

theorem handedBy_append : handedBy durable (hs ++ hs') = handedBy durable hs ++ handedBy durable hs' :=
  List.filter_append _ _

theorem handedBy_own (h : ∀ h ∈ hs, h.durable = durable) : handedBy durable hs = hs :=
  List.filter_eq_self.2 fun g hg => decide_eq_true (h g hg)

/-- What one durable handed out is none of another one's. -/
theorem handedBy_other {name : String} (h : ∀ h ∈ hs, h.durable = name) (hne : durable ≠ name) :
    handedBy durable hs = [] :=
  List.filter_eq_nil_iff.2 fun g hg heq => hne ((of_decide_eq_true heq).symm.trans (h g hg))

theorem mem_handedBy {h : HandOut} : h ∈ handedBy durable hs ↔ h ∈ hs ∧ h.durable = durable := by
  simp [handedBy]

/-- A member has joined a durable where that is on record. -/
theorem mem_joinedBy {joins : List (Nat × String)} {member : Nat} :
    member ∈ joinedBy durable joins ↔ (member, durable) ∈ joins := by
  simp [joinedBy]

theorem joinedBy_own (joins : List (Nat × String)) (member : Nat) :
    joinedBy durable (joins ++ [(member, durable)]) = joinedBy durable joins ++ [member] := by simp [joinedBy]

theorem joinedBy_other {name : String} (joins : List (Nat × String)) (member : Nat) (h : durable ≠ name) :
    joinedBy durable (joins ++ [(member, name)]) = joinedBy durable joins := by simp [joinedBy, Ne.symm h]

/-- A timer that is taken away is taken away for its durable. -/
theorem handedBy_erase (hs : List HandOut) (durable : String) (h : HandOut) :
    handedBy durable (hs.erase h) = (handedBy durable hs).erase h := List.erase_filter.symm

/-- A timer of one durable is taken away from no other one. -/
theorem handedBy_erase_other (hs : List HandOut) {h : HandOut} (hne : durable ≠ h.durable) :
    handedBy durable (hs.erase h) = handedBy durable hs :=
  (handedBy_erase _ _ _).trans (List.erase_of_not_mem fun hmem => hne (mem_handedBy.1 hmem).2.symm)

/-- An acknowledgement that is noted is noted for its durable. -/
theorem handedBy_note_own (hs : List HandOut) (h : HandOut) (note : Bool) :
    handedBy h.durable (if note then hs ++ [h] else hs) =
      if note then handedBy h.durable hs ++ [h] else handedBy h.durable hs := by
  cases note <;> simp [handedBy]

/-- An acknowledgement for one durable is noted for no other one. -/
theorem handedBy_note_other (hs : List HandOut) {h : HandOut} (hne : durable ≠ h.durable) (note : Bool) :
    handedBy durable (if note then hs ++ [h] else hs) = handedBy durable hs := by
  cases note <;> simp [handedBy, Ne.symm hne]

end

namespace Broker

open Consumer

variable {b : Broker} {c : Consumer} {durable : String} {P : Consumer → Prop}

/-- A consumer that is put into a broker is there under its name, and the others stay. -/
theorem get?_put (b : Broker) (c : Consumer) (durable : String) :
    (b.put c).consumers.get? durable = if durable = c.options.durable then some c else b.consumers.get? durable :=
  Rows.get?_insert _ _ _ _

theorem mem_values (h : b.consumers.get? durable = some c) : c ∈ b.consumers.values :=
  List.mem_map.2 ⟨(durable, c), Rows.mem_of_lookup h, rfl⟩

/-- No two consumers have one name. -/
theorem Every.pairwise (h : b.Every P) :
    b.consumers.values.Pairwise fun c e => c.options.durable ≠ e.options.durable := by
  refine List.pairwise_map.2 (b.consumers.ascending.imp_of_mem fun {e f} he hf hlt heq => ?_)
  have hname : ∀ g ∈ b.consumers.entries, g.2.options.durable = g.1 := fun g hg =>
    (h g.1 g.2 (Rows.lookup_of_mem b.consumers.ascending hg)).1
  rw [hname e he, hname f hf] at heq
  exact absurd (heq ▸ hlt) (String.lt_irrefl _)

/-- A durable is among the consumers that are picked, or none of them has its name. -/
theorem Every.picked (h : b.Every P) (p : Consumer → Bool) (durable : String) :
    (∃ c ∈ b.consumers.values.filter p, b.consumers.get? durable = some c ∧ c.options.durable = durable ∧ p c = true) ∨
      ((∀ c ∈ b.consumers.values.filter p, durable ≠ c.options.durable) ∧
        ∀ c, b.consumers.get? durable = some c → p c = false) := by
  by_cases hp : ∃ c, b.consumers.get? durable = some c ∧ p c = true
  · obtain ⟨c, hget, hpc⟩ := hp
    exact .inl ⟨c, List.mem_filter.2 ⟨mem_values hget, hpc⟩, hget, (h durable c hget).1, hpc⟩
  · refine .inr ⟨fun c hc heq => hp ?_, fun c hget => Bool.eq_false_iff.2 fun hpc => hp ⟨c, hget, hpc⟩⟩
    obtain ⟨hmem, hpc⟩ := List.mem_filter.1 hc
    obtain ⟨name, hname⟩ := Rows.exists_of_mem_values hmem
    rw [← (h name c hname).1, ← heq] at hname
    exact ⟨c, hname, hpc⟩

/-- Consumers come further, one after the other. -/
def putAll (f : Consumer → Consumer) (cs : List Consumer) (b : Broker) : Broker := cs.foldl (fun b c => b.put (f c)) b

section

variable {f : Consumer → Consumer} {g : Consumer → List HandOut} {cs : List Consumer}

/-- Nothing but the consumers changes where some of them come further. -/
theorem putAll_eq (f : Consumer → Consumer) (cs : List Consumer) (b : Broker) :
    putAll f cs b = { b with consumers := (putAll f cs b).consumers } := by
  induction cs generalizing b with
  | nil => rfl
  | cons c cs ih => exact ih (b.put (f c))

/-- A durable stays where none of those that come further has its name. -/
theorem get?_putAll_other (hf : ∀ c, (f c).options = c.options) (h : ∀ c ∈ cs, durable ≠ c.options.durable) :
    (putAll f cs b).consumers.get? durable = b.consumers.get? durable := by
  induction cs generalizing b with
  | nil => rfl
  | cons c cs ih =>
    refine (ih fun e he => h e (List.mem_cons_of_mem _ he)).trans ((get?_put _ _ _).trans (if_neg ?_))
    rw [hf]
    exact h c List.mem_cons_self

/-- One of several consumers with different names comes further on its own. -/
theorem get?_putAll_own (hf : ∀ c, (f c).options = c.options)
    (hcs : cs.Pairwise fun c e => c.options.durable ≠ e.options.durable) (hc : c ∈ cs) :
    (putAll f cs b).consumers.get? c.options.durable = some (f c) := by
  induction cs generalizing b with
  | nil => nomatch hc
  | cons e cs ih =>
    obtain ⟨hne, hcs⟩ := List.pairwise_cons.1 hcs
    rcases List.mem_cons.1 hc with rfl | hc
    · refine (get?_putAll_other hf hne).trans ((get?_put _ _ _).trans (if_pos ?_))
      rw [hf]
    · exact ih hcs hc

/-- A durable has handed nothing out where none of those that did has its name. -/
theorem handedBy_flatMap_other (hg : ∀ c, ∀ h ∈ g c, h.durable = c.options.durable)
    (h : ∀ c ∈ cs, durable ≠ c.options.durable) : handedBy durable (cs.flatMap g) = [] := by
  induction cs with
  | nil => rfl
  | cons c cs ih =>
    rw [List.flatMap_cons, handedBy_append, handedBy_other (hg c) (h c List.mem_cons_self),
      ih fun e he => h e (List.mem_cons_of_mem _ he)]
    rfl

/-- Of what several consumers handed out, each has its own. -/
theorem handedBy_flatMap_own (hg : ∀ c, ∀ h ∈ g c, h.durable = c.options.durable)
    (hcs : cs.Pairwise fun c e => c.options.durable ≠ e.options.durable) (hc : c ∈ cs) :
    handedBy c.options.durable (cs.flatMap g) = g c := by
  induction cs with
  | nil => nomatch hc
  | cons e cs ih =>
    obtain ⟨hne, hcs⟩ := List.pairwise_cons.1 hcs
    rw [List.flatMap_cons, handedBy_append]
    rcases List.mem_cons.1 hc with rfl | hc
    · rw [handedBy_own (hg c), handedBy_flatMap_other hg hne, List.append_nil]
    · rw [handedBy_other (hg e) (hne c hc).symm, ih hcs hc]
      rfl

/-- Some of the consumers come further, each on its own. -/
theorem get?_putAll (h : b.Every P) (hf : ∀ c, (f c).options = c.options) (p : Consumer → Bool) (durable : String) :
    (putAll f (b.consumers.values.filter p) b).consumers.get? durable =
      (b.consumers.get? durable).map fun c => if p c then f c else c := by
  rcases h.picked p durable with ⟨c, hmem, hget, rfl, hp⟩ | ⟨hother, hp⟩
  · rw [get?_putAll_own hf (h.pairwise.filter p) hmem, hget, Option.map_some, if_pos hp]
  · rw [get?_putAll_other hf hother]
    cases hget : b.consumers.get? durable with
    | none => rfl
    | some c => rw [Option.map_some, hp c hget, if_neg Bool.false_ne_true]

/-- Some of the consumers hand out, each on its own. -/
theorem handedBy_flatMap (h : b.Every P) (hg : ∀ c, ∀ h ∈ g c, h.durable = c.options.durable) (p : Consumer → Bool)
    (durable : String) :
    handedBy durable ((b.consumers.values.filter p).flatMap g) =
      (b.consumers.get? durable).elim [] fun c => if p c then g c else [] := by
  rcases h.picked p durable with ⟨c, hmem, hget, rfl, hp⟩ | ⟨hother, hp⟩
  · rw [handedBy_flatMap_own hg (h.pairwise.filter p) hmem, hget, Option.elim_some, if_pos hp]
  · rw [handedBy_flatMap_other hg hother]
    cases hget : b.consumers.get? durable with
    | none => rfl
    | some c => rw [Option.elim_some, hp c hget, if_neg Bool.false_ne_true]

end

/-- Pumps do not meet. -/
theorem pumpAll_eq (cs : List Consumer) (b : Broker) :
    pumpAll cs b =
      (putAll (fun c => (c.pump b.isLive b.log).1) cs b, cs.flatMap fun c => (c.pump b.isLive b.log).2) := by
  induction cs generalizing b with
  | nil => rfl
  | cons c cs ih =>
    simp only [pumpAll, ih (b.put (c.pump b.isLive b.log).1)]
    rfl

/-- A message is kept, and all consumers on its subject are pumped. -/
theorem publish_eq (b : Broker) (subject : String) (headers : Headers) (payload : Payload) :
    b.publish subject headers payload =
      (putAll (fun c => (c.pump b.isLive (b.append subject headers payload).log).1)
        (b.consumers.values.filter fun c => c.subject = subject) (b.append subject headers payload),
      (b.consumers.values.filter fun c => c.subject = subject).flatMap
        fun c => (c.pump b.isLive (b.append subject headers payload).log).2) := pumpAll_eq _ _

/-- A durable is pumped where the message is on its subject, and else it stays. -/
theorem get?_publish (h : b.Every P) (subject : String) (headers : Headers) (payload : Payload) (durable : String) :
    (b.publish subject headers payload).1.consumers.get? durable = (b.consumers.get? durable).map fun c =>
      if c.subject = subject then (c.pump b.isLive (b.append subject headers payload).log).1 else c := by
  have happend : (b.append subject headers payload).Every P := h
  rw [publish_eq]
  refine (get?_putAll happend (fun c => (pump_changes _ _ c).options.1) _ durable).trans ?_
  simp only [decide_eq_true_eq]
  rfl

/-- A durable hands out where the message is on its subject, and else it hands out nothing. -/
theorem handedBy_publish (h : b.Every P) (subject : String) (headers : Headers) (payload : Payload)
    (durable : String) :
    handedBy durable (b.publish subject headers payload).2 = (b.consumers.get? durable).elim [] fun c =>
      if c.subject = subject then (c.pump b.isLive (b.append subject headers payload).log).2 else [] := by
  rw [publish_eq]
  refine (handedBy_flatMap h (fun c => (pump_changes _ _ c).options.2) _ durable).trans ?_
  simp only [decide_eq_true_eq]

/-- Apart from its consumers, the broker has one more message. -/
theorem publish_same (b : Broker) (subject : String) (headers : Headers) (payload : Payload) :
    (b.publish subject headers payload).1 =
      { b.append subject headers payload with consumers := (b.publish subject headers payload).1.consumers } := by
  rw [publish_eq]
  exact putAll_eq _ _ _

/-- The broker parts from all members of all consumers. -/
theorem disconnectAll_eq (b : Broker) :
    b.disconnectAll = putAll (fun c => { c with members := [] }) (b.consumers.values.filter fun _ => true) b := by
  rw [List.filter_eq_self.2 fun _ _ => rfl]
  rfl

theorem disconnectAll_same (b : Broker) :
    b.disconnectAll = { b with consumers := b.disconnectAll.consumers } := by
  rw [disconnectAll_eq]
  exact putAll_eq _ _ _

/-- A durable without its members. -/
theorem get?_disconnectAll (h : b.Every P) (durable : String) :
    b.disconnectAll.consumers.get? durable = (b.consumers.get? durable).map fun c => { c with members := [] } := by
  rw [disconnectAll_eq]
  exact get?_putAll (f := fun c => { c with members := [] }) h (fun _ => rfl) _ durable

/-- The consumer that a member joins is on the subject, and nothing else changes. -/
theorem subscribe_eq_ok {b' : Broker} {subject : String} {options : SubscriptionOptions} {member : Nat}
    {hs : List HandOut} (h : b.subscribe subject options = .ok (member, b', hs)) :
    ∃ c, (b.consumers.get? options.durable).getD (.new subject options b.log.length) = c ∧ c.subject = subject ∧
      member = b.joined + 1 ∧ b' = b.welcome.put (c.join b.welcome.isLive b.log (b.joined + 1)).1 ∧
      hs = (c.join b.welcome.isLive b.log (b.joined + 1)).2 := by
  unfold Broker.subscribe at h
  simp only at h
  split at h
  · rename_i hsubject
    simp only [Except.ok.injEq, Prod.ext_iff] at h
    obtain ⟨hmember, hb, hhs⟩ := h
    exact ⟨_, rfl, hsubject, hmember.symm, hb.symm, hhs.symm⟩
  · nomatch h

end Broker

namespace Course

/-! ## Requests as steps of what a durable sees -/

/-- What is recorded of a durable. -/
def past (x : Course) (durable : String) : List HandOut × List HandOut × List HandOut × List Nat :=
  (handedBy durable x.handed, handedBy durable x.timers, handedBy durable x.acked, joinedBy durable x.joins)

/-- What a durable consumer sees as it is made. -/
def birth (x : Course) (k : Creation) : Sight :=
  ⟨x.broker.log, x.broker.live, x.broker.joined, .new k.subject k.options k.kept, [], [], [], []⟩

/-- Every durable consumer has been seen from the beginning, and a durable that is not there has handed nothing out. -/
structure Charted (x : Course) : Prop where
  numbered : Numbered x.broker.log
  live_le : ∀ member ∈ x.broker.live, member ≤ x.broker.joined
  joins : x.joins.map (·.1) = List.range' 1 x.broker.joined
  absent : ∀ durable, x.broker.consumers.get? durable = none → x.past durable = ([], [], [], [])
  seen : x.broker.Every fun c => ∃ k, x.created.get? c.options.durable = some k ∧
    Sight.Reachable k (x.view c.options.durable c)

/-- What a request is for a durable. -/
inductive Outcome (x y : Course) (durable : String) : Prop
  /-- It is not there and does not get there. -/
  | absent (hx : x.broker.consumers.get? durable = none) (hy : y.broker.consumers.get? durable = none)
    (hpast : y.past durable = x.past durable)
  /-- It is made, and a member joins it. -/
  | made (k : Creation) (c : Consumer) (hx : x.broker.consumers.get? durable = none)
    (hy : y.broker.consumers.get? durable = some c) (hname : c.options.durable = durable)
    (hcreated : y.created.get? durable = some k) (hkept : k.kept = x.broker.log.length)
    (hstep : Sight.Step (x.birth k) (y.view durable c))
  /-- It sees a step, or nothing. -/
  | seen (c c' : Consumer) (hx : x.broker.consumers.get? durable = some c)
    (hy : y.broker.consumers.get? durable = some c') (hname : c'.options.durable = durable)
    (hcreated : y.created.get? durable = x.created.get? durable)
    (hstep : Relation.ReflGen Sight.Step (x.view durable c) (y.view durable c'))

variable {x : Course} {c : Consumer} {durable : String}

/-- A new broker has no durable to be seen. -/
theorem charted_start : start.Charted where
  numbered := fun _ _ h => nomatch h
  live_le := fun _ h => nomatch h
  joins := rfl
  absent := fun _ _ => rfl
  seen := fun _ _ h => nomatch h

/-- A durable that is there was made at some time, and what it sees is sound. -/
theorem Charted.grounded (h : x.Charted) (hc : x.broker.consumers.get? durable = some c) :
    c.options.durable = durable ∧ ∃ k, x.created.get? durable = some k ∧ Sight.Grounded k (x.view durable c) := by
  obtain ⟨rfl, k, hk, hreach⟩ := h.seen durable c hc
  exact ⟨rfl, k, hk, hreach.grounded⟩

/-- What is handed out is on record for the durables that did it, with a timer for each delivery. -/
theorem past_receive (x : Course) (result : Broker × List HandOut) (durable : String) :
    (x.receive result).past durable =
      (handedBy durable x.handed ++ handedBy durable result.2, handedBy durable x.timers ++ handedBy durable result.2,
        handedBy durable x.acked, joinedBy durable x.joins) := by
  simp only [past, receive, handedBy_append]

/-- A durable sees what the broker came to, and what it has handed out itself. -/
theorem view_receive (x : Course) (result : Broker × List HandOut) (durable : String) (c : Consumer) :
    (x.receive result).view durable c =
      ⟨result.1.log, result.1.live, result.1.joined, c, handedBy durable x.handed ++ handedBy durable result.2,
        handedBy durable x.timers ++ handedBy durable result.2, handedBy durable x.acked,
        joinedBy durable x.joins⟩ := by
  simp only [view, receive, handedBy_append]

/-- A durable sees what the broker does, where nothing is recorded of it. -/
theorem view_of_past {y : Course} (hpast : y.past durable = x.past durable) (c : Consumer) :
    y.view durable c =
      { x.view durable c with log := y.broker.log, live := y.broker.live, joined := y.broker.joined } := by
  simp only [past, Prod.mk.injEq] at hpast
  obtain ⟨hhanded, htimers, hacked, hjoined⟩ := hpast
  simp only [view, hhanded, htimers, hacked, hjoined]

/-- Consumers are pumped that are on the subject. -/
theorem outcome_publish (h : x.Charted) (subject : String) (headers : Headers) (payload : Payload) (durable : String) :
    Outcome x (x.step (.publish subject headers payload)) durable := by
  have hget := Broker.get?_publish h.seen subject headers payload durable
  have hhs := Broker.handedBy_publish h.seen subject headers payload durable
  have hsame := Broker.publish_same x.broker subject headers payload
  simp only [step]
  cases hc : x.broker.consumers.get? durable with
  | none =>
    rw [hc] at hget hhs
    refine .absent hc hget ?_
    rw [past_receive, hhs]
    simp [past]
  | some c =>
    obtain ⟨hname, -⟩ := h.grounded hc
    rw [hc, Option.map_some] at hget
    rw [hc, Option.elim_some] at hhs
    have hview := view_receive x (x.broker.publish subject headers payload) durable
    rw [hhs, hsame] at hview
    by_cases hs : c.subject = subject
    · rw [if_pos hs] at hget hview
      refine .seen c _ hc hget ((Consumer.pump_changes _ _ c).options.1 ▸ hname) rfl (.single ?_)
      rw [hview]
      exact .published ⟨x.broker.log.length + 1, subject, headers, payload⟩ rfl hs.symm
    · rw [if_neg hs] at hget hview
      refine .seen c _ hc hget hname rfl (.single ?_)
      rw [hview]
      simp only [List.append_nil]
      exact .logged ⟨x.broker.log.length + 1, subject, headers, payload⟩ rfl (Ne.symm hs)

/-- A request that is none of a durable's business. It sees at most what the broker does for everyone. -/
theorem outcome_of_other {y : Course} (h : x.Charted)
    (hget : y.broker.consumers.get? durable = x.broker.consumers.get? durable)
    (hcreated : y.created.get? durable = x.created.get? durable) (hpast : y.past durable = x.past durable)
    (hsees : ∀ c, Relation.ReflGen Sight.Step (x.view durable c)
      { x.view durable c with log := y.broker.log, live := y.broker.live, joined := y.broker.joined }) :
    Outcome x y durable := by
  cases hc : x.broker.consumers.get? durable with
  | none => exact .absent hc (hget.trans hc) hpast
  | some c =>
    refine .seen c c hc (hget.trans hc) (h.grounded hc).1 hcreated ?_
    rw [view_of_past hpast]
    exact hsees c

theorem outcome_refl (h : x.Charted) (durable : String) : Outcome x x durable :=
  outcome_of_other h rfl rfl rfl fun _ => .refl

/-- A request that is the business of one durable, which is there. -/
theorem outcome_of_put {y : Course} {name : String} {d : Consumer} (h : x.Charted)
    (hc : x.broker.consumers.get? name = some c) (hd : d.options.durable = name)
    (hconsumers : y.broker.consumers = (x.broker.put d).consumers) (hcreated : y.created = x.created)
    (hown : Sight.Step (x.view name c) (y.view name d))
    (hpast : durable ≠ name → y.past durable = x.past durable)
    (hsees : ∀ c, Relation.ReflGen Sight.Step (x.view durable c)
      { x.view durable c with log := y.broker.log, live := y.broker.live, joined := y.broker.joined }) :
    Outcome x y durable := by
  subst hd
  by_cases hname : durable = d.options.durable
  · subst hname
    refine .seen c d hc ?_ rfl (by rw [hcreated]) (.single hown)
    rw [hconsumers, Broker.get?_put, if_pos rfl]
  · refine outcome_of_other h ?_ (by rw [hcreated]) (hpast hname) hsees
    rw [hconsumers, Broker.get?_put, if_neg hname]

/-- What the consumer sees that a member is about to join, be it new or not. -/
theorem Charted.joinable (h : x.Charted) (subject : String) (options : SubscriptionOptions) :
    ∃ k v, Sight.Reachable k v ∧ v.log = x.broker.log ∧ v.live = x.broker.live ∧ v.joined = x.broker.joined ∧
      v.consumer = (x.broker.consumers.get? options.durable).getD (.new subject options x.broker.log.length) ∧
      v.consumer.options.durable = options.durable := by
  cases hc : x.broker.consumers.get? options.durable with
  | none =>
    exact ⟨⟨subject, options, x.broker.log.length⟩, x.birth ⟨subject, options, x.broker.log.length⟩,
      .made h.numbered rfl h.live_le, rfl, rfl, rfl, rfl, rfl⟩
  | some c =>
    obtain ⟨hname, k, -, hreach⟩ := h.seen _ c hc
    exact ⟨k, x.view c.options.durable c, hreach, rfl, rfl, rfl, rfl, hname⟩

/-- A member joins under the name that it asks for. -/
theorem Charted.join_durable (h : x.Charted) {subject : String} {options : SubscriptionOptions}
    (hc : (x.broker.consumers.get? options.durable).getD (.new subject options x.broker.log.length) = c)
    (isLive : Nat → Bool) (member : Nat) :
    (c.join isLive x.broker.log member).1.options.durable = options.durable ∧
      ∀ g ∈ (c.join isLive x.broker.log member).2, g.durable = options.durable := by
  obtain ⟨k, v, hreach, hlog, -, -, hconsumer, hname⟩ := h.joinable subject options
  rw [hc] at hconsumer
  have hsound := hreach.grounded.sound
  rw [hlog, hconsumer] at hsound
  rw [hconsumer] at hname
  obtain ⟨hoptions, hhs⟩ := (Consumer.join_changes isLive h.numbered hsound member).options
  exact ⟨(congrArg _ hoptions).trans hname, fun g hg => (hhs g hg).trans hname⟩

/-- A member joins one durable, which is made for that if it is not there; the others see that the broker counts
members. -/
theorem outcome_subscribe (h : x.Charted) (subject : String) (options : SubscriptionOptions) (durable : String) :
    Outcome x (x.step (.subscribe subject options)) durable := by
  simp only [step]
  cases hsub : x.broker.subscribe subject options with
  | error e => exact outcome_refl h durable
  | ok result =>
    obtain ⟨member, b, hs⟩ := result
    obtain ⟨c₀, hc₀, -, rfl, rfl, rfl⟩ := Broker.subscribe_eq_ok hsub
    obtain ⟨hname, hhs⟩ := h.join_durable hc₀ x.broker.welcome.isLive (x.broker.joined + 1)
    have hothers : durable ≠ options.durable → x.past durable =
        (handedBy durable (x.handed ++ (c₀.join x.broker.welcome.isLive x.broker.log (x.broker.joined + 1)).2),
          handedBy durable (x.timers ++ (c₀.join x.broker.welcome.isLive x.broker.log (x.broker.joined + 1)).2),
          handedBy durable x.acked, joinedBy durable (x.joins ++ [(x.broker.joined + 1, options.durable)])) := by
      intro hd
      simp only [past, handedBy_append, handedBy_other hhs hd, joinedBy_other _ _ hd, List.append_nil]
    cases hc : x.broker.consumers.get? options.durable with
    | none =>
      rw [hc] at hc₀
      subst hc₀
      by_cases hd : durable = options.durable
      · subst hd
        have hnothing := h.absent _ hc
        simp only [past, Prod.mk.injEq] at hnothing
        obtain ⟨hhanded, htimers, hacked, hnobody⟩ := hnothing
        refine .made ⟨subject, options, x.broker.log.length⟩ _ hc ?_ hname ?_ rfl (Sight.Step.joined.of_eq ?_)
        · exact (Broker.get?_put _ _ _).trans (if_pos hname.symm)
        · rw [Rows.contains, hc]
          exact (Rows.get?_insert _ _ _ _).trans (if_pos rfl)
        · simp only [view, receive, handedBy_append, hhanded, htimers, hacked, handedBy_own hhs, joinedBy_own, hnobody]
          rfl
      · refine outcome_of_other h ?_ ?_ (hothers hd).symm fun _ => .single .welcomed
        · exact (Broker.get?_put _ _ _).trans (if_neg fun heq => hd (heq.trans hname))
        · rw [Rows.contains, hc]
          exact (Rows.get?_insert _ _ _ _).trans (if_neg hd)
    | some c =>
      rw [hc] at hc₀
      obtain rfl : c = c₀ := hc₀
      have hcontains : x.broker.consumers.contains options.durable = true := by rw [Rows.contains, hc]; rfl
      refine outcome_of_put h hc hname rfl (if_pos hcontains) (Sight.Step.joined.of_eq ?_)
        (fun hd => (hothers hd).symm) fun _ => .single .welcomed
      simp only [view, receive, handedBy_append, handedBy_own hhs, joinedBy_own]
      rfl

/-- All durables see that a member is not live any more. -/
theorem outcome_drop (h : x.Charted) (member : Nat) (durable : String) :
    Outcome x (x.step (.drop member)) durable :=
  outcome_of_other h rfl rfl rfl fun _ => .single (.dropped member)

/-- All durables lose their members. -/
theorem outcome_disconnect (h : x.Charted) (durable : String) : Outcome x (x.step .disconnect) durable := by
  have hget := Broker.get?_disconnectAll h.seen durable
  have hsame := Broker.disconnectAll_same x.broker
  simp only [step]
  cases hc : x.broker.consumers.get? durable with
  | none =>
    rw [hc] at hget
    exact .absent hc hget rfl
  | some c =>
    rw [hc] at hget
    refine .seen c _ hc hget (h.grounded hc).1 rfl (.single ?_)
    unfold view
    rw [hsame]
    exact .disconnected

/-- One durable settles a message, and the others see nothing. -/
theorem outcome_settle (h : x.Charted) (g : HandOut) (giveUp : Bool) (durable : String) :
    Outcome x (x.step (.settle g giveUp)) durable := by
  simp only [step]
  split
  · rename_i hg
    unfold Broker.settle
    cases hc : x.broker.consumers.get? g.durable with
    | none => exact outcome_refl h durable
    | some c =>
      have hname : (c.settle g.seq giveUp).options.durable = g.durable :=
        (congrArg _ (Consumer.settle_options c g.seq giveUp)).trans (h.grounded hc).1
      have hpending : isPending x.broker g = (Pending.find? c.pending g.seq).isSome := by
        rw [isPending, hc, Option.any_some]
      have hstep : Sight.Step (x.view g.durable c) ((x.view g.durable c).settle g giveUp) :=
        .settled g (mem_handedBy.2 ⟨hg, rfl⟩) giveUp
      refine outcome_of_put h hc hname rfl rfl (hstep.of_eq ?_) (fun hd => ?_) fun _ => .refl
      · simp only [view, Sight.settle, hpending, handedBy_note_own]
        rfl
      · simp only [past, handedBy_note_other _ hd]
  · exact outcome_refl h durable

/-- A timer goes off for one durable, and the others see nothing. -/
theorem outcome_expire (h : x.Charted) (g : HandOut) (durable : String) :
    Outcome x (x.step (.expire g)) durable := by
  simp only [step]
  split
  · rename_i hg
    have hmine := mem_handedBy.2 ⟨hg, rfl⟩
    unfold Broker.expire
    cases hc : x.broker.consumers.get? g.durable with
    | none =>
      have hnone : handedBy g.durable x.timers = [] := congrArg (fun past => past.2.1) (h.absent _ hc)
      exact absurd hmine (hnone ▸ List.not_mem_nil)
    | some c =>
      obtain ⟨hoptions, hhs⟩ :=
        (Consumer.expire_changes x.broker.isLive x.broker.log c g.seq g.delivery.count).options
      have hname := (congrArg SubscriptionOptions.durable hoptions).trans (h.grounded hc).1
      rw [(h.grounded hc).1] at hhs
      refine outcome_of_put h hc hname rfl rfl ((Sight.Step.expired (v := x.view g.durable c) g hmine).of_eq ?_)
        (fun hd => ?_) fun _ => .refl
      · simp only [view, receive, handedBy_append, handedBy_own hhs, handedBy_erase]
        rfl
      · simp only [past, receive, handedBy_append, handedBy_other hhs hd, handedBy_erase_other _ hd, List.append_nil]
  · exact outcome_refl h durable

/-- Each request is one step of what a durable consumer sees, or none. -/
theorem Charted.outcome (h : x.Charted) (r : Request) (durable : String) : Outcome x (x.step r) durable := by
  cases r with
  | publish subject headers payload => exact outcome_publish h subject headers payload durable
  | subscribe subject options => exact outcome_subscribe h subject options durable
  | disconnect => exact outcome_disconnect h durable
  | drop member => exact outcome_drop h member durable
  | settle g giveUp => exact outcome_settle h g giveUp durable
  | expire g => exact outcome_expire h g durable

/-! ## Runs -/

/-- Messages and members are counted. -/
theorem Charted.counts (h : x.Charted) (r : Request) :
    Numbered (x.step r).broker.log ∧ (∀ member ∈ (x.step r).broker.live, member ≤ (x.step r).broker.joined) ∧
      (x.step r).joins.map (·.1) = List.range' 1 (x.step r).broker.joined := by
  cases r with
  | publish subject headers payload =>
    simp only [step, receive]
    rw [Broker.publish_same]
    exact ⟨h.numbered.append rfl, h.live_le, h.joins⟩
  | subscribe subject options =>
    simp only [step]
    cases hsub : x.broker.subscribe subject options with
    | error e => exact ⟨h.numbered, h.live_le, h.joins⟩
    | ok result =>
      obtain ⟨member, b, hs⟩ := result
      obtain ⟨c, -, -, rfl, rfl, rfl⟩ := Broker.subscribe_eq_ok hsub
      refine ⟨h.numbered, Sight.mem_joined h.live_le, ?_⟩
      show (x.joins ++ [(x.broker.joined + 1, options.durable)]).map (·.1) = List.range' 1 (x.broker.joined + 1)
      rw [List.map_append, h.joins, List.range'_1_concat, Nat.add_comm 1]
      rfl
  | disconnect =>
    simp only [step]
    rw [Broker.disconnectAll_same]
    exact ⟨h.numbered, h.live_le, h.joins⟩
  | drop member => exact ⟨h.numbered, fun i hi => h.live_le i (List.mem_filter.1 hi).1, h.joins⟩
  | settle g giveUp =>
    simp only [step, Broker.settle]
    split
    · cases x.broker.consumers.get? g.durable <;> exact ⟨h.numbered, h.live_le, h.joins⟩
    · exact ⟨h.numbered, h.live_le, h.joins⟩
  | expire g =>
    simp only [step, Broker.expire]
    split
    · cases x.broker.consumers.get? g.durable <;> exact ⟨h.numbered, h.live_le, h.joins⟩
    · exact ⟨h.numbered, h.live_le, h.joins⟩

/-- Every request leaves each durable seen from the beginning. -/
theorem Charted.step (h : x.Charted) (r : Request) : (x.step r).Charted where
  numbered := (h.counts r).1
  live_le := (h.counts r).2.1
  joins := (h.counts r).2.2
  absent durable hc := by
    cases h.outcome r durable with
    | absent hx _ hpast => exact hpast.trans (h.absent durable hx)
    | made _ _ _ hy _ _ _ _ => nomatch hc.symm.trans hy
    | seen _ _ _ hy _ _ _ => nomatch hc.symm.trans hy
  seen durable c hc := by
    cases h.outcome r durable with
    | absent _ hy _ => nomatch hc.symm.trans hy
    | made k d _ hy hname hcreated hkept hstep =>
      obtain rfl : c = d := Option.some.inj (hc.symm.trans hy)
      subst hname
      exact ⟨rfl, k, hcreated, .step (.made h.numbered hkept h.live_le) hstep⟩
    | seen d d' hx hy hname hcreated hstep =>
      obtain rfl : c = d' := Option.some.inj (hc.symm.trans hy)
      subst hname
      obtain ⟨hd, k, hk, hreach⟩ := h.seen _ d hx
      rw [hd] at hk hreach
      exact ⟨rfl, k, hcreated.trans hk, hreach.orStep hstep⟩

theorem Charted.after (h : x.Charted) (rs : List Request) : (x.after rs).Charted := by
  induction rs generalizing x with
  | nil => exact h
  | cons r rs ih => exact ih (h.step r)

/-- In a run of a new broker, every durable is seen from the beginning. -/
theorem charted_run (rs : List Request) : (run rs).Charted := charted_start.after rs

theorem run_append (rs rs' : List Request) : run (rs ++ rs') = (run rs).after rs' := List.foldl_append

/-- Whatever a durable consumer sees, it has seen from the beginning, step by step. -/
theorem reachable_run (rs : List Request) (hc : (run rs).broker.consumers.get? durable = some c) :
    ∃ k, (run rs).created.get? durable = some k ∧ Sight.Reachable k ((run rs).view durable c) := by
  obtain ⟨rfl, hreach⟩ := (charted_run rs).seen durable c hc
  exact hreach

/-- A durable consumer stays, and sees steps only. -/
theorem Charted.view_after (h : x.Charted) (hc : x.broker.consumers.get? durable = some c) (rs : List Request) :
    ∃ c', (x.after rs).broker.consumers.get? durable = some c' ∧
      (x.after rs).created.get? durable = x.created.get? durable ∧
      Relation.ReflTransGen Sight.Step (x.view durable c) ((x.after rs).view durable c') := by
  induction rs generalizing x c with
  | nil => exact ⟨c, hc, rfl, .refl⟩
  | cons r rs ih =>
    cases h.outcome r durable with
    | absent hx _ _ => nomatch hc.symm.trans hx
    | made _ _ hx _ _ _ _ _ => nomatch hc.symm.trans hx
    | seen d d' hx hy _ hcreated hstep =>
      obtain rfl : c = d := Option.some.inj (hc.symm.trans hx)
      obtain ⟨c', hget, hsame, hsteps⟩ := ih (h.step r) hy
      exact ⟨c', hget, hsame.trans hcreated, hstep.to_reflTransGen.trans hsteps⟩

end Course

end Forum.Memory
