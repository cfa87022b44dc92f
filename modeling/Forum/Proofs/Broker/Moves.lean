import Mathlib.Data.List.Induction
import Forum.Proofs.Broker.Deliveries

/-!
# What clients do

Clients of a broker name a member by its durable and how many have joined that before, and a delivery by its durable and
how many that has handed out before (`Course.Move`). So one can speak of the same moves in runs in which members have
other numbers. A publication lets the consumers on its subject come further in any order (`Walk`); that makes no
difference to any durable (`Course.Charted.stepBy_alike`). Moves are all there is: every run is a run of moves
(`Course.exists_moves`).
-/

namespace Forum.Memory

/-! ## The order of a publication -/

/-- An order in which consumers come further. -/
structure Walk where
  order : List Consumer → List Consumer
  perm : ∀ cs, (order cs).Perm cs

namespace Broker

open Consumer

variable {b : Broker} {durable : String} {P : Consumer → Prop} {f : Consumer → Consumer} {g : Consumer → List HandOut}
  {cs cs' : List Consumer}

/-- Publishes a message, where the consumers on its subject come further in some order. -/
def publishBy (w : Walk) (b : Broker) (subject : String) (headers : Headers) (payload : Payload) :
    Broker × List HandOut :=
  let b := b.append subject headers payload
  pumpAll (w.order (b.consumers.values.filter fun c => c.subject = subject)) b

theorem putAll_perm (hf : ∀ c, (f c).options = c.options)
    (hcs : cs.Pairwise fun c e => c.options.durable ≠ e.options.durable) (h : cs'.Perm cs) :
    putAll f cs' b = putAll f cs b := by
  have hcs' : cs'.Pairwise fun c e => c.options.durable ≠ e.options.durable := h.symm.pairwise hcs fun hne => hne.symm
  have hconsumers : (putAll f cs' b).consumers = (putAll f cs b).consumers := by
    refine Rows.ext_get? fun durable => ?_
    by_cases hmem : ∃ c ∈ cs, c.options.durable = durable
    · obtain ⟨c, hc, rfl⟩ := hmem
      rw [get?_putAll_own hf hcs hc, get?_putAll_own hf hcs' (h.mem_iff.2 hc)]
    · have hother : ∀ c ∈ cs, durable ≠ c.options.durable := fun c hc heq => hmem ⟨c, hc, heq.symm⟩
      rw [get?_putAll_other hf hother, get?_putAll_other hf fun c hc => hother c (h.mem_iff.1 hc)]
  rw [putAll_eq, hconsumers, ← putAll_eq]

theorem handedBy_flatMap_perm (hg : ∀ c, ∀ h ∈ g c, h.durable = c.options.durable)
    (hcs : cs.Pairwise fun c e => c.options.durable ≠ e.options.durable) (h : cs'.Perm cs) (durable : String) :
    handedBy durable (cs'.flatMap g) = handedBy durable (cs.flatMap g) := by
  have hcs' : cs'.Pairwise fun c e => c.options.durable ≠ e.options.durable := h.symm.pairwise hcs fun hne => hne.symm
  by_cases hmem : ∃ c ∈ cs, c.options.durable = durable
  · obtain ⟨c, hc, rfl⟩ := hmem
    rw [handedBy_flatMap_own hg hcs hc, handedBy_flatMap_own hg hcs' (h.mem_iff.2 hc)]
  · have hother : ∀ c ∈ cs, durable ≠ c.options.durable := fun c hc heq => hmem ⟨c, hc, heq.symm⟩
    rw [handedBy_flatMap_other hg hother, handedBy_flatMap_other hg fun c hc => hother c (h.mem_iff.1 hc)]

/-- In whatever order the consumers come further, they get to the same, and hand out the same each. -/
theorem publishBy_alike (h : b.Every P) (w : Walk) (subject : String) (headers : Headers) (payload : Payload) :
    (b.publishBy w subject headers payload).1 = (b.publish subject headers payload).1 ∧
      ∀ durable, handedBy durable (b.publishBy w subject headers payload).2 =
        handedBy durable (b.publish subject headers payload).2 := by
  have happend : (b.append subject headers payload).Every P := h
  have hcs := happend.pairwise.filter fun c => c.subject = subject
  have hperm := w.perm ((b.append subject headers payload).consumers.values.filter fun c => c.subject = subject)
  unfold publishBy publish
  rw [pumpAll_eq, pumpAll_eq]
  exact ⟨putAll_perm (fun c => (pump_changes _ _ c).options.1) hcs hperm,
    handedBy_flatMap_perm (fun c => (pump_changes _ _ c).options.2) hcs hperm⟩

end Broker

namespace Course

/-! ## Moves -/

/-- What a client does. -/
inductive Move where
  | publish (subject : String) (headers : Headers) (payload : Payload)
  | subscribe (subject : String) (options : SubscriptionOptions)
  | disconnect
  /-- Lets the stream go of the member that joined the durable after so many others. -/
  | drop (durable : String) (place : Nat)
  /-- Settles what the durable handed out after so many other deliveries. -/
  | settle (durable : String) (place : Nat) (giveUp : Bool)
  /-- The timer goes off of what the durable handed out after so many other deliveries. -/
  | expire (durable : String) (place : Nat)
deriving DecidableEq

/-- A move is the business of a durable. -/
def Move.concerns (durable : String) : Move → Bool
  | publish _ _ _ | disconnect => true
  | subscribe _ options => options.durable = durable
  | drop name _ | settle name _ _ | expire name _ => name = durable

/-- What a move comes to, if there is what it names. -/
def Move.request? (x : Course) : Move → Option Request
  | publish subject headers payload => some (.publish subject headers payload)
  | subscribe subject options => some (.subscribe subject options)
  | disconnect => some .disconnect
  | drop durable place => (joinedBy durable x.joins)[place]?.map .drop
  | settle durable place giveUp => (handedBy durable x.handed)[place]?.map fun h => .settle h giveUp
  | expire durable place => (handedBy durable x.handed)[place]?.map .expire

/-- What comes of a request, where a publication goes in some order. -/
def stepBy (w : Walk) (x : Course) : Request → Course
  | .publish subject headers payload => x.receive (x.broker.publishBy w subject headers payload)
  | r => x.step r

/-- What comes of a move. -/
def moveBy (w : Walk) (x : Course) (m : Move) : Course := (m.request? x).elim x (x.stepBy w)

/-- Moves one after the other, each with the order in which it goes. -/
def runBy (steps : List (Walk × Move)) : Course := steps.foldl (fun x s => x.moveBy s.1 s.2) start

variable {x x' y y' : Course} {c : Consumer} {durable : String}

/-! ## Courses that differ in the order of hand-outs of different durables -/

/-- Nobody can tell two courses apart who does not compare the hand-outs of different durables. -/
structure Alike (x y : Course) : Prop where
  broker : y.broker = x.broker
  created : y.created = x.created
  joins : y.joins = x.joins
  past : ∀ durable, y.past durable = x.past durable

theorem Charted.of_alike (h : x.Charted) (hy : Alike x y) : y.Charted where
  numbered := hy.broker ▸ h.numbered
  live_le := hy.broker ▸ h.live_le
  joins := hy.joins ▸ hy.broker ▸ h.joins
  absent durable hc := (hy.past durable).trans (h.absent durable (hy.broker ▸ hc))
  seen durable c hc := by
    obtain ⟨hname, k, hk, hreach⟩ := h.seen durable c (hy.broker ▸ hc)
    refine ⟨hname, k, hy.created ▸ hk, ?_⟩
    rw [view_of_past (hy.past _) c, hy.broker]
    exact hreach

theorem Charted.stepBy_alike (h : x.Charted) (w : Walk) (r : Request) : Alike (x.step r) (x.stepBy w r) := by
  cases r with
  | publish subject headers payload =>
    obtain ⟨hbroker, hhanded⟩ := Broker.publishBy_alike h.seen w subject headers payload
    refine ⟨hbroker, rfl, rfl, fun durable => ?_⟩
    simp only [Course.step, Course.stepBy, past_receive, hhanded]
  | subscribe subject options => exact ⟨rfl, rfl, rfl, fun _ => rfl⟩
  | disconnect => exact ⟨rfl, rfl, rfl, fun _ => rfl⟩
  | drop member => exact ⟨rfl, rfl, rfl, fun _ => rfl⟩
  | settle h giveUp => exact ⟨rfl, rfl, rfl, fun _ => rfl⟩
  | expire h => exact ⟨rfl, rfl, rfl, fun _ => rfl⟩

theorem Charted.stepBy (h : x.Charted) (w : Walk) (r : Request) : (x.stepBy w r).Charted :=
  (h.step r).of_alike (h.stepBy_alike w r)

theorem Charted.moveBy (h : x.Charted) (w : Walk) (m : Move) : (x.moveBy w m).Charted := by
  unfold Course.moveBy
  cases m.request? x with
  | none => exact h
  | some r => exact h.stepBy w r

theorem runBy_snoc (steps : List (Walk × Move)) (s : Walk × Move) :
    runBy (steps ++ [s]) = (runBy steps).moveBy s.1 s.2 := List.foldl_append

theorem charted_runBy (steps : List (Walk × Move)) : (runBy steps).Charted := by
  induction steps using List.reverseRecOn with
  | nil => exact charted_start
  | append_singleton steps s ih =>
    rw [runBy_snoc]
    exact ih.moveBy s.1 s.2

/-! ## Moves are all there is -/

/-- The consumers come further in the order of their names, or the other way round. -/
def straight : Walk := ⟨id, fun _ => .refl _⟩

def reversed : Walk := ⟨List.reverse, List.reverse_perm⟩

theorem timers_handed {k : Creation} {v : Sight} (h : Sight.Reachable k v) : v.timers ⊆ v.handed := by
  induction h with
  | made _ _ _ => exact fun _ h => h
  | @step v w _ hstep ih =>
    have hreceive (hs : List HandOut) : v.timers ++ hs ⊆ v.handed ++ hs := List.append_subset.2
      ⟨fun _ h => List.mem_append_left _ (ih h), List.subset_append_right _ _⟩
    cases hstep with
    | logged _ _ _ => exact ih
    | published _ _ _ => exact hreceive _
    | welcomed => exact ih
    | joined => exact hreceive _
    | disconnected => exact ih
    | dropped _ => exact ih
    | settled _ _ _ => exact ih
    | expired g _ =>
      exact List.append_subset.2 ⟨fun _ h => List.mem_append_left _ (ih (List.mem_of_mem_erase h)),
        List.subset_append_right _ _⟩

theorem Charted.timers_subset (h : x.Charted) : handedBy durable x.timers ⊆ handedBy durable x.handed := by
  cases hc : x.broker.consumers.get? durable with
  | none =>
    have hnothing : handedBy durable x.timers = [] := congrArg (fun past => past.2.1) (h.absent durable hc)
    rw [hnothing]
    exact List.nil_subset _
  | some c =>
    obtain ⟨rfl, k, -, hreach⟩ := h.seen durable c hc
    exact timers_handed hreach

theorem stepBy_straight (x : Course) (r : Request) : x.stepBy straight r = x.step r := by
  cases r <;> rfl

/-- Streams are held by members that have joined. -/
theorem live_step (x : Course) (r : Request) :
    ∀ member ∈ (x.step r).broker.live, member ∈ x.broker.live ∨ member = x.broker.joined + 1 := by
  intro member hm
  cases r with
  | publish subject headers payload =>
    simp only [step, receive] at hm
    rw [Broker.publish_same] at hm
    exact .inl hm
  | subscribe subject options =>
    simp only [step] at hm
    cases hsub : x.broker.subscribe subject options with
    | error e =>
      rw [hsub] at hm
      exact .inl hm
    | ok result =>
      obtain ⟨member', b, hs⟩ := result
      rw [hsub] at hm
      obtain ⟨c, -, -, rfl, rfl, rfl⟩ := Broker.subscribe_eq_ok hsub
      exact (List.mem_append.1 hm).imp_right List.mem_singleton.1
  | disconnect =>
    simp only [step] at hm
    rw [Broker.disconnectAll_same] at hm
    exact .inl hm
  | drop other => exact .inl (List.mem_filter.1 hm).1
  | settle g giveUp =>
    simp only [step, Broker.settle] at hm
    split at hm
    · cases hc : x.broker.consumers.get? g.durable <;> rw [hc] at hm <;> exact .inl hm
    · exact .inl hm
  | expire g =>
    simp only [step, Broker.expire] at hm
    split at hm
    · cases hc : x.broker.consumers.get? g.durable <;> rw [hc] at hm <;> exact .inl hm
    · exact .inl hm

theorem live_run (rs : List Request) : 0 ∉ (run rs).broker.live := by
  induction rs using List.reverseRecOn with
  | nil => exact List.not_mem_nil
  | append_singleton rs r ih =>
    rw [run_append]
    intro hm
    rcases live_step (run rs) r 0 hm with hm | hm
    · exact ih hm
    · nomatch hm

/-- Nothing comes of letting the stream go of a member that has not joined. -/
theorem Charted.step_drop_of_not_mem (h : x.Charted) (hlive : 0 ∉ x.broker.live) {member : Nat}
    (hm : member ∉ x.joins.map (·.1)) : x.step (.drop member) = x := by
  have hgone : ∀ i ∈ x.broker.live, i ≠ member := by
    rintro i hi rfl
    have hle := h.live_le i hi
    have hpos : i ≠ 0 := fun heq => hlive (heq ▸ hi)
    rw [h.joins] at hm
    exact hm (List.mem_range'_1.2 ⟨by omega, by omega⟩)
  have hall : x.broker.live.filter (· ≠ member) = x.broker.live :=
    List.filter_eq_self.2 fun i hi => decide_eq_true (hgone i hi)
  rw [Course.step, Broker.dropMember, hall]

/-- There is a move of which nothing comes. -/
theorem exists_idle (x : Course) : ∃ m, x.moveBy straight m = x := by
  have hlength : (joinedBy "" x.joins).length ≤ x.joins.length := by
    rw [joinedBy, List.length_map]
    exact List.length_filter_le _ _
  refine ⟨.drop "" x.joins.length, ?_⟩
  rw [Course.moveBy, Move.request?, List.getElem?_eq_none hlength]
  rfl

/-- Every request is a move: what is not there cannot be named, and what is asked for it changes nothing. -/
theorem Charted.exists_move (h : x.Charted) (hlive : 0 ∉ x.broker.live) (r : Request) :
    ∃ m, x.moveBy straight m = x.step r := by
  have hidle (hr : x.step r = x) : ∃ m, x.moveBy straight m = x.step r := hr.symm ▸ exists_idle x
  have hmove (m : Move) (hm : m.request? x = some r) : ∃ m, x.moveBy straight m = x.step r :=
    ⟨m, by rw [Course.moveBy, hm, Option.elim_some, stepBy_straight]⟩
  cases r with
  | publish subject headers payload => exact hmove (.publish subject headers payload) rfl
  | subscribe subject options => exact hmove (.subscribe subject options) rfl
  | disconnect => exact hmove .disconnect rfl
  | drop member =>
    by_cases hm : member ∈ x.joins.map (·.1)
    · obtain ⟨⟨_, name⟩, hmem, rfl⟩ := List.mem_map.1 hm
      obtain ⟨place, hplace⟩ := List.mem_iff_getElem?.1 (mem_joinedBy.2 hmem)
      refine hmove (.drop name place) ?_
      rw [Move.request?, hplace]
      rfl
    · exact hidle (h.step_drop_of_not_mem hlive hm)
  | settle g giveUp =>
    by_cases hg : g ∈ x.handed
    · obtain ⟨place, hplace⟩ := List.mem_iff_getElem?.1 (mem_handedBy.2 ⟨hg, rfl⟩)
      refine hmove (.settle g.durable place giveUp) ?_
      rw [Move.request?, hplace]
      rfl
    · exact hidle (if_neg hg)
  | expire g =>
    by_cases hg : g ∈ x.timers
    · obtain ⟨place, hplace⟩ := List.mem_iff_getElem?.1 (h.timers_subset (mem_handedBy.2 ⟨hg, rfl⟩))
      refine hmove (.expire g.durable place) ?_
      rw [Move.request?, hplace]
      rfl
    · exact hidle (if_neg hg)

/-- Every run is a run of moves. -/
theorem exists_moves (rs : List Request) : ∃ steps, runBy steps = run rs := by
  induction rs using List.reverseRecOn with
  | nil => exact ⟨[], rfl⟩
  | append_singleton rs r ih =>
    obtain ⟨steps, hsteps⟩ := ih
    obtain ⟨m, hm⟩ := (charted_run rs).exists_move (live_run rs) r
    refine ⟨steps ++ [(straight, m)], ?_⟩
    rw [runBy_snoc, hsteps, hm, run_append]
    rfl

end Course

end Forum.Memory
