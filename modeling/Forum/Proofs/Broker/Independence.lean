import Mathlib.Logic.Equiv.Basic
import Forum.Proofs.Broker.Moves
import Forum.Proofs.Broker.Renaming

/-!
# Durables are independent

Two courses look alike to a durable when they are so up to the names of its members (`Course.Renamed`). A move that is
the business of other durables leaves that alone (`Course.Charted.unaffected`), and one that is the business of the
durable keeps it, however its publication goes (`Course.Renamed.both`). Hence it depends on its own business only what a
durable hands out and holds, and all durables on a subject get every message (`Course.durables_independent`).
-/

namespace Forum.Memory

namespace Course

variable {x x' y y' : Course} {c : Consumer} {durable : String}

/-! ## What a durable has to do with -/

/-- A member belongs to one durable. -/
theorem Charted.joins_unique (h : x.Charted) {member : Nat} {name name' : String} (hm : (member, name) ∈ x.joins)
    (hm' : (member, name') ∈ x.joins) : name = name' := by
  have hnodup : (x.joins.map (·.1)).Nodup := h.joins ▸ List.nodup_range'
  exact congrArg Prod.snd (List.inj_on_of_nodup_map hnodup hm hm' rfl)

/-- Members are counted, so none that has joined is beyond the count. -/
theorem Charted.joinedBy_le (h : x.Charted) : ∀ member ∈ joinedBy durable x.joins, member ≤ x.broker.joined := by
  intro member hm
  have hmem : member ∈ x.joins.map (·.1) := List.mem_map_of_mem (mem_joinedBy.1 hm)
  rw [h.joins] at hmem
  have hlt := (List.mem_range'_1.1 hmem).2
  omega

/-- What a durable has handed out went to its own members. -/
theorem Charted.takers (h : x.Charted) : ∀ g ∈ handedBy durable x.handed, g.member ∈ joinedBy durable x.joins := by
  cases hc : x.broker.consumers.get? durable with
  | none =>
    have hnothing : handedBy durable x.handed = [] := congrArg Prod.fst (h.absent durable hc)
    rw [hnothing]
    exact fun _ h => nomatch h
  | some c =>
    obtain ⟨rfl, k, -, hreach⟩ := h.seen durable c hc
    exact hreach.grounded.takers

/-- The members of a durable have joined it, and so have those that hold its pending messages. -/
theorem Charted.among (h : x.Charted) (hc : x.broker.consumers.get? durable = some c) :
    c.Among (joinedBy durable x.joins) := (h.grounded hc).2.choose_spec.2.among

/-! ## What comes of settlements and timers -/

section

variable {g : HandOut}

/-- Nothing is settled for a durable that is not there. -/
theorem step_settle_of_none (hc : x.broker.consumers.get? g.durable = none) (giveUp : Bool) :
    x.step (.settle g giveUp) = x := by
  simp only [step, Broker.settle, hc]
  split <;> rfl

/-- A settlement changes its durable and what was acknowledged. -/
theorem step_settle_of_some (hg : g ∈ x.handed) (hc : x.broker.consumers.get? g.durable = some c) (giveUp : Bool) :
    ∃ acked, x.step (.settle g giveUp) =
      { x with broker := x.broker.put (c.settle g.seq giveUp), acked := acked } := by
  simp only [step, Broker.settle, hc, if_pos hg]
  exact ⟨_, rfl⟩

/-- A timer of a durable that is not there goes off in vain. -/
theorem step_expire_of_none (hg : g ∈ x.timers) (hc : x.broker.consumers.get? g.durable = none) :
    x.step (.expire g) = { x with timers := x.timers.erase g }.receive (x.broker, []) := by
  simp only [step, Broker.expire, hc, if_pos hg]

/-- A timer goes off for its durable, which may hand out. -/
theorem step_expire_of_some (hg : g ∈ x.timers) (hc : x.broker.consumers.get? g.durable = some c) :
    x.step (.expire g) = { x with timers := x.timers.erase g }.receive
      (x.broker.put (c.expire x.broker.isLive x.broker.log g.seq g.delivery.count).1,
        (c.expire x.broker.isLive x.broker.log g.seq g.delivery.count).2) := by
  simp only [step, Broker.expire, hc, if_pos hg]

end

/-! ## What is none of a durable's business -/

/-- A durable finds everything as it was. -/
structure Unaffected (durable : String) (x y : Course) : Prop where
  log : y.broker.log = x.broker.log
  joined : joinedBy durable y.joins = joinedBy durable x.joins
  live : ∀ member ∈ joinedBy durable x.joins, y.broker.isLive member = x.broker.isLive member
  created : y.created.get? durable = x.created.get? durable
  consumer : y.broker.consumers.get? durable = x.broker.consumers.get? durable
  handed : handedBy durable y.handed = handedBy durable x.handed
  timers : handedBy durable y.timers = handedBy durable x.timers

theorem Unaffected.refl (durable : String) (x : Course) : Unaffected durable x x :=
  ⟨rfl, rfl, fun _ _ => rfl, rfl, rfl, rfl, rfl⟩

/-- A member that joins another durable. -/
theorem Charted.unaffected_subscribe (h : x.Charted) (subject : String) {options : SubscriptionOptions}
    (hne : durable ≠ options.durable) : Unaffected durable x (x.step (.subscribe subject options)) := by
  simp only [Course.step]
  cases hsub : x.broker.subscribe subject options with
  | error e => exact .refl durable x
  | ok result =>
    obtain ⟨member, b, hs⟩ := result
    obtain ⟨c, hc, -, rfl, rfl, rfl⟩ := Broker.subscribe_eq_ok hsub
    obtain ⟨hname, hhs⟩ := h.join_durable hc x.broker.welcome.isLive (x.broker.joined + 1)
    have hnothing := handedBy_other hhs hne
    refine ⟨rfl, joinedBy_other _ _ hne, fun i hi => ?_, ?_, (Broker.get?_put _ _ _).trans (if_neg ?_), ?_, ?_⟩
    · have hle := h.joinedBy_le i hi
      have hother : i ≠ x.broker.joined + 1 := by omega
      show (x.broker.live ++ [x.broker.joined + 1]).contains i = x.broker.live.contains i
      simp [hother]
    · show (if _ then _ else _ : Rows Creation).get? durable = _
      split
      · rfl
      · rw [Rows.get?_insert, if_neg hne]
    · rw [hname]
      exact hne
    · exact handedBy_append.trans (by rw [hnothing, List.append_nil])
    · exact handedBy_append.trans (by rw [hnothing, List.append_nil])

/-- A member of another durable that is let go. -/
theorem Charted.unaffected_drop (h : x.Charted) {member : Nat} {name : String} (hm : (member, name) ∈ x.joins)
    (hne : durable ≠ name) : Unaffected durable x (x.step (.drop member)) := by
  refine ⟨rfl, rfl, fun i hi => ?_, rfl, rfl, rfl, rfl⟩
  have hother : i ≠ member := by
    rintro rfl
    exact hne (h.joins_unique (mem_joinedBy.1 hi) hm)
  show (x.broker.live.filter (· ≠ member)).contains i = x.broker.live.contains i
  simp [hother]

/-- A delivery of another durable that is settled. -/
theorem Charted.unaffected_settle (h : x.Charted) {g : HandOut} (hg : g ∈ x.handed) (hne : durable ≠ g.durable)
    (giveUp : Bool) : Unaffected durable x (x.step (.settle g giveUp)) := by
  cases hc : x.broker.consumers.get? g.durable with
  | none =>
    rw [step_settle_of_none hc]
    exact .refl durable x
  | some c =>
    obtain ⟨acked, hstep⟩ := step_settle_of_some hg hc giveUp
    rw [hstep]
    refine ⟨rfl, rfl, fun _ _ => rfl, rfl, (Broker.get?_put _ _ _).trans (if_neg ?_), rfl, rfl⟩
    rw [Consumer.settle_options, (h.grounded hc).1]
    exact hne

/-- A timer of another durable that goes off. -/
theorem Charted.unaffected_expire (h : x.Charted) {g : HandOut} (hne : durable ≠ g.durable) :
    Unaffected durable x (x.step (.expire g)) := by
  by_cases hg : g ∈ x.timers
  · cases hc : x.broker.consumers.get? g.durable with
    | none =>
      rw [step_expire_of_none hg hc]
      refine ⟨rfl, rfl, fun _ _ => rfl, rfl, rfl, ?_, ?_⟩
      · simp only [receive, List.append_nil]
      · simp only [receive, List.append_nil, handedBy_erase_other _ hne]
    | some c =>
      rw [step_expire_of_some hg hc]
      obtain ⟨hoptions, hhs⟩ :=
        (Consumer.expire_changes x.broker.isLive x.broker.log c g.seq g.delivery.count).options
      have hname := (h.grounded hc).1
      rw [hname] at hhs
      refine ⟨rfl, rfl, fun _ _ => rfl, rfl, (Broker.get?_put _ _ _).trans (if_neg ?_), ?_, ?_⟩
      · rw [hoptions, hname]
        exact hne
      · simp only [receive, handedBy_append, handedBy_other hhs hne, List.append_nil]
      · simp only [receive, handedBy_append, handedBy_other hhs hne, List.append_nil, handedBy_erase_other _ hne]
  · simp only [Course.step, if_neg hg]
    exact .refl durable x

/-- What is named by its place among the hand-outs of a durable is one of them. -/
theorem mem_of_place {place : Nat} {g : HandOut} (hg : (handedBy durable x.handed)[place]? = some g) :
    g ∈ x.handed ∧ g.durable = durable :=
  mem_handedBy.1 (List.mem_of_getElem? hg)

/-- A move that is none of its business leaves a durable alone. -/
theorem Charted.unaffected (h : x.Charted) (w : Walk) {m : Move} (hm : m.concerns durable = false) :
    Unaffected durable x (x.moveBy w m) := by
  unfold Course.moveBy
  cases hr : m.request? x with
  | none => exact .refl durable x
  | some r =>
    cases m with
    | publish subject headers payload => nomatch hm
    | disconnect => nomatch hm
    | subscribe subject options =>
      obtain rfl := Option.some.inj hr
      exact h.unaffected_subscribe subject fun heq => (of_decide_eq_false hm) heq.symm
    | drop name place =>
      obtain ⟨member, hmember, rfl⟩ := Option.map_eq_some_iff.1 hr
      exact h.unaffected_drop (mem_joinedBy.1 (List.mem_of_getElem? hmember))
        fun heq => (of_decide_eq_false hm) heq.symm
    | settle name place giveUp =>
      obtain ⟨g, hg, rfl⟩ := Option.map_eq_some_iff.1 hr
      exact h.unaffected_settle (mem_of_place hg).1
        (fun heq => (of_decide_eq_false hm) ((mem_of_place hg).2 ▸ heq.symm)) giveUp
    | expire name place =>
      obtain ⟨g, hg, rfl⟩ := Option.map_eq_some_iff.1 hr
      exact h.unaffected_expire fun heq => (of_decide_eq_false hm) ((mem_of_place hg).2 ▸ heq.symm)

/-! ## What is a durable's own business -/

/-- Two courses look alike to a durable, up to the names of its members. -/
structure Renamed (ρ : Equiv.Perm Nat) (durable : String) (x y : Course) : Prop where
  log : y.broker.log = x.broker.log
  joined : joinedBy durable y.joins = (joinedBy durable x.joins).map ρ
  live : Consumer.Alike ρ x.broker.isLive y.broker.isLive (joinedBy durable x.joins)
  created : y.created.get? durable = x.created.get? durable
  consumer : y.broker.consumers.get? durable = (x.broker.consumers.get? durable).map (Consumer.rename ρ)
  handed : handedBy durable y.handed = (handedBy durable x.handed).map (HandOut.rename ρ)
  timers : handedBy durable y.timers = (handedBy durable x.timers).map (HandOut.rename ρ)

variable {ρ : Equiv.Perm Nat}

theorem renamed_start (durable : String) : Renamed (.refl Nat) durable start start :=
  ⟨rfl, rfl, (fun _ h => nomatch h), rfl, rfl, rfl, rfl⟩

/-- What leaves the durable alone in the first course keeps the two alike. -/
theorem Renamed.left (h : Renamed ρ durable x y) (hx : Unaffected durable x x') : Renamed ρ durable x' y where
  log := h.log.trans hx.log.symm
  joined := by rw [h.joined, hx.joined]
  live i hi := by
    rw [hx.joined] at hi
    rw [h.live i hi, hx.live i hi]
  created := h.created.trans hx.created.symm
  consumer := by rw [h.consumer, hx.consumer]
  handed := by rw [h.handed, hx.handed]
  timers := by rw [h.timers, hx.timers]

/-- What leaves the durable alone in the second course keeps the two alike. -/
theorem Renamed.right (h : Renamed ρ durable x y) (hy : Unaffected durable y y') : Renamed ρ durable x y' where
  log := hy.log.trans h.log
  joined := hy.joined.trans h.joined
  live i hi := by
    have hi' : ρ i ∈ joinedBy durable y.joins := h.joined ▸ List.mem_map_of_mem hi
    rw [hy.live _ hi', h.live i hi]
  created := hy.created.trans h.created
  consumer := hy.consumer.trans h.consumer
  handed := hy.handed.trans h.handed
  timers := hy.timers.trans h.timers

/-- Courses that only walk their consumers in other orders are the same to each durable. -/
theorem Alike.unaffected (h : Alike x y) (durable : String) : Unaffected durable x y := by
  have hpast := h.past durable
  simp only [Course.past, Prod.mk.injEq] at hpast
  obtain ⟨hhanded, htimers, -, hjoined⟩ := hpast
  exact ⟨by rw [h.broker], hjoined, fun i _ => by rw [h.broker], by rw [h.created], by rw [h.broker], hhanded, htimers⟩

/-- The members of the durable are live in both courses or in neither. -/
theorem Renamed.members (h : Renamed ρ durable x y) (hx : x.Charted)
    (hc : x.broker.consumers.get? durable = some c) :
    Consumer.Alike ρ x.broker.isLive y.broker.isLive c.members :=
  h.live.subset fun i hi => (hx.among hc).members i hi

theorem Renamed.log_append (h : Renamed ρ durable x y) (subject : String) (headers : Headers) (payload : Payload) :
    (y.broker.append subject headers payload).log = (x.broker.append subject headers payload).log := by
  show y.broker.log ++ [⟨y.broker.log.length + 1, subject, headers, payload⟩] = _
  rw [h.log]
  rfl

/-- A publication is handed out alike. -/
theorem Renamed.handed_publish (h : Renamed ρ durable x y) (hx : x.Charted) (hy : y.Charted) (subject : String)
    (headers : Headers) (payload : Payload) :
    handedBy durable (y.broker.publish subject headers payload).2 =
      (handedBy durable (x.broker.publish subject headers payload).2).map (HandOut.rename ρ) := by
  rw [Broker.handedBy_publish hx.seen, Broker.handedBy_publish hy.seen, h.consumer, h.log_append]
  cases hc : x.broker.consumers.get? durable with
  | none => rfl
  | some c =>
    have hsubject : (c.rename ρ).subject = c.subject := rfl
    simp only [Option.map_some, Option.elim_some, hsubject]
    split
    · rw [Consumer.rename_pump _ (h.members hx hc)]
      rfl
    · rfl

/-- After a publication the durable is alike. -/
theorem Renamed.consumer_publish (h : Renamed ρ durable x y) (hx : x.Charted) (hy : y.Charted) (subject : String)
    (headers : Headers) (payload : Payload) :
    (y.broker.publish subject headers payload).1.consumers.get? durable =
      ((x.broker.publish subject headers payload).1.consumers.get? durable).map (Consumer.rename ρ) := by
  rw [Broker.get?_publish hx.seen, Broker.get?_publish hy.seen, h.consumer, h.log_append]
  cases hc : x.broker.consumers.get? durable with
  | none => rfl
  | some c =>
    have hsubject : (c.rename ρ).subject = c.subject := rfl
    simp only [Option.map_some, hsubject]
    split
    · rw [Consumer.rename_pump _ (h.members hx hc)]
      rfl
    · rfl

/-- A message is published in both courses. -/
theorem Renamed.publish (h : Renamed ρ durable x y) (hx : x.Charted) (hy : y.Charted) (subject : String)
    (headers : Headers) (payload : Payload) :
    Renamed ρ durable (x.step (.publish subject headers payload)) (y.step (.publish subject headers payload)) := by
  have hlive (b : Broker) : (b.publish subject headers payload).1.live = b.live := by
    rw [Broker.publish_same]
    rfl
  have hhanded := h.handed_publish hx hy subject headers payload
  refine ⟨?_, h.joined, fun i hi => ?_, h.created, h.consumer_publish hx hy subject headers payload, ?_, ?_⟩
  · exact (Broker.log_publish _ _ _ _).trans ((h.log_append _ _ _).trans (Broker.log_publish _ _ _ _).symm)
  · show (y.broker.publish subject headers payload).1.live.contains (ρ i) =
      (x.broker.publish subject headers payload).1.live.contains i
    rw [hlive, hlive]
    exact h.live i hi
  · simp only [Course.step, receive, handedBy_append, List.map_append, h.handed, hhanded]
  · simp only [Course.step, receive, handedBy_append, List.map_append, h.timers, hhanded]

/-- The broker parts from all members in both courses. -/
theorem Renamed.disconnect (h : Renamed ρ durable x y) (hx : x.Charted) (hy : y.Charted) :
    Renamed ρ durable (x.step .disconnect) (y.step .disconnect) := by
  have hsame (b : Broker) : b.disconnectAll.log = b.log ∧ b.disconnectAll.live = b.live := by
    rw [Broker.disconnectAll_same]
    exact ⟨rfl, rfl⟩
  refine ⟨?_, h.joined, fun i hi => ?_, h.created, ?_, h.handed, h.timers⟩
  · exact (hsame _).1.trans (h.log.trans (hsame _).1.symm)
  · show y.broker.disconnectAll.live.contains (ρ i) = x.broker.disconnectAll.live.contains i
    rw [(hsame _).2, (hsame _).2]
    exact h.live i hi
  · show y.broker.disconnectAll.consumers.get? durable = (x.broker.disconnectAll.consumers.get? durable).map _
    rw [Broker.get?_disconnectAll hx.seen, Broker.get?_disconnectAll hy.seen, h.consumer, Option.map_map, Option.map_map]
    rfl

/-- A member is let go, and in the other course the one with its name. -/
theorem Renamed.drop (h : Renamed ρ durable x y) (member : Nat) :
    Renamed ρ durable (x.step (.drop member)) (y.step (.drop (ρ member))) := by
  refine ⟨h.log, h.joined, fun i hi => ?_, h.created, h.consumer, h.handed, h.timers⟩
  have hlive : ρ i ∈ y.broker.live ↔ i ∈ x.broker.live := by
    rw [← List.contains_iff_mem, ← List.contains_iff_mem]
    exact Bool.eq_iff_iff.1 (h.live i hi)
  have hsame : ρ i ∈ y.broker.live.filter (· ≠ ρ member) ↔ i ∈ x.broker.live.filter (· ≠ member) := by
    simp [hlive]
  show (y.broker.live.filter (· ≠ ρ member)).contains (ρ i) = (x.broker.live.filter (· ≠ member)).contains i
  rw [Bool.eq_iff_iff, List.contains_iff_mem, List.contains_iff_mem]
  exact hsame

theorem mem_rename {hs : List HandOut} {g : HandOut} : g.rename ρ ∈ hs.map (HandOut.rename ρ) ↔ g ∈ hs :=
  List.mem_map_of_injective (HandOut.rename_injective ρ.injective)

/-- A delivery is settled, and in the other course the one for the member with its name. -/
theorem Renamed.settle (h : Renamed ρ durable x y) (hx : x.Charted) {g : HandOut}
    (hg : g ∈ handedBy durable x.handed) (giveUp : Bool) :
    Renamed ρ durable (x.step (.settle g giveUp)) (y.step (.settle (g.rename ρ) giveUp)) := by
  obtain ⟨hmem, rfl⟩ := mem_handedBy.1 hg
  have hmem' : g.rename ρ ∈ y.handed := (mem_handedBy.1 (h.handed ▸ mem_rename.2 hg)).1
  have hconsumer : y.broker.consumers.get? (g.rename ρ).durable = _ := h.consumer
  cases hc : x.broker.consumers.get? g.durable with
  | none =>
    rw [hc] at hconsumer
    rw [step_settle_of_none hc, step_settle_of_none hconsumer]
    exact h
  | some c =>
    rw [hc] at hconsumer
    have hname : (c.settle g.seq giveUp).options.durable = g.durable := by
      rw [Consumer.settle_options, (hx.grounded hc).1]
    have hrename : (c.rename ρ).settle g.seq giveUp = (c.settle g.seq giveUp).rename ρ := Consumer.rename_settle _ _ _ _
    obtain ⟨acked, hstep⟩ := step_settle_of_some hmem hc giveUp
    obtain ⟨acked', hstep'⟩ := step_settle_of_some hmem' hconsumer giveUp
    rw [hstep, hstep']
    refine ⟨h.log, h.joined, h.live, h.created, ?_, h.handed, h.timers⟩
    show (y.broker.put ((c.rename ρ).settle g.seq giveUp)).consumers.get? g.durable =
      ((x.broker.put (c.settle g.seq giveUp)).consumers.get? g.durable).map _
    rw [hrename, Broker.get?_put, Broker.get?_put, if_pos hname.symm]
    exact if_pos hname.symm

theorem handedBy_rename (ρ : Nat → Nat) (hs : List HandOut) :
    handedBy durable (hs.map (HandOut.rename ρ)) = (handedBy durable hs).map (HandOut.rename ρ) := List.filter_map

/-- The durable comes further alike. -/
theorem Renamed.receive (h : Renamed ρ durable x y) {e : Consumer} (hname : e.options.durable = durable)
    (hs : List HandOut) :
    Renamed ρ durable (x.receive (x.broker.put e, hs))
      (y.receive (y.broker.put (e.rename ρ), hs.map (HandOut.rename ρ))) := by
  refine ⟨h.log, h.joined, h.live, h.created, ?_, ?_, ?_⟩
  · show (y.broker.put (e.rename ρ)).consumers.get? durable = ((x.broker.put e).consumers.get? durable).map _
    rw [Broker.get?_put, Broker.get?_put, if_pos hname.symm]
    exact if_pos hname.symm
  · simp only [Course.receive, handedBy_append, handedBy_rename, h.handed, List.map_append]
  · simp only [Course.receive, handedBy_append, handedBy_rename, h.timers, List.map_append]

/-- A timer goes off, and in the other course the one for the member with its name. -/
theorem Renamed.expire (h : Renamed ρ durable x y) (hx : x.Charted) {g : HandOut} (hg : g.durable = durable) :
    Renamed ρ durable (x.step (.expire g)) (y.step (.expire (g.rename ρ))) := by
  subst hg
  have hmem : g.rename ρ ∈ y.timers ↔ g ∈ x.timers := by
    have hiff : g.rename ρ ∈ (handedBy g.durable x.timers).map (HandOut.rename ρ) ↔ g ∈ handedBy g.durable x.timers :=
      mem_rename
    rw [← h.timers, mem_handedBy, mem_handedBy] at hiff
    exact ⟨fun hm => (hiff.1 ⟨hm, rfl⟩).1, fun hm => (hiff.2 ⟨hm, rfl⟩).1⟩
  by_cases hring : g ∈ x.timers
  · have hrung : Renamed ρ g.durable { x with timers := x.timers.erase g }
        { y with timers := y.timers.erase (g.rename ρ) } := by
      refine ⟨h.log, h.joined, h.live, h.created, h.consumer, h.handed, ?_⟩
      rw [handedBy_erase, handedBy_erase, h.timers, List.map_erase (HandOut.rename_injective ρ.injective)]
    have hconsumer : y.broker.consumers.get? (g.rename ρ).durable = _ := h.consumer
    cases hc : x.broker.consumers.get? g.durable with
    | none =>
      rw [hc] at hconsumer
      rw [step_expire_of_none hring hc, step_expire_of_none (hmem.2 hring) hconsumer]
      simpa only [Course.receive, List.append_nil] using hrung
    | some c =>
      rw [hc] at hconsumer
      have hrename : (c.rename ρ).expire y.broker.isLive y.broker.log (g.rename ρ).seq (g.rename ρ).delivery.count =
          Consumer.renamed ρ (c.expire x.broker.isLive x.broker.log g.seq g.delivery.count) := by
        rw [h.log]
        exact Consumer.rename_expire _ (h.members hx hc) _ _
      have hoptions := (Consumer.expire_changes x.broker.isLive x.broker.log c g.seq g.delivery.count).options.1
      rw [step_expire_of_some hring hc, step_expire_of_some (hmem.2 hring) hconsumer, hrename]
      exact hrung.receive ((congrArg _ hoptions).trans (hx.grounded hc).1) _
  · simp only [Course.step]
    rw [if_neg hring, if_neg fun hm => hring (hmem.1 hm)]
    exact h

/-! ## A member joins -/

/-- The names of members that have not joined do not matter. -/
theorem Renamed.congr {σ : Equiv.Perm Nat} (h : Renamed ρ durable x y) (hx : x.Charted)
    (hσ : ∀ member ∈ joinedBy durable x.joins, σ member = ρ member) : Renamed σ durable x y := by
  have hhandOut (hs : List HandOut) (hmine : ∀ g ∈ hs, g.member ∈ joinedBy durable x.joins) :
      hs.map (HandOut.rename ρ) = hs.map (HandOut.rename σ) :=
    List.map_congr_left fun g hg => by rw [HandOut.rename, HandOut.rename, hσ _ (hmine g hg)]
  refine ⟨h.log, h.joined.trans (List.map_congr_left fun i hi => (hσ i hi).symm), fun i hi => ?_, h.created, ?_,
    h.handed.trans (hhandOut _ hx.takers),
    h.timers.trans (hhandOut _ fun g hg => hx.takers g (hx.timers_subset hg))⟩
  · rw [hσ i hi]
    exact h.live i hi
  · rw [h.consumer]
    cases hc : x.broker.consumers.get? durable with
    | none => rfl
    | some c =>
      obtain ⟨hmembers, hpending⟩ := hx.among hc
      have hmembers' : c.members.map ρ = c.members.map σ :=
        List.map_congr_left fun i hi => (hσ i (hmembers i hi)).symm
      have hpending' : c.pending.map (Pending.rename ρ) = c.pending.map (Pending.rename σ) :=
        List.map_congr_left fun p hp => by rw [Pending.rename, Pending.rename, hσ _ (hpending p hp)]
      simp only [Option.map_some, Consumer.rename, hmembers', hpending']

/-- The course with one more member of a durable, to which nothing has been handed out yet. -/
def enroll (x : Course) (subject : String) (options : SubscriptionOptions) : Course :=
  { x with
    broker := x.broker.welcome
    created :=
      if x.broker.consumers.contains options.durable then x.created
      else x.created.insert options.durable ⟨subject, options, x.broker.log.length⟩
    joins := x.joins ++ [(x.broker.joined + 1, options.durable)] }

/-- A durable on another subject refuses members. -/
theorem step_subscribe_of_ne {subject : String} {options : SubscriptionOptions}
    (hc : (x.broker.consumers.get? options.durable).getD (.new subject options x.broker.log.length) = c)
    (hs : c.subject ≠ subject) : x.step (.subscribe subject options) = x := by
  simp only [step, Broker.subscribe, hc, if_neg hs]

/-- A member joins a durable on its subject, and is handed what is there for it. -/
theorem step_subscribe_of_eq {subject : String} {options : SubscriptionOptions}
    (hc : (x.broker.consumers.get? options.durable).getD (.new subject options x.broker.log.length) = c)
    (hs : c.subject = subject) :
    x.step (.subscribe subject options) = (x.enroll subject options).receive
      ((x.enroll subject options).broker.put (c.join x.broker.welcome.isLive x.broker.log (x.broker.joined + 1)).1,
        (c.join x.broker.welcome.isLive x.broker.log (x.broker.joined + 1)).2) := by
  simp only [step, Broker.subscribe, hc, if_pos hs]
  rfl

/-- One more member, with one name in both courses. -/
theorem Renamed.enroll {options : SubscriptionOptions} (h : Renamed ρ options.durable x y) (hx : x.Charted)
    (hy : y.Charted) (hρ : ρ (x.broker.joined + 1) = y.broker.joined + 1) (subject : String) :
    Renamed ρ options.durable (x.enroll subject options) (y.enroll subject options) := by
  refine ⟨h.log, ?_, fun i hi => ?_, ?_, h.consumer, h.handed, h.timers⟩
  · show joinedBy _ (y.joins ++ [(y.broker.joined + 1, options.durable)]) =
      (joinedBy _ (x.joins ++ [(x.broker.joined + 1, options.durable)])).map ρ
    rw [joinedBy_own, joinedBy_own, h.joined, List.map_append, List.map_singleton, hρ]
  · show (y.broker.live ++ [y.broker.joined + 1]).contains (ρ i) = (x.broker.live ++ [x.broker.joined + 1]).contains i
    have hmine : i ∈ joinedBy options.durable (x.joins ++ [(x.broker.joined + 1, options.durable)]) := hi
    rw [joinedBy_own] at hmine
    rcases List.mem_append.1 hmine with hi | hi
    · have hlive : y.broker.live.contains (ρ i) = x.broker.live.contains i := h.live i hi
      have hle := hx.joinedBy_le i hi
      have hle' := hy.joinedBy_le (ρ i) (h.joined ▸ List.mem_map_of_mem hi)
      have hne : i ≠ x.broker.joined + 1 := by omega
      have hne' : ρ i ≠ y.broker.joined + 1 := by omega
      rw [List.contains_append, List.contains_append, hlive]
      simp [hne, hne']
    · rw [List.mem_singleton.1 hi, hρ]
      simp
  · show (if y.broker.consumers.contains options.durable then _ else _ : Rows Creation).get? options.durable =
      (if x.broker.consumers.contains options.durable then _ else _ : Rows Creation).get? options.durable
    have hcontains : y.broker.consumers.contains options.durable = x.broker.consumers.contains options.durable := by
      rw [Rows.contains, h.consumer, Option.isSome_map, Rows.contains]
    rw [hcontains, h.log]
    split
    · exact h.created
    · rw [Rows.get?_insert, Rows.get?_insert, if_pos rfl, if_pos rfl]

/-- The consumer that a member joins. -/
def joining (x : Course) (subject : String) (options : SubscriptionOptions) : Consumer :=
  (x.broker.consumers.get? options.durable).getD (.new subject options x.broker.log.length)

/-- The consumers that are joined are alike. -/
theorem Renamed.joining {options : SubscriptionOptions} (h : Renamed ρ options.durable x y) (subject : String) :
    y.joining subject options = (x.joining subject options).rename ρ := by
  rw [Course.joining, Course.joining, h.consumer, h.log]
  cases x.broker.consumers.get? options.durable <;> rfl

/-- The members of a consumer are those who have joined its durable, with the new one. -/
theorem Charted.joining_members (h : x.Charted) (subject : String) (options : SubscriptionOptions) :
    (x.joining subject options).members ++ [x.broker.joined + 1] ⊆
      joinedBy options.durable (x.enroll subject options).joins := by
  show _ ⊆ joinedBy options.durable (x.joins ++ [(x.broker.joined + 1, options.durable)])
  rw [joinedBy_own, Course.joining]
  refine List.append_subset.2 ⟨fun i hi => List.mem_append_left _ ?_, List.subset_append_right _ _⟩
  cases hget : x.broker.consumers.get? options.durable with
  | none =>
    rw [hget] at hi
    exact absurd hi List.not_mem_nil
  | some d =>
    rw [hget] at hi
    exact (h.among hget).members i hi

/-- After a renaming of the members so far, the new members can have the same name. -/
theorem Renamed.rename_new (h : Renamed ρ durable x y) (hx : x.Charted) (hy : y.Charted) :
    ∃ σ, Renamed σ durable x y ∧ σ (x.broker.joined + 1) = y.broker.joined + 1 := by
  refine ⟨ρ.trans (Equiv.swap (ρ (x.broker.joined + 1)) (y.broker.joined + 1)), h.congr hx fun i hi => ?_,
    Equiv.swap_apply_left _ _⟩
  have hle := hx.joinedBy_le i hi
  have hle' := hy.joinedBy_le (ρ i) (h.joined ▸ List.mem_map_of_mem hi)
  refine Equiv.swap_apply_of_ne_of_ne (fun heq => ?_) fun heq => ?_
  · have hsame := ρ.injective heq
    omega
  · omega

/-- A member joins alike, and the two members have the same name from now on. -/
theorem Renamed.subscribe {options : SubscriptionOptions} (h : Renamed ρ options.durable x y) (hx : x.Charted)
    (hy : y.Charted) (subject : String) :
    ∃ σ, Renamed σ options.durable (x.step (.subscribe subject options)) (y.step (.subscribe subject options)) := by
  obtain ⟨σ, hσ, hnew⟩ := h.rename_new hx hy
  have henrolled := hσ.enroll hx hy hnew subject
  have hc := hσ.joining subject
  by_cases hs : (x.joining subject options).subject = subject
  · have hjoin := Consumer.rename_join σ.injective x.broker.log
      (henrolled.live.subset (hx.joining_members subject options))
    have hname := (hx.join_durable (rfl : x.joining subject options = _) x.broker.welcome.isLive
      (x.broker.joined + 1)).1
    rw [hnew] at hjoin
    have hjoin' : ((x.joining subject options).rename σ).join y.broker.welcome.isLive y.broker.log
          (y.broker.joined + 1) =
        Consumer.renamed σ
          ((x.joining subject options).join x.broker.welcome.isLive x.broker.log (x.broker.joined + 1)) := by
      rw [hσ.log]
      exact hjoin
    rw [step_subscribe_of_eq rfl hs, step_subscribe_of_eq hc hs, hjoin']
    exact ⟨σ, henrolled.receive hname _⟩
  · rw [step_subscribe_of_ne rfl hs, step_subscribe_of_ne hc hs]
    exact ⟨σ, hσ⟩

/-! ## Runs -/

/-- A move that is its business keeps two courses alike to a durable. -/
theorem Renamed.both (h : Renamed ρ durable x y) (hx : x.Charted) (hy : y.Charted) (w w' : Walk) {m : Move}
    (hm : m.concerns durable = true) : ∃ σ, Renamed σ durable (x.moveBy w m) (y.moveBy w' m) := by
  -- what a move names is there in both courses or in neither
  have hmoved {α : Type} (o : Option α) (f f' : α → Request) (hr : m.request? x = o.map f)
      (hr' : m.request? y = o.map f')
      (hsteps : ∀ a, o = some a → ∃ σ, Renamed σ durable (x.step (f a)) (y.step (f' a))) :
      ∃ σ, Renamed σ durable (x.moveBy w m) (y.moveBy w' m) := by
    rw [Course.moveBy, Course.moveBy, hr, hr']
    cases o with
    | none => exact ⟨ρ, h⟩
    | some a =>
      obtain ⟨σ, hstep⟩ := hsteps a rfl
      exact ⟨σ, (hstep.left ((hx.stepBy_alike w _).unaffected durable)).right
        ((hy.stepBy_alike w' _).unaffected durable)⟩
  have hplace (place : Nat) :
      (handedBy durable y.handed)[place]? = (handedBy durable x.handed)[place]?.map (HandOut.rename ρ) := by
    rw [h.handed, List.getElem?_map]
  cases m with
  | publish subject headers payload =>
    exact hmoved (some ()) _ _ rfl rfl fun _ _ => ⟨ρ, h.publish hx hy subject headers payload⟩
  | disconnect => exact hmoved (some ()) _ _ rfl rfl fun _ _ => ⟨ρ, h.disconnect hx hy⟩
  | subscribe subject options =>
    obtain rfl : options.durable = durable := of_decide_eq_true hm
    exact hmoved (some ()) _ _ rfl rfl fun _ _ => h.subscribe hx hy subject
  | drop name place =>
    obtain rfl : name = durable := of_decide_eq_true hm
    refine hmoved (joinedBy name x.joins)[place]? .drop (fun i => .drop (ρ i)) rfl ?_ fun i _ => ⟨ρ, h.drop i⟩
    rw [Move.request?, h.joined, List.getElem?_map, Option.map_map]
    rfl
  | settle name place giveUp =>
    obtain rfl : name = durable := of_decide_eq_true hm
    refine hmoved (handedBy name x.handed)[place]? (fun g => .settle g giveUp) (fun g => .settle (g.rename ρ) giveUp)
      rfl ?_ fun g hg => ⟨ρ, h.settle hx (List.mem_of_getElem? hg) giveUp⟩
    rw [Move.request?, hplace, Option.map_map]
    rfl
  | expire name place =>
    obtain rfl : name = durable := of_decide_eq_true hm
    refine hmoved (handedBy name x.handed)[place]? .expire (fun g => .expire (g.rename ρ))
      rfl ?_ fun g hg => ⟨ρ, h.expire hx (mem_of_place hg).2⟩
    rw [Move.request?, hplace, Option.map_map]
    rfl

/-- The moves of a run that are the business of a durable. -/
def business (durable : String) (steps : List (Walk × Move)) : List Move :=
  (steps.map (·.2)).filter (Move.concerns durable)

theorem business_append (steps steps' : List (Walk × Move)) :
    business durable (steps ++ steps') = business durable steps ++ business durable steps' := by
  rw [business, List.map_append, List.filter_append]
  rfl

/-- A move that is none of its business adds nothing to that of a durable. -/
theorem business_idle {steps : List (Walk × Move)} {s : Walk × Move} (hs : s.2.concerns durable = false) :
    business durable (steps ++ [s]) = business durable steps := by
  rw [business_append, business]
  simp [hs, business]

/-- A move that is the business of a durable is the last one so far. -/
theorem business_own {steps : List (Walk × Move)} {s : Walk × Move} (hs : s.2.concerns durable = true) :
    business durable (steps ++ [s]) = business durable steps ++ [s.2] := by
  rw [business_append]
  simp [hs, business]

/-- Runs with the same business of a durable look alike to it. -/
theorem renamed_runBy {steps steps' : List (Walk × Move)} (h : business durable steps = business durable steps') :
    ∃ ρ, Renamed ρ durable (runBy steps) (runBy steps') := by
  -- the last move of either run is dropped where it is none of the durable's business, and otherwise from both
  induction steps using List.reverseRecOn generalizing steps' with
  | nil =>
    induction steps' using List.reverseRecOn with
    | nil => exact ⟨_, renamed_start durable⟩
    | append_singleton steps' s ih =>
      cases hs : s.2.concerns durable with
      | false =>
        obtain ⟨ρ, hρ⟩ := ih (h.trans (business_idle hs))
        exact ⟨ρ, runBy_snoc steps' s ▸ hρ.right ((charted_runBy steps').unaffected s.1 hs)⟩
      | true =>
        rw [business_own hs] at h
        exact absurd h.symm (List.append_ne_nil_of_right_ne_nil _ (List.cons_ne_nil _ _))
  | append_singleton steps s ih =>
    cases hs : s.2.concerns durable with
    | false =>
      obtain ⟨ρ, hρ⟩ := ih ((business_idle hs).symm.trans h)
      exact ⟨ρ, runBy_snoc steps s ▸ hρ.left ((charted_runBy steps).unaffected s.1 hs)⟩
    | true =>
      induction steps' using List.reverseRecOn with
      | nil =>
        rw [business_own hs] at h
        exact absurd h (List.append_ne_nil_of_right_ne_nil _ (List.cons_ne_nil _ _))
      | append_singleton steps' s' ih' =>
        cases hs' : s'.2.concerns durable with
        | false =>
          obtain ⟨ρ, hρ⟩ := ih' (h.trans (business_idle hs'))
          exact ⟨ρ, runBy_snoc steps' s' ▸ hρ.right ((charted_runBy steps').unaffected s'.1 hs')⟩
        | true =>
          rw [business_own hs, business_own hs'] at h
          obtain ⟨hsteps, hmove⟩ := List.append_inj' h rfl
          obtain ⟨ρ, hρ⟩ := ih hsteps
          obtain ⟨σ, hσ⟩ := hρ.both (charted_runBy steps) (charted_runBy steps') s.1 s'.1 hs
          rw [runBy_snoc, runBy_snoc, ← List.singleton_inj.1 hmove]
          exact ⟨σ, hσ⟩

/-! ## All that is on a subject -/

/-- A durable has handed out every message on its subject from its start on, one after the other. -/
def Supplied (x : Course) (durable : String) (c : Consumer) : Prop :=
  ∃ k, x.created.get? durable = some k ∧ k.subject = c.subject ∧
    ((handedBy durable x.handed).filter fun h => h.delivery.count = 1).map (fun h => (h.seq, h.delivery.payload)) =
      ((x.broker.log.drop k.start).filter fun m => m.subject = c.subject).map fun m => (m.seq, m.payload)

/-- A durable that has members has nothing left to hand out. -/
theorem Charted.supplied (h : x.Charted) (hc : x.broker.consumers.get? durable = some c) (hmembers : c.members ≠ []) :
    x.Supplied durable c := by
  obtain ⟨rfl, k, hk, hreach⟩ := h.seen durable c hc
  have hg := hreach.grounded
  have ha := hreach.accounted
  have horder : firsts (handedBy c.options.durable x.handed) =
      (between x.broker.log c.subject k.start c.cursor).map (·.seq) := ha.order
  -- nothing is left beyond the cursor
  have hrest : (x.broker.log.drop c.cursor).filter (fun m => m.subject = c.subject) = [] := by
    refine List.filter_eq_nil_iff.2 fun m hm heq => ?_
    obtain ⟨i, hi⟩ := List.mem_iff_getElem?.1 hm
    rw [List.getElem?_drop] at hi
    exact hreach.drained hmembers _ m (Nat.le_add_right _ _) hi (of_decide_eq_true heq)
  have hall : between x.broker.log c.subject k.start c.cursor =
      (x.broker.log.drop k.start).filter fun m => m.subject = c.subject := by
    have hlength : (x.broker.log.take c.cursor).length = c.cursor := List.length_take_of_le hg.sound.cursor_le
    have hsplit : x.broker.log.drop k.start =
        (x.broker.log.take c.cursor).drop k.start ++ x.broker.log.drop c.cursor := by
      rw [← List.drop_append_of_le_length (hlength.symm ▸ ha.start_le), List.take_append_drop]
    rw [hsplit, List.filter_append, hrest, List.append_nil]
    rfl
  let brought (seq : Nat) : Nat × Payload := (seq, (x.broker.log[seq - 1]?.elim [] StoredMessage.payload))
  have hkept : ∀ m ∈ x.broker.log, (m.seq, m.payload) = brought m.seq := fun m hm => by
    simp only [brought, h.numbered.getElem? hm, Option.elim_some]
  refine ⟨k, hk, hg.subject.symm, ?_⟩
  rw [← hall]
  calc ((handedBy c.options.durable x.handed).filter fun h => h.delivery.count = 1).map
        (fun h => (h.seq, h.delivery.payload))
      = (firsts (handedBy c.options.durable x.handed)).map brought := by
        rw [firsts, List.map_map]
        refine List.map_congr_left fun g hmem => ?_
        obtain ⟨m, hm, hseq, -, hpayload⟩ := hg.genuine g (List.mem_filter.1 hmem).1
        rw [Function.comp, ← hseq, ← hpayload]
        exact hkept m hm
    _ = (between x.broker.log c.subject k.start c.cursor).map fun m => (m.seq, m.payload) := by
        rw [horder, List.map_map]
        exact List.map_congr_left fun m hm =>
          (hkept m (List.mem_of_mem_take (List.mem_of_mem_drop (List.mem_filter.1 hm).1))).symm

/-- What a durable hands out and holds depends on its own business only, up to the names of its members: neither moves
that are the business of other durables only nor the order of a publication make a difference. And all durables with
members have handed out every message on their subjects from their starts on. -/
theorem durables_independent {steps steps' : List (Walk × Move)}
    (h : business durable steps = business durable steps') :
    (∃ ρ, Renamed ρ durable (runBy steps) (runBy steps')) ∧
      ∀ name c, (runBy steps).broker.consumers.get? name = some c → c.members ≠ [] →
        (runBy steps).Supplied name c :=
  ⟨renamed_runBy h, fun _ _ hc hmembers => (charted_runBy steps).supplied hc hmembers⟩

/-- A durable among others: a message that is not settled in time is handed out again. -/
def crowded : List (Walk × Move) :=
  [(straight, .subscribe "s" ⟨"c", true, 1000, none⟩), (straight, .subscribe "s" ⟨"d", true, 1000, none⟩),
    (straight, .publish "s" [] []), (straight, .settle "c" 0 false), (straight, .drop "c" 0),
    (straight, .publish "s" [] []), (straight, .expire "d" 0)]

/-- The same durable on its own. -/
def alone : List (Walk × Move) :=
  [(straight, .subscribe "s" ⟨"d", true, 1000, none⟩), (reversed, .publish "s" [] []), (straight, .publish "s" [] []),
    (straight, .expire "d" 0), (straight, .drop "c" 0)]

/-- The same deliveries, to the second member of the broker and to the first one. -/
theorem crowded_as_alone :
    business "d" crowded = business "d" alone ∧
      handedBy "d" (runBy crowded).handed = [parcel 1 2 1, parcel 2 2 1, parcel 1 2 2] ∧
      handedBy "d" (runBy alone).handed = [parcel 1 1 1, parcel 2 1 1, parcel 1 1 2] ∧
      ∃ ρ, Renamed ρ "d" (runBy crowded) (runBy alone) := by
  have h : business "d" crowded = business "d" alone := by decide
  exact ⟨h, by decide +kernel, by decide +kernel, (durables_independent h).1⟩

end Course

end Forum.Memory
