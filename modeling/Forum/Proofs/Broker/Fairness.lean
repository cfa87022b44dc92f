import Mathlib.Data.List.Rotate
import Forum.Proofs.Broker.Independence
import Forum.Proofs.Broker.Turns

/-!
# Members share fairly

Every request to a broker is a number of turns of a durable (`Charted.turned`): some members are found gone, and then
messages are handed out in turn to those that are left. So the turn that a durable has come to tells how many turns it
has taken since it was made, up to the size of the counter (`turn_eq`), and as long as its members stay the same it goes
round among them (`Steady.takers`). Nobody is found gone who has not joined before, so that turns are no more than
hand-outs and members (`turns_le`). `members_share_fairly` puts this together with what is known of a single offer.
-/

namespace Forum.Memory

/-! ## Members of their own -/

namespace Consumer

variable {live : Nat → Bool} {log : List StoredMessage} {c d : Consumer} {hs : List HandOut}

/-- Members leave, and keep their order. -/
theorem Changes.members_sublist (h : Changes live log c hs d) : d.members.Sublist c.members := by
  induction h with
  | refl c => exact .refl _
  | head h _ ih =>
    refine ih.trans ?_
    cases h with
    | turn _ _ hleaves => exact hleaves.sublist
    | skip _ _ => exact .refl _
    | first _ _ _ _ => exact .refl _
    | again _ _ _ _ _ => exact .refl _
    | exhaust _ _ => exact .refl _

@[simp] theorem settle_members (c : Consumer) (seq : Nat) (giveUp : Bool) :
    (c.settle seq giveUp).members = c.members := by
  unfold Consumer.settle
  split <;> rfl

@[simp] theorem settle_turn (c : Consumer) (seq : Nat) (giveUp : Bool) : (c.settle seq giveUp).turn = c.turn := by
  unfold Consumer.settle
  split <;> rfl

end Consumer

namespace Sight

variable {k : Creation} {v w : Sight}

/-- Members leave, or one joins that has not been there yet. -/
theorem Step.members (hg : Grounded k v) (h : Step v w) :
    w.consumer.members.Sublist v.consumer.members ∧ w.ours = v.ours ∨
      w.consumer.members.Sublist (v.consumer.members ++ [v.joined + 1]) ∧ w.ours = v.ours ++ [v.joined + 1] := by
  cases h with
  | logged _ _ _ => exact .inl ⟨.refl _, rfl⟩
  | published _ _ _ => exact .inl ⟨(Consumer.pump_changes _ _ _).members_sublist, rfl⟩
  | welcomed => exact .inl ⟨.refl _, rfl⟩
  | joined => exact .inr ⟨hg.join_changes.members_sublist.trans (List.filter_sublist.append (.refl _)), rfl⟩
  | disconnected => exact .inl ⟨List.nil_sublist _, rfl⟩
  | dropped _ => exact .inl ⟨.refl _, rfl⟩
  | settled g _ giveUp =>
    refine .inl ⟨?_, rfl⟩
    show (v.consumer.settle g.seq giveUp).members.Sublist _
    rw [Consumer.settle_members]
  | expired g _ => exact .inl ⟨(Consumer.expire_changes _ _ _ _ _).members_sublist, rfl⟩

/-- No member is there twice. -/
theorem Reachable.members_nodup (h : Reachable k v) : v.consumer.members.Nodup := by
  induction h with
  | made _ _ _ => exact .nil
  | @step v w h hstep ih =>
    have hg := h.grounded
    rcases hstep.members hg with ⟨hsub, -⟩ | ⟨hsub, -⟩
    · exact hsub.nodup ih
    · refine hsub.nodup (List.nodup_append.2 ⟨ih, List.nodup_singleton _, ?_⟩)
      rintro member hm _ hnew rfl
      have hle := hg.ours_le _ (hg.among.members _ hm)
      rw [List.mem_singleton.1 hnew] at hle
      exact Nat.not_succ_le_self _ hle

/-- There are more members only where more have joined. -/
theorem members_le (hg : Grounded k v) (h : Relation.ReflGen Step v w) :
    w.consumer.members.length + v.ours.length ≤ v.consumer.members.length + w.ours.length := by
  cases h with
  | refl => exact Nat.le_refl _
  | single hstep =>
    rcases hstep.members hg with ⟨hsub, hours⟩ | ⟨hsub, hours⟩
    · rw [hours]
      exact Nat.add_le_add_right hsub.length_le _
    · have hlength := hsub.length_le
      rw [List.length_append, List.length_singleton] at hlength
      rw [hours, List.length_append, List.length_singleton]
      omega

end Sight

namespace Course

open Consumer

variable {x y z : Course} {c d : Consumer} {durable : String} {hs hs' : List HandOut} {n : Nat}

/-! ## Turns of a durable -/

/-- The members of a durable. -/
def members (x : Course) (durable : String) : List Nat :=
  ((x.broker.consumers.get? durable).map Consumer.members).getD []

/-- The turn that a durable has come to. -/
def turn (x : Course) (durable : String) : UInt64 :=
  ((x.broker.consumers.get? durable).map Consumer.turn).getD 0

/-- How many members a durable loses. -/
def lost (durable : String) (x y : Course) : Nat := (x.members durable).length - (y.members durable).length

/-- How many members are found gone when their turns come. Those that are missing when another one joins, and those that
the broker parts from, have had no turns. -/
def missed (x : Course) (durable : String) (r : Request) : Nat :=
  match r with
  | .publish _ _ _ | .expire _ => lost durable x (x.step r)
  | .subscribe _ _ | .disconnect | .drop _ | .settle _ _ => 0

/-- How many members are found gone in the course of requests. -/
def missedIn (durable : String) : Course → List Request → Nat
  | _, [] => 0
  | x, r :: rs => x.missed durable r + missedIn durable (x.step r) rs

/-- How many turns a durable has taken in a run: it has handed out a message in each of them, or found a member gone to
which it meant to hand one out. -/
def turns (durable : String) (rs : List Request) : Nat :=
  (handedBy durable (run rs).handed).length + missedIn durable start rs

/-- A durable has found members gone, and then handed out messages in turn. -/
structure Turned (durable : String) (x y : Course) (missed : Nat) (hs : List HandOut) : Prop where
  handed : handedBy durable y.handed = handedBy durable x.handed ++ hs
  turn : y.turn durable = x.turn durable + UInt64.ofNat missed + UInt64.ofNat hs.length
  takers : InTurn (y.members durable) (x.turn durable + UInt64.ofNat missed) hs

theorem members_of_get? (hc : x.broker.consumers.get? durable = some c) : x.members durable = c.members := by
  rw [members, hc]
  rfl

theorem turn_of_get? (hc : x.broker.consumers.get? durable = some c) : x.turn durable = c.turn := by
  rw [turn, hc]
  rfl

/-- A durable is left alone. -/
theorem turned_nothing (hturn : y.turn durable = x.turn durable)
    (hhanded : handedBy durable y.handed = handedBy durable x.handed) : Turned durable x y 0 [] where
  handed := hhanded.trans (List.append_nil _).symm
  turn := by
    rw [hturn, turn_add]
    exact (UInt64.add_zero _).symm
  takers := inTurn_nil _ _

/-- What leaves a durable alone takes no turn of it. -/
theorem turned_of_get? (hget : y.broker.consumers.get? durable = x.broker.consumers.get? durable)
    (hhanded : handedBy durable y.handed = handedBy durable x.handed) : Turned durable x y 0 [] := by
  refine turned_nothing ?_ hhanded
  rw [Course.turn, hget]
  rfl

/-- The turns that a durable takes are those of its consumer. -/
theorem turned_of_took (hturn : x.turn durable = c.turn) (hy : y.broker.consumers.get? durable = some d)
    (hhanded : handedBy durable y.handed = handedBy durable x.handed ++ hs) (h : Took c n hs d) :
    Turned durable x y n hs where
  handed := hhanded
  turn := by
    rw [turn_of_get? hy, hturn]
    exact h.turn
  takers := by
    rw [members_of_get? hy, hturn]
    exact h.takers

/-- A consumer comes further, and is put in its place. -/
theorem turned_of_put {b : Broker} (hturn : x.turn durable = c.turn) (hbroker : y.broker = b.put d)
    (hd : d.options.durable = durable) (hhanded : y.handed = x.handed ++ hs) (hhs : ∀ h ∈ hs, h.durable = durable)
    (h : Took c n hs d) : Turned durable x y n hs := by
  refine turned_of_took hturn ?_ ?_ h
  · rw [hbroker, Broker.get?_put, if_pos hd.symm]
  · rw [hhanded, handedBy_append, handedBy_own hhs]

/-- Turns go on where the members stay the same. -/
theorem Turned.trans (h : Turned durable x y n hs) (h' : Turned durable y z 0 hs')
    (hmembers : z.members durable = y.members durable) : Turned durable x z n (hs ++ hs') where
  handed := by rw [h'.handed, h.handed, List.append_assoc]
  turn := by
    rw [h'.turn, h.turn, List.length_append]
    simp only [turn_add, Nat.add_zero, Nat.add_assoc]
  takers := by
    have htakers := h'.takers
    rw [h.turn] at htakers
    rw [hmembers] at htakers ⊢
    refine h.takers.append ?_
    simpa only [turn_add, Nat.add_zero] using htakers

/-! ## What a request is for a durable -/

/-- What leaves a durable alone takes no turn, whether the durable is there or not. -/
theorem turned_idle (hget : y.broker.consumers.get? durable = x.broker.consumers.get? durable)
    (hhanded : handedBy durable y.handed = handedBy durable x.handed) :
    ∃ hs, Turned durable x y (lost durable x y) hs := by
  rw [lost, members, members, hget, Nat.sub_self]
  exact ⟨[], turned_of_get? hget hhanded⟩

theorem lost_of_took (h : Took c n hs d) (hc : x.broker.consumers.get? durable = some c)
    (hd : y.broker.consumers.get? durable = some d) : lost durable x y = n := by
  rw [lost, members_of_get? hc, members_of_get? hd]
  exact h.missed_eq

/-- The turns that a durable takes when a message is published. -/
theorem turned_publish (h : x.Charted) (subject : String) (headers : Headers) (payload : Payload) (durable : String) :
    ∃ hs, Turned durable x (x.step (.publish subject headers payload))
      (lost durable x (x.step (.publish subject headers payload))) hs := by
  have hget : (x.step (.publish subject headers payload)).broker.consumers.get? durable = _ :=
    Broker.get?_publish h.seen subject headers payload durable
  have hhs := Broker.handedBy_publish h.seen subject headers payload durable
  have hhanded : handedBy durable (x.step (.publish subject headers payload)).handed = handedBy durable x.handed ++ _ :=
    handedBy_append
  rw [hhs] at hhanded
  cases hc : x.broker.consumers.get? durable with
  | none =>
    rw [hc] at hget hhanded
    exact turned_idle (hget.trans hc.symm) (hhanded.trans (List.append_nil _))
  | some c =>
    rw [hc, Option.map_some] at hget
    rw [hc, Option.elim_some] at hhanded
    by_cases hs : c.subject = subject
    · rw [if_pos hs] at hget hhanded
      obtain ⟨hname, k, -, hreach⟩ := h.seen durable c hc
      rw [hname] at hreach
      obtain ⟨n, htook⟩ := pump_took x.broker.isLive hreach.grounded.sound.cursor_le hreach.drained
        (m := ⟨x.broker.log.length + 1, subject, headers, payload⟩) hs.symm
      exact ⟨_, lost_of_took htook hc hget ▸ turned_of_took (turn_of_get? hc) hget hhanded htook⟩
    · rw [if_neg hs] at hget hhanded
      exact turned_idle (hget.trans hc.symm) (hhanded.trans (List.append_nil _))

/-- What leaves a durable alone takes none of its turns. -/
theorem Unaffected.turned (h : Unaffected durable x y) : Turned durable x y 0 [] := turned_of_get? h.consumer h.handed

/-- The turns that a durable takes when a member joins, none of which passes a member over. -/
theorem turned_subscribe (h : x.Charted) (subject : String) (options : SubscriptionOptions) (durable : String) :
    ∃ hs, Turned durable x (x.step (.subscribe subject options)) 0 hs := by
  by_cases hd : durable = options.durable
  · subst hd
    simp only [step]
    cases hsub : x.broker.subscribe subject options with
    | error e => exact ⟨[], turned_of_get? rfl rfl⟩
    | ok result =>
      obtain ⟨member, b, hs⟩ := result
      obtain ⟨c, hc, -, rfl, rfl, rfl⟩ := Broker.subscribe_eq_ok hsub
      obtain ⟨hname, hhs⟩ := h.join_durable hc x.broker.welcome.isLive (x.broker.joined + 1)
      have hturn : x.turn options.durable = c.turn := by
        rw [turn, ← hc]
        cases x.broker.consumers.get? options.durable <;> rfl
      have hlive : x.broker.welcome.isLive (x.broker.joined + 1) = true :=
        List.contains_iff_mem.2 (List.mem_append_right _ (List.mem_singleton.2 rfl))
      exact ⟨_, turned_of_put (c := c.enter _ _) hturn rfl hname rfl hhs (join_took hlive)⟩
  · exact ⟨[], (h.unaffected_subscribe subject hd).turned⟩

/-- No turn is taken when the broker parts from all members. -/
theorem turned_disconnect (h : x.Charted) (durable : String) : Turned durable x (x.step .disconnect) 0 [] := by
  refine turned_nothing ?_ rfl
  have hget : (x.step .disconnect).broker.consumers.get? durable = _ := Broker.get?_disconnectAll h.seen durable
  rw [turn, turn, hget]
  cases x.broker.consumers.get? durable <;> rfl

/-- No turn is taken when a message is settled. -/
theorem turned_settle (h : x.Charted) (g : HandOut) (giveUp : Bool) (durable : String) :
    Turned durable x (x.step (.settle g giveUp)) 0 [] := by
  by_cases hg : g ∈ x.handed
  · by_cases hd : durable = g.durable
    · subst hd
      cases hc : x.broker.consumers.get? g.durable with
      | none =>
        rw [step_settle_of_none hc]
        exact turned_of_get? rfl rfl
      | some c =>
        obtain ⟨acked, hstep⟩ := step_settle_of_some hg hc giveUp
        have hname := (congrArg SubscriptionOptions.durable (settle_options c g.seq giveUp)).trans (h.grounded hc).1
        rw [hstep]
        exact turned_of_put (turn_of_get? hc) rfl hname (List.append_nil _).symm (fun _ h => absurd h List.not_mem_nil)
          (took_nothing (settle_members c g.seq giveUp) (settle_turn c g.seq giveUp))
    · exact (h.unaffected_settle hg hd giveUp).turned
  · rw [show x.step (.settle g giveUp) = x from if_neg hg]
    exact turned_of_get? rfl rfl

/-- The timer of one of its own deliveries goes off. -/
theorem turned_ring (h : x.Charted) {g : HandOut} (hg : g ∈ x.timers)
    (hc : x.broker.consumers.get? g.durable = some c) :
    ∃ hs, Turned g.durable x (x.step (.expire g)) (lost g.durable x (x.step (.expire g))) hs := by
  have hstep := step_expire_of_some hg hc
  obtain ⟨hoptions, hhs⟩ := (expire_changes x.broker.isLive x.broker.log c g.seq g.delivery.count).options
  have hname := (congrArg SubscriptionOptions.durable hoptions).trans (h.grounded hc).1
  rw [(h.grounded hc).1] at hhs
  have hget : (x.step (.expire g)).broker.consumers.get? g.durable =
      some (c.expire x.broker.isLive x.broker.log g.seq g.delivery.count).1 := by
    rw [hstep]
    exact (Broker.get?_put _ _ _).trans (if_pos hname.symm)
  obtain ⟨n, htook⟩ := expire_took x.broker.isLive x.broker.log c g.seq g.delivery.count
  rw [lost_of_took htook hc hget, hstep]
  exact ⟨_, turned_of_put (turn_of_get? hc) rfl hname rfl hhs htook⟩

/-- The turns that a durable takes when a timer goes off. -/
theorem turned_expire (h : x.Charted) (g : HandOut) (durable : String) :
    ∃ hs, Turned durable x (x.step (.expire g)) (lost durable x (x.step (.expire g))) hs := by
  by_cases hd : durable = g.durable
  · subst hd
    by_cases hg : g ∈ x.timers
    · cases hc : x.broker.consumers.get? g.durable with
      | none =>
        rw [step_expire_of_none hg hc]
        exact turned_idle rfl (congrArg _ (List.append_nil _))
      | some c => exact turned_ring h hg hc
    · rw [show x.step (.expire g) = x from if_neg hg]
      exact turned_idle rfl rfl
  · have hapart := h.unaffected_expire (g := g) hd
    exact turned_idle hapart.consumer hapart.handed

/-- Whatever a request is, the durable has found members gone and then handed out in turn. -/
theorem Charted.turned (h : x.Charted) (durable : String) (r : Request) :
    ∃ hs, Turned durable x (x.step r) (x.missed durable r) hs := by
  cases r with
  | publish subject headers payload => exact turned_publish h subject headers payload durable
  | subscribe subject options => exact turned_subscribe h subject options durable
  | disconnect => exact ⟨[], turned_disconnect h durable⟩
  | drop member => exact ⟨[], turned_of_get? rfl rfl⟩
  | settle g giveUp => exact ⟨[], turned_settle h g giveUp durable⟩
  | expire g => exact turned_expire h g durable

/-! ## Turns of a run -/

/-- The members passed over in one run after the other. -/
theorem missedIn_append (x : Course) (rs rs' : List Request) :
    missedIn durable x (rs ++ rs') = missedIn durable x rs + missedIn durable (x.after rs) rs' := by
  induction rs generalizing x with
  | nil => exact (Nat.zero_add _).symm
  | cons r rs ih =>
    rw [List.cons_append, missedIn, missedIn, ih, Nat.add_assoc]
    rfl

/-- A durable starts from its first turn, and takes one after the other. -/
theorem turn_eq (rs : List Request) : (run rs).turn durable = UInt64.ofNat (turns durable rs) := by
  induction rs using List.reverseRecOn with
  | nil => rfl
  | append_singleton rs r ih =>
    obtain ⟨hs, h⟩ := (charted_run rs).turned durable r
    have hlength := congrArg List.length h.handed
    rw [List.length_append] at hlength
    have hturns : turns durable (rs ++ [r]) = turns durable rs + ((run rs).missed durable r + hs.length) := by
      show (handedBy durable (run (rs ++ [r])).handed).length + _ = _
      rw [run_append, missedIn_append]
      show (handedBy durable ((run rs).step r).handed).length + (_ + ((run rs).missed durable r + 0)) = _
      unfold turns
      omega
    rw [hturns, run_append]
    show ((run rs).step r).turn durable = _
    rw [h.turn, ih, turn_add, ← UInt64.ofNat_add]

theorem members_of_none (hc : x.broker.consumers.get? durable = none) : x.members durable = [] := by
  rw [members, hc]
  rfl

/-- A durable gets members only as they join it. -/
theorem Outcome.members_le (h : Outcome x y durable) (hx : x.Charted) :
    (y.members durable).length + (joinedBy durable x.joins).length ≤
      (x.members durable).length + (joinedBy durable y.joins).length := by
  cases h with
  | absent hnone hnone' hpast =>
    have hjoined : joinedBy durable y.joins = joinedBy durable x.joins := congrArg (fun past => past.2.2.2) hpast
    rw [members_of_none hnone, members_of_none hnone', hjoined]
  | made k c hnone hc _ _ hkept hstep =>
    have hjoined : joinedBy durable x.joins = [] := congrArg (fun past => past.2.2.2) (hx.absent durable hnone)
    rw [members_of_none hnone, members_of_get? hc, hjoined]
    exact Sight.members_le (Sight.grounded_made hx.numbered hkept hx.live_le) (.single hstep)
  | seen c c' hc hc' _ _ hstep =>
    obtain ⟨-, k, -, hg⟩ := hx.grounded hc
    rw [members_of_get? hc, members_of_get? hc']
    exact Sight.members_le hg hstep

/-- Whoever is found gone has joined before. -/
theorem missed_le (hx : x.Charted) (durable : String) (r : Request) :
    x.missed durable r + ((x.step r).members durable).length + (joinedBy durable x.joins).length ≤
      (x.members durable).length + (joinedBy durable (x.step r).joins).length := by
  have hle := (hx.outcome r durable).members_le hx
  cases r with
  | publish subject headers payload =>
    have hjoins : (x.step (.publish subject headers payload)).joins = x.joins := rfl
    rw [hjoins] at hle ⊢
    simp only [missed, lost]
    omega
  | expire g =>
    have hjoins : (x.step (.expire g)).joins = x.joins := by
      simp only [step]
      split <;> rfl
    rw [hjoins] at hle ⊢
    simp only [missed, lost]
    omega
  | _ =>
    simp only [missed]
    omega

/-- No more members are passed over in a run than were there or have joined, and are not there any more. -/
theorem missedIn_le (hx : x.Charted) (durable : String) (rs : List Request) :
    missedIn durable x rs + ((x.after rs).members durable).length + (joinedBy durable x.joins).length ≤
      (x.members durable).length + (joinedBy durable (x.after rs).joins).length := by
  induction rs generalizing x with
  | nil =>
    show 0 + (x.members durable).length + _ ≤ _
    rw [Nat.zero_add]
    exact Nat.le_refl _
  | cons r rs ih =>
    have hrest := ih (hx.step r)
    have hfirst := missed_le hx durable r
    show x.missed durable r + missedIn durable (x.step r) rs + (((x.step r).after rs).members durable).length + _ ≤
      _ + (joinedBy durable ((x.step r).after rs).joins).length
    omega

/-- There are no more turns than there are hand-outs and members that have joined. -/
theorem turns_le (rs : List Request) :
    turns durable rs ≤ (handedBy durable (run rs).handed).length + (joinedBy durable (run rs).joins).length := by
  have hle := missedIn_le charted_start durable rs
  have hnobody : (start.members durable).length = 0 := rfl
  have hmissed : missedIn durable start rs ≤ (joinedBy durable (run rs).joins).length := by
    unfold run
    omega
  exact Nat.add_le_add_left hmissed _

/-! ## While the members stay the same -/

/-- After each of the requests the durable has these members. -/
def Steady (durable : String) (members : List Nat) : Course → List Request → Prop
  | _, [] => True
  | x, r :: rs => (x.step r).members durable = members ∧ Steady durable members (x.step r) rs

instance decidableSteady (durable : String) (members : List Nat) :
    (x : Course) → (rs : List Request) → Decidable (Steady durable members x rs)
  | _, [] => .isTrue trivial
  | x, r :: rs =>
    have := decidableSteady durable members (x.step r) rs
    inferInstanceAs (Decidable (_ ∧ _))

/-- What a durable hands out in the course of requests. -/
def handedSince (durable : String) (x : Course) (rs : List Request) : List HandOut :=
  (handedBy durable (x.after rs).handed).drop (handedBy durable x.handed).length

theorem Turned.handedSince {rs : List Request} (h : Turned durable x (x.after rs) n hs) :
    handedSince durable x rs = hs := by
  rw [Course.handedSince, h.handed, List.drop_left]

/-- Where the members stay, none is passed over. -/
theorem missed_eq_zero {r : Request} (h : (x.step r).members durable = x.members durable) :
    x.missed durable r = 0 := by
  unfold missed
  split
  · rw [lost, h, Nat.sub_self]
  · rw [lost, h, Nat.sub_self]
  all_goals rfl

variable {members : List Nat}

/-- Requests that leave the members as they are go round among them. -/
theorem Steady.go_round {rs : List Request} (h : Steady durable members x rs) (hx : x.Charted)
    (hmembers : x.members durable = members) :
    ∃ hs, Turned durable x (x.after rs) 0 hs ∧ (x.after rs).members durable = members := by
  induction rs generalizing x with
  | nil => exact ⟨[], turned_nothing rfl rfl, hmembers⟩
  | cons r rs ih =>
    obtain ⟨hstep, hrest⟩ := h
    obtain ⟨hs, hturned⟩ := hx.turned durable r
    rw [missed_eq_zero (hstep.trans hmembers.symm)] at hturned
    obtain ⟨hs', hturned', hlast⟩ := ih hrest (hx.step r) hstep
    exact ⟨hs ++ hs', hturned.trans hturned' (hlast.trans hstep.symm), hlast⟩

/-- The request from which on the members stay the same may be the one that has made them what they are. -/
theorem Steady.turned {r : Request} {rs : List Request} (h : Steady durable members x (r :: rs)) (hx : x.Charted) :
    ∃ hs, Turned durable x (x.after (r :: rs)) (x.missed durable r) hs ∧
      (x.after (r :: rs)).members durable = members := by
  obtain ⟨hs, hturned⟩ := hx.turned durable r
  obtain ⟨hs', hturned', hlast⟩ := h.2.go_round (hx.step r) h.1
  exact ⟨hs ++ hs', hturned.trans hturned' (hlast.trans h.1.symm), hlast⟩

/-- Before the counter is through, hand-outs go round from the turn that the durable has come to. -/
theorem Steady.takers {before : List Request} {r : Request} {rs : List Request}
    (h : Steady durable members (run before) (r :: rs)) (hturns : turns durable (before ++ r :: rs) ≤ UInt64.size) :
    ∀ i g, (handedSince durable (run before) (r :: rs))[i]? = some g →
      members[(turns durable before + (run before).missed durable r + i) % members.length]? = some g.member := by
  obtain ⟨hs, hturned, hlast⟩ := h.turned (charted_run before)
  rw [hturned.handedSince]
  intro i g hg
  have htaker := hturned.takers i g hg
  rw [hlast, turn_eq, turn_add, ← UInt64.ofNat_add, ← Nat.add_assoc] at htaker
  have hi : i < hs.length := (List.getElem?_eq_some_iff.1 hg).1
  -- the counter is not through with its values, so that its value is the number of turns
  have hlt : turns durable before + (run before).missed durable r + i < UInt64.size := by
    have hlength := congrArg List.length hturned.handed
    rw [List.length_append] at hlength
    unfold turns at hturns ⊢
    rw [run_append, missedIn_append] at hturns
    have hmissed : (run before).missed durable r ≤ missedIn durable (start.after before) (r :: rs) :=
      Nat.le_add_right _ _
    omega
  rwa [UInt64.toNat_ofNat', Nat.mod_eq_of_lt hlt] at htaker

/-- Where hand-outs go round, as many of them in a row as there are members are one for each. -/
theorem perm_of_takers {first : Nat}
    (htakers : ∀ i g, hs[i]? = some g → members[(first + i) % members.length]? = some g.member)
    (hsub : hs' <:+: hs) (hlength : hs'.length = members.length) : (hs'.map (·.member)).Perm members := by
  obtain ⟨s, t, rfl⟩ := hsub
  -- they go round once, beginning with whoever is next after those before them
  have hrotate : hs'.map (·.member) = members.rotate (first + s.length) := by
    apply List.ext_getElem?
    intro i
    rcases Nat.lt_or_ge i hs'.length with hi | hi
    · have hg : (s ++ hs' ++ t)[s.length + i]? = some hs'[i] := by
        rw [List.append_assoc, List.getElem?_append_right (Nat.le_add_right _ _), Nat.add_sub_cancel_left,
          List.getElem?_append_left hi, List.getElem?_eq_getElem hi]
      rw [List.getElem?_rotate (hlength ▸ hi), List.getElem?_map, List.getElem?_eq_getElem hi, Option.map_some,
        ← htakers _ _ hg, Nat.add_comm i, Nat.add_assoc]
    · rw [List.getElem?_eq_none (by rwa [List.length_map]),
        List.getElem?_eq_none (by rwa [List.length_rotate, ← hlength])]
  rw [hrotate]
  exact List.rotate_perm members _

/-- No member is twice in a durable. -/
theorem members_nodup (rs : List Request) : ((run rs).members durable).Nodup := by
  cases hc : (run rs).broker.consumers.get? durable with
  | none =>
    rw [members, hc]
    exact .nil
  | some c =>
    obtain ⟨k, -, hreach⟩ := reachable_run rs hc
    rw [members_of_get? hc]
    exact hreach.members_nodup

/-- Members share fairly. While the members of a durable stay the same, as many hand-outs in a row as there are members
go to different ones, as long as there have not been more turns than the counter has values; and of those there are no
more than hand-outs and members that have joined. An offer gets to a live member whenever there is one. -/
theorem members_share_fairly {before window : List Request} (hsteady : Steady durable members (run before) window)
    (hturns : turns durable (before ++ window) ≤ UInt64.size) :
    (∀ hs, hs <:+: handedSince durable (run before) window → hs.length = members.length →
      (hs.map (·.member)).Nodup ∧ (hs.map (·.member)).Perm members) ∧
    turns durable (before ++ window) ≤ (handedBy durable (run (before ++ window)).handed).length +
      (joinedBy durable (run (before ++ window)).joins).length ∧
    ∀ live c m count, Served live c m count (c.offer live m count) := by
  refine ⟨fun hs hsub hlength => ?_, turns_le _, offer_served⟩
  cases window with
  | nil =>
    have hnothing : handedSince durable (run before) [] = [] := List.drop_length
    obtain rfl := List.infix_nil.1 (hnothing ▸ hsub)
    obtain rfl := List.eq_nil_of_length_eq_zero hlength.symm
    exact ⟨.nil, .refl _⟩
  | cons r rs =>
    have hperm := perm_of_takers (hsteady.takers hturns) hsub hlength
    obtain ⟨-, -, hlast⟩ := hsteady.turned (charted_run before)
    rw [← run_append] at hlast
    exact ⟨hperm.nodup_iff.2 (hlast ▸ members_nodup _), hperm⟩

/-- A member leaves, and so is found gone in the course of the next publication. -/
def departed : List Request :=
  [.subscribe "s" ⟨"d", true, 1000, none⟩, .subscribe "s" ⟨"d", true, 1000, none⟩, .drop 1, .publish "s" [] []]

/-- Another one joins, and there are two publications and two timers that go off. -/
def shared : List Request :=
  [.subscribe "s" ⟨"d", true, 1000, none⟩, .publish "s" [] [], .publish "s" [] [], .expire (parcel 1 2 1),
    .expire (parcel 2 2 1)]

/-- Four deliveries go to the two members that are left, in turn. -/
theorem shared_fairly :
    (handedSince "d" (run departed) shared).map (·.member) = [2, 3, 2, 3] ∧ turns "d" (departed ++ shared) = 6 ∧
      ∀ hs, hs <:+: handedSince "d" (run departed) shared → hs.length = 2 → (hs.map (·.member)).Nodup := by
  refine ⟨by decide +kernel, by decide +kernel, fun hs hsub hlength => ?_⟩
  have hsteady : Steady "d" [2, 3] (run departed) shared := by decide +kernel
  have hturns : turns "d" (departed ++ shared) ≤ UInt64.size := by decide +kernel
  exact ((members_share_fairly hsteady hturns).1 hs hsub hlength).1

end Course

end Forum.Memory
