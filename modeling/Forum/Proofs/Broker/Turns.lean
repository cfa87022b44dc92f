import Mathlib.Data.List.Perm.Basic
import Forum.Proofs.Broker.Deliveries

/-!
# Turns

A consumer counts turns. In each of them one member is met: it takes a message if it is live, and is left out if it is
not (`passed`). So the turn tells who takes which message (`Took`), as long as nobody is left out between the first of
the messages and the last. That is so where at most one message is handed out, after a publication (`pump_took`) and
when a timer goes off (`expire_took`), and where only live members are there, when one has just joined (`join_took`).

A single offer gets to a live member whenever there is one (`offer_served`).
-/

namespace Forum.Memory.Consumer

variable {live : Nat → Bool} {log : List StoredMessage} {c d e : Consumer} {hs hs' : List HandOut} {n : Nat}

/-! ## One choice -/

/-- The members whose turns come before that of a live one. -/
def passed (live : Nat → Bool) (members : List Nat) (turn : UInt64) : List Nat :=
  if h : members = [] then []
  else
    have : turn.toNat % members.length < members.length := Nat.mod_lt _ (List.length_pos_iff.2 h)
    let i := turn.toNat % members.length
    if live members[i] then [] else members[i] :: passed live (members.eraseIdx i) (turn + 1)
termination_by members.length
decreasing_by
  rw [List.length_eraseIdx_of_lt this]
  omega

theorem passed_of_live {members : List Nat} {turn : UInt64}
    (h : turn.toNat % members.length < members.length) (hl : live members[turn.toNat % members.length] = true) :
    passed live members turn = [] := by
  have hne : members ≠ [] := List.ne_nil_of_length_pos (Nat.lt_of_le_of_lt (Nat.zero_le _) h)
  rw [passed, dif_neg hne]
  exact if_pos hl

theorem passed_of_not_live {members : List Nat} {turn : UInt64}
    (h : turn.toNat % members.length < members.length) (hl : ¬live members[turn.toNat % members.length] = true) :
    passed live members turn = members[turn.toNat % members.length] ::
      passed live (members.eraseIdx (turn.toNat % members.length)) (turn + 1) := by
  have hne : members ≠ [] := List.ne_nil_of_length_pos (Nat.lt_of_le_of_lt (Nat.zero_le _) h)
  rw [passed, dif_neg hne]
  exact if_neg hl

theorem passed_of_all_live {members : List Nat} (turn : UInt64) (h : ∀ member ∈ members, live member = true) :
    passed live members turn = [] := by
  by_cases hne : members = []
  · rw [passed, dif_pos hne]
  · exact passed_of_live (Nat.mod_lt _ (List.length_pos_iff.2 hne)) (h _ (List.getElem_mem _))

theorem turn_add (turn : UInt64) (j k : Nat) :
    turn + UInt64.ofNat j + UInt64.ofNat k = turn + UInt64.ofNat (j + k) := by
  rw [UInt64.add_assoc, UInt64.ofNat_add]

theorem turn_succ (turn : UInt64) (k : Nat) : turn + 1 + UInt64.ofNat k = turn + UInt64.ofNat (k + 1) := by
  rw [Nat.add_comm k 1]
  exact turn_add turn 1 k

/-- What a choice comes to: the members that were passed are left out, and then the turn is that of the member that is
chosen. -/
structure Chosen (live : Nat → Bool) (members : List Nat) (turn : UInt64)
    (result : Option Nat × List Nat × UInt64) : Prop where
  gone : ∀ member ∈ passed live members turn, live member = false
  left : (passed live members turn ++ result.2.1).Perm members
  nobody : result.1 = none → result.2.2 = turn + UInt64.ofNat (passed live members turn).length
  taker : ∀ member, result.1 = some member →
    result.2.1[(turn + UInt64.ofNat (passed live members turn).length).toNat % result.2.1.length]? = some member ∧
      result.2.2 = turn + UInt64.ofNat ((passed live members turn).length + 1)

theorem choose_chosen (live : Nat → Bool) (members : List Nat) (turn : UInt64) :
    Chosen live members turn (choose live members turn) := by
  induction members, turn using choose.induct live with
  | case1 turn =>
    have hpassed : passed live [] turn = [] := by rw [passed, dif_pos rfl]
    rw [choose, dif_pos rfl]
    refine ⟨fun _ h => ?_, ?_, fun _ => ?_, fun _ h => absurd h (Option.some_ne_none _).symm⟩
    · rw [hpassed] at h
      exact absurd h List.not_mem_nil
    · rw [hpassed]
      exact .refl _
    · rw [hpassed]
      exact (UInt64.add_zero turn).symm
  | case2 members turn _ h _ hl =>
    have hpassed := passed_of_live h hl
    rw [choose_of_live h hl]
    refine ⟨fun _ hm => ?_, ?_, fun hnone => absurd hnone (Option.some_ne_none _), fun member hm => ⟨?_, ?_⟩⟩
    · rw [hpassed] at hm
      exact absurd hm List.not_mem_nil
    · rw [hpassed]
      exact .refl _
    · obtain rfl := Option.some.inj hm
      rw [hpassed]
      show members[(turn + 0).toNat % members.length]? = _
      rw [UInt64.add_zero]
      exact List.getElem?_eq_getElem h
    · rw [hpassed]
      rfl
  | case3 members turn _ h _ hl ih =>
    have hpassed := passed_of_not_live h hl
    rw [choose_of_not_live h hl]
    refine ⟨fun member hm => ?_, ?_, fun hnone => ?_, fun member hm => ?_⟩
    · rw [hpassed] at hm
      rcases List.mem_cons.1 hm with rfl | hm
      · exact Bool.eq_false_iff.2 hl
      · exact ih.gone member hm
    · rw [hpassed]
      exact (ih.left.cons _).trans (List.getElem_cons_eraseIdx_perm h)
    · rw [hpassed, List.length_cons, ← turn_succ]
      exact ih.nobody hnone
    · rw [hpassed, List.length_cons, ← turn_succ, ← turn_succ]
      exact ih.taker member hm

/-! ## One offer -/

/-- What an offer comes to. -/
structure Served (live : Nat → Bool) (c : Consumer) (m : StoredMessage) (count : Nat)
    (result : Option HandOut × Consumer) : Prop where
  /-- Members are left out that are met and not live, -/
  gone : ∀ member ∈ passed live c.members c.turn, live member = false
  /-- and all the others stay -/
  left : (passed live c.members c.turn ++ result.2.members).Perm c.members
  /-- in their order. -/
  sublist : result.2.members.Sublist c.members
  /-- A live member takes the message if there is one. -/
  reaches : (∃ member ∈ c.members, live member = true) →
    ∃ member ∈ result.2.members, live member = true ∧ result.1 = some (c.handOut m member count)
  /-- The message is not handed out only where nobody is left. -/
  refused : result.1 = none → result.2.members = [] ∧ ∀ member ∈ c.members, live member = false

theorem offer_served (live : Nat → Bool) (c : Consumer) (m : StoredMessage) (count : Nat) :
    Served live c m count (c.offer live m count) := by
  have hchosen := choose_chosen live c.members c.turn
  have hmembers : (c.offer live m count).2.members = (choose live c.members c.turn).2.1 := by
    unfold offer
    rcases choose live c.members c.turn with ⟨_ | member, members, turn⟩ <;> rfl
  have hleft := hchosen.left
  rw [← hmembers] at hleft
  obtain ⟨members, turn, hleaves, ⟨rfl, ho⟩ | ⟨member, hmem, hl, ho⟩⟩ := offer_cases live c m count
  · rw [ho] at hleft ⊢
    have hnobody : ∀ member ∈ c.members, ¬live member = true := fun member hm hl =>
      nomatch hleaves.mem_of_live member hm hl
    refine ⟨hchosen.gone, hleft, hleaves.sublist, ?_, fun _ => ⟨rfl, fun member hm => ?_⟩⟩
    · rintro ⟨member, hm, hl⟩
      exact absurd hl (hnobody member hm)
    · exact Bool.eq_false_iff.2 (hnobody member hm)
  · rw [ho] at hleft ⊢
    exact ⟨hchosen.gone, hleft, hleaves.sublist, fun _ => ⟨member, hmem, hl, rfl⟩, (fun hnone => nomatch hnone)⟩

/-! ## Hand-outs in turn -/

/-- Messages are handed out to members in turn. -/
def InTurn (members : List Nat) (turn : UInt64) (hs : List HandOut) : Prop :=
  ∀ i h, hs[i]? = some h → members[(turn + UInt64.ofNat i).toNat % members.length]? = some h.member

theorem inTurn_nil (members : List Nat) (turn : UInt64) : InTurn members turn [] := fun _ _ h => nomatch h

theorem InTurn.append {members : List Nat} {turn : UInt64} (h : InTurn members turn hs)
    (h' : InTurn members (turn + UInt64.ofNat hs.length) hs') : InTurn members turn (hs ++ hs') := by
  intro i g hg
  rcases Nat.lt_or_ge i hs.length with hlt | hge
  · exact h i g ((List.getElem?_append_left hlt).symm.trans hg)
  · have htaker := h' _ g ((List.getElem?_append_right hge).symm.trans hg)
    rwa [turn_add, Nat.add_sub_cancel' hge] at htaker

/-- Some members were found gone, and then messages were handed out to those that are left, one turn each. -/
structure Took (c : Consumer) (missed : Nat) (hs : List HandOut) (d : Consumer) : Prop where
  sublist : d.members.Sublist c.members
  length : missed + d.members.length = c.members.length
  turn : d.turn = c.turn + UInt64.ofNat missed + UInt64.ofNat hs.length
  takers : InTurn d.members (c.turn + UInt64.ofNat missed) hs

/-- Nobody's turn has come. -/
theorem took_nothing (hmembers : d.members = c.members) (hturn : d.turn = c.turn) : Took c 0 [] d where
  sublist := hmembers ▸ .refl _
  length := by rw [Nat.zero_add, hmembers]
  turn := by
    rw [hturn, turn_add]
    exact (UInt64.add_zero _).symm
  takers := inTurn_nil _ _

theorem Took.members (h : Took c 0 hs d) : d.members = c.members :=
  h.sublist.eq_of_length ((Nat.zero_add _).symm.trans h.length)

theorem Took.missed_eq (h : Took c n hs d) : c.members.length - d.members.length = n := by
  have hlength := h.length
  omega

theorem Took.trans (h : Took c 0 hs d) (h' : Took d 0 hs' e) : Took c 0 (hs ++ hs') e where
  sublist := h'.sublist.trans h.sublist
  length := by rw [h'.members, h.length]
  turn := by
    rw [h'.turn, h.turn, List.length_append]
    simp only [turn_add, Nat.zero_add, Nat.add_zero]
  takers := by
    have htakers := h'.takers
    rw [h.turn, h'.members] at htakers
    rw [h'.members]
    refine h.takers.append ?_
    simpa only [turn_add, Nat.add_zero] using htakers

/-- Only members and turns matter. -/
theorem Took.congr {c' d' : Consumer} (h : Took c n hs d) (hmembers : c'.members = c.members)
    (hturn : c'.turn = c.turn) (hmembers' : d'.members = d.members) (hturn' : d'.turn = d.turn) :
    Took c' n hs d' where
  sublist := by
    rw [hmembers, hmembers']
    exact h.sublist
  length := by
    rw [hmembers, hmembers']
    exact h.length
  turn := by
    rw [hturn, hturn']
    exact h.turn
  takers := by
    rw [hturn, hmembers']
    exact h.takers

/-- Whoever was passed has been found gone. -/
theorem offer_took (live : Nat → Bool) (c : Consumer) (m : StoredMessage) (count : Nat) :
    Took c (passed live c.members c.turn).length (c.offer live m count).1.toList (c.offer live m count).2 := by
  have hchosen := choose_chosen live c.members c.turn
  have hsub := (choose_spec live c.members c.turn).1.sublist
  have hlength := hchosen.left.length_eq
  rw [List.length_append] at hlength
  unfold offer
  rcases hc : choose live c.members c.turn with ⟨_ | member, members, turn⟩
  · rw [hc] at hchosen hsub hlength
    exact ⟨hsub, hlength, (hchosen.nobody rfl).trans (UInt64.add_zero _).symm, inTurn_nil _ _⟩
  · rw [hc] at hchosen hsub hlength
    obtain ⟨htaker, hturn⟩ := hchosen.taker member rfl
    refine ⟨hsub, hlength, hturn.trans (turn_add _ _ _).symm, fun i h hh => ?_⟩
    obtain ⟨rfl, rfl⟩ : i = 0 ∧ _ = h := by simpa [List.getElem?_singleton] using hh
    rw [turn_add]
    exact htaker

/-- Nobody is found gone who is not passed. -/
theorem redeliver_took (live : Nat → Bool) (log : List StoredMessage) (c : Consumer) (seq count : Nat) :
    ∃ n ≤ (passed live c.members c.turn).length,
      Took c n (c.redeliver live log seq count).2 (c.redeliver live log seq count).1 := by
  unfold redeliver
  split
  · exact ⟨0, Nat.zero_le _, took_nothing rfl rfl⟩
  · split
    · exact ⟨0, Nat.zero_le _, took_nothing rfl rfl⟩
    · exact ⟨_, Nat.le_refl _, offer_took live c _ _⟩

theorem expire_took (live : Nat → Bool) (log : List StoredMessage) (c : Consumer) (seq count : Nat) :
    ∃ n, Took c n (c.expire live log seq count).2 (c.expire live log seq count).1 := by
  unfold expire
  split
  · obtain ⟨n, -, htook⟩ := redeliver_took live log c seq count
    exact ⟨n, htook⟩
  · exact ⟨0, took_nothing rfl rfl⟩

/-! ## A publication -/

/-- A consumer without members stays so, and has no turns. -/
theorem consider_nobody (live : Nat → Bool) (ms : List StoredMessage) (h : c.members = []) :
    Took c 0 (consider live ms c).2 (consider live ms c).1 := by
  induction ms generalizing c with
  | nil => exact took_nothing rfl rfl
  | cons m ms ih =>
    have hoffer : c.offer live m 1 = (none, c) := by
      unfold offer
      rw [h, choose, dif_pos rfl]
      simp only [← h]
    rw [consider]
    split
    · rw [hoffer]
      exact took_nothing rfl rfl
    · exact (ih (c := { c with cursor := c.cursor + 1 }) h).congr rfl rfl rfl rfl

/-- Where only the last message is on the subject, that is the only one that is offered. -/
theorem consider_last (live : Nat → Bool) {ms : List StoredMessage} {m : StoredMessage}
    (hms : ∀ n ∈ ms, n.subject ≠ c.subject) (hm : m.subject = c.subject) :
    ∃ n, Took c n (consider live (ms ++ [m]) c).2 (consider live (ms ++ [m]) c).1 := by
  induction ms generalizing c with
  | nil =>
    have htook := offer_took live c m 1
    refine ⟨(passed live c.members c.turn).length, ?_⟩
    rw [List.nil_append, consider, if_pos hm]
    rcases ho : c.offer live m 1 with ⟨_ | h, d⟩
    · rw [ho] at htook
      exact htook
    · rw [ho] at htook
      exact htook.congr rfl rfl rfl rfl
  | cons m' ms ih =>
    obtain ⟨n, htook⟩ := ih (c := { c with cursor := c.cursor + 1 }) (fun n hn => hms n (List.mem_cons_of_mem _ hn)) hm
    rw [List.cons_append, consider, if_neg (hms m' List.mem_cons_self)]
    exact ⟨n, htook.congr rfl rfl rfl rfl⟩

/-- A consumer that has handed out all there was hands out one message at most when another one is published. -/
theorem pump_took (live : Nat → Bool) (hc : c.cursor ≤ log.length) (hd : c.Drained log) {m : StoredMessage}
    (hm : m.subject = c.subject) :
    ∃ n, Took c n (c.pump live (log ++ [m])).2 (c.pump live (log ++ [m])).1 := by
  unfold pump
  by_cases hmembers : c.members = []
  · exact ⟨0, consider_nobody live _ hmembers⟩
  · rw [List.drop_append_of_le_length hc]
    refine consider_last live (fun n hn => ?_) hm
    obtain ⟨i, hi⟩ := List.mem_iff_getElem?.1 hn
    rw [List.getElem?_drop] at hi
    exact hd hmembers _ n (Nat.le_add_right _ _) hi

/-! ## A new member -/

/-- Live members all get their turns, and nobody is found gone. -/
theorem consider_took (ms : List StoredMessage) (h : ∀ member ∈ c.members, live member = true) :
    Took c 0 (consider live ms c).2 (consider live ms c).1 := by
  induction ms generalizing c with
  | nil => exact took_nothing rfl rfl
  | cons m ms ih =>
    rw [consider]
    split
    · have htook := offer_took live c m 1
      rw [passed_of_all_live _ h] at htook
      rcases ho : c.offer live m 1 with ⟨_ | g, d⟩
      · rw [ho] at htook
        exact htook
      · rw [ho] at htook
        have hlive : ∀ member ∈ d.members, live member = true := htook.members ▸ h
        exact htook.trans ((ih (c := { d with cursor := d.cursor + 1 }) hlive).congr rfl rfl rfl rfl)
    · exact (ih (c := { c with cursor := c.cursor + 1 }) h).congr rfl rfl rfl rfl

theorem redeliverAll_took (log : List StoredMessage) (ps : List Pending)
    (h : ∀ member ∈ c.members, live member = true) :
    Took c 0 (redeliverAll live log ps c).2 (redeliverAll live log ps c).1 := by
  induction ps generalizing c with
  | nil => exact took_nothing rfl rfl
  | cons p ps ih =>
    obtain ⟨n, hn, htook⟩ := redeliver_took live log c p.seq p.count
    rw [passed_of_all_live _ h] at hn
    obtain rfl := Nat.le_zero.1 hn
    exact htook.trans (ih (htook.members ▸ h))

/-- What is handed out when a member joins goes to live members in turn, the new one among them. -/
theorem join_took {member : Nat} (hlive : live member = true) :
    Took (c.enter live member) 0 (c.join live log member).2 (c.join live log member).1 := by
  have hall : ∀ i ∈ (c.enter live member).members, live i = true := by
    intro i hi
    rcases List.mem_append.1 hi with hi | hi
    · exact (List.mem_filter.1 hi).2
    · exact List.mem_singleton.1 hi ▸ hlive
  have hagain := redeliverAll_took log ((c.enter live member).orphans live) hall
  exact hagain.trans (consider_took _ (hagain.members ▸ hall))

end Forum.Memory.Consumer
