import Mathlib.Data.List.Nodup
import Forum.Proofs.Broker.Course

/-!
# What a durable consumer hands out

The books of a durable consumer (`Consumer.Accounted`) compare what it has handed out so far with where it is: what was
handed out for the first time are the messages on its subject between its start and its cursor, each of these has one
place (it is pending, acknowledged, terminated or exhausted), and the deliveries of a message are counted from one
without a gap. Every elementary change keeps the books. So, in every run of a broker, durable consumers hand out in
order and without a gap (`Course.hands_out_in_order`), the deliveries of a message are counted, and there are no more of
them once the message is settled or exhausted (`Course.counted_until_settled`).
-/

namespace Forum.Memory

/-! ## Deliveries of a message -/

/-- The messages that were handed out for the first time, in that order. -/
def firsts (hs : List HandOut) : List Nat := (hs.filter fun h => h.delivery.count = 1).map (·.seq)

/-- The deliveries of a message. -/
def deliveries (seq : Nat) (hs : List HandOut) : List HandOut := hs.filter fun h => h.seq = seq

/-- The counts of the deliveries of a message. -/
def countsOf (seq : Nat) (hs : List HandOut) : List Nat := (deliveries seq hs).map (·.delivery.count)

section

variable {seq : Nat} {hs : List HandOut} {h : HandOut}

/-- A first delivery is one more of them. -/
theorem firsts_snoc_first (hcount : h.delivery.count = 1) : firsts (hs ++ [h]) = firsts hs ++ [h.seq] := by
  simp [firsts, hcount]

/-- A further delivery is no first one. -/
theorem firsts_snoc_again (hcount : h.delivery.count ≠ 1) : firsts (hs ++ [h]) = firsts hs := by
  simp [firsts, hcount]

theorem deliveries_append (hs' : List HandOut) : deliveries seq (hs ++ hs') = deliveries seq hs ++ deliveries seq hs' :=
  List.filter_append _ _

/-- A message that was not handed out has no deliveries. -/
theorem deliveries_eq_nil (hne : ∀ h ∈ hs, h.seq ≠ seq) : deliveries seq hs = [] :=
  List.filter_eq_nil_iff.2 fun g hg heq => hne g hg (of_decide_eq_true heq)

theorem mem_deliveries : h ∈ deliveries seq hs ↔ h ∈ hs ∧ h.seq = seq := by simp [deliveries]

/-- One more delivery of a message. -/
theorem countsOf_snoc_self : countsOf h.seq (hs ++ [h]) = countsOf h.seq hs ++ [h.delivery.count] := by
  simp [countsOf, deliveries]

/-- One more delivery of another message. -/
theorem countsOf_snoc_other (hne : h.seq ≠ seq) : countsOf seq (hs ++ [h]) = countsOf seq hs := by
  simp [countsOf, deliveries, hne]

/-- A message that was handed out for the first time has been delivered. -/
theorem countsOf_pos (hseq : seq ∈ firsts hs) : 0 < (countsOf seq hs).length := by
  obtain ⟨f, hf, rfl⟩ := List.mem_map.1 hseq
  exact List.length_pos_of_mem (List.mem_map_of_mem (mem_deliveries.2 ⟨(List.mem_filter.1 hf).1, rfl⟩))

end

/-! ## Messages between two places -/

/-- The messages on a subject from one place of the log to another. -/
def between (log : List StoredMessage) (subject : String) (start stop : Nat) : List StoredMessage :=
  ((log.take stop).drop start).filter fun m => m.subject = subject

section

variable {log : List StoredMessage} {subject : String} {start stop : Nat} {m : StoredMessage}

/-- The next message of the log, if it is on the subject. -/
theorem between_succ (hm : log[stop]? = some m) (hle : start ≤ stop) :
    between log subject start (stop + 1) =
      between log subject start stop ++ [m].filter fun m => m.subject = subject := by
  have hlt : stop < log.length := (List.getElem?_eq_some_iff.1 hm).1
  have htake : (log.take stop).length = stop := List.length_take_of_le (Nat.le_of_lt hlt)
  rw [between, List.take_add_one, hm, List.drop_append_of_le_length (htake.symm ▸ hle), List.filter_append]
  rfl

/-- What is kept later is beyond. -/
theorem between_append (more : List StoredMessage) (hle : stop ≤ log.length) :
    between (log ++ more) subject start stop = between log subject start stop := by
  rw [between, List.take_append_of_le_length hle]
  rfl

/-- The messages are in order, each is there once, and none is from beyond. -/
theorem between_ordered (hn : Numbered log) :
    ((between log subject start stop).map (·.seq)).Pairwise (· < ·) ∧
      ∀ seq ∈ (between log subject start stop).map (·.seq), seq ≤ stop := by
  have hlog : log.map (·.seq) = List.range' 1 log.length := by
    refine List.ext_getElem (by simp) fun i hi _ => ?_
    rw [List.getElem_map, List.getElem_range', hn i _ (List.getElem?_eq_getElem _)]
    omega
  constructor
  · have hsub : (between log subject start stop).Sublist log :=
      List.filter_sublist.trans ((List.drop_sublist _ _).trans (List.take_sublist _ _))
    refine (hlog ▸ List.pairwise_lt_range').sublist (hsub.map _)
  · intro seq hseq
    obtain ⟨m, hm, rfl⟩ := List.mem_map.1 hseq
    obtain ⟨i, hi⟩ := List.mem_iff_getElem?.1 (List.mem_of_mem_drop (List.mem_filter.1 hm).1)
    rw [List.getElem?_take] at hi
    split at hi
    · rename_i hlt
      rw [hn i m hi]
      exact hlt
    · nomatch hi

end

namespace Consumer

/-! ## The books of a consumer -/

variable {live : Nat → Bool} {log : List StoredMessage} {start : Nat} {past hs : List HandOut} {acked : List Nat}
  {c d : Consumer}

/-- What a consumer has handed out agrees with where it is and with what it holds. -/
structure Accounted (log : List StoredMessage) (start : Nat) (past : List HandOut) (acked : List Nat) (c : Consumer) :
    Prop where
  start_le : start ≤ c.cursor
  /-- Every message between the start and the cursor was handed out for the first time, one after the other. -/
  order : firsts past = (between log c.subject start c.cursor).map (·.seq)
  /-- Each of them is in one place. -/
  places : (c.pending.map (·.seq) ++ (acked ++ (c.terminated ++ c.exhausted))).Perm (firsts past)
  /-- The deliveries of a message are counted from one. -/
  counts : ∀ seq, countsOf seq past = List.range' 1 (countsOf seq past).length
  last : ∀ p ∈ c.pending, (countsOf p.seq past).length = p.count
  limit : ∀ most, c.options.maxDeliver = some most → ∀ seq, (countsOf seq past).length ≤ max 1 most

/-- First deliveries are in the order of the messages, and none is of a message beyond the cursor. -/
theorem Accounted.ordered (h : c.Accounted log start past acked) (hn : Numbered log) :
    (firsts past).Pairwise (· < ·) ∧ ∀ seq ∈ firsts past, seq ≤ c.cursor := by
  rw [h.order]
  exact between_ordered hn

/-- A message that is pending was handed out. -/
theorem Accounted.pending_mem (h : c.Accounted log start past acked) {p : Pending} (hp : p ∈ c.pending) :
    p.seq ∈ firsts past :=
  h.places.subset (List.mem_append_left _ (List.mem_map_of_mem hp))

/-- Whatever was handed out was handed out for the first time. -/
theorem Accounted.mem_firsts (h : c.Accounted log start past acked) {g : HandOut} (hg : g ∈ past) :
    g.seq ∈ firsts past := by
  have hcount : g.delivery.count ∈ countsOf g.seq past := List.mem_map_of_mem (mem_deliveries.2 ⟨hg, rfl⟩)
  have hone : 1 ∈ countsOf g.seq past := by
    rw [h.counts g.seq]
    exact List.mem_range'_1.2 ⟨Nat.le_refl _, Nat.lt_add_of_pos_right (List.length_pos_of_mem hcount)⟩
  obtain ⟨f, hf, hfcount⟩ := List.mem_map.1 hone
  obtain ⟨hf, hseq⟩ := mem_deliveries.1 hf
  rw [← hseq]
  exact List.mem_map_of_mem (List.mem_filter.2 ⟨hf, decide_eq_true hfcount⟩)

/-- A message at the cursor was not handed out before. -/
theorem Accounted.fresh (h : c.Accounted log start past acked) (hn : Numbered log) {m : StoredMessage}
    (hm : log[c.cursor]? = some m) : ∀ g ∈ past, g.seq ≠ m.seq := by
  intro g hg heq
  have hle := (h.ordered hn).2 _ (h.mem_firsts hg)
  rw [heq, hn _ m hm] at hle
  exact Nat.lt_irrefl _ hle

section

/-! One more delivery of a message, with the count that is next. -/

variable {g : HandOut}

/-- The counts of each message still go from one without a gap. -/
theorem Accounted.counts_next (h : c.Accounted log start past acked)
    (hcount : g.delivery.count = (countsOf g.seq past).length + 1) (seq : Nat) :
    countsOf seq (past ++ [g]) = List.range' 1 (countsOf seq (past ++ [g])).length := by
  by_cases hseq : g.seq = seq
  · subst hseq
    rw [countsOf_snoc_self, List.length_append, List.length_singleton, List.range'_1_concat, ← h.counts, hcount,
      Nat.add_comm 1]
  · rw [countsOf_snoc_other hseq]
    exact h.counts seq

/-- What is pending still counts its deliveries. -/
theorem Accounted.last_next (h : c.Accounted log start past acked)
    (hcount : g.delivery.count = (countsOf g.seq past).length + 1) {p : Pending}
    (hp : p ∈ Pending.insert c.pending ⟨g.seq, g.delivery.count, g.member⟩) :
    (countsOf p.seq (past ++ [g])).length = p.count := by
  rcases Pending.mem_insert.1 hp with rfl | ⟨hp, hne⟩
  · rw [countsOf_snoc_self, List.length_append, List.length_singleton, hcount]
  · rw [countsOf_snoc_other (Ne.symm hne)]
    exact h.last p hp

/-- There are still not too many deliveries of any message. -/
theorem Accounted.limit_next (h : c.Accounted log start past acked)
    (hcount : g.delivery.count = (countsOf g.seq past).length + 1) {most : Nat}
    (hmost : c.options.maxDeliver = some most) (hle : g.delivery.count ≤ max 1 most) (seq : Nat) :
    (countsOf seq (past ++ [g])).length ≤ max 1 most := by
  by_cases hseq : g.seq = seq
  · subst hseq
    rw [countsOf_snoc_self, List.length_append, List.length_singleton, ← hcount]
    exact hle
  · rw [countsOf_snoc_other hseq]
    exact h.limit most hmost seq

end

/-- A message is handed out for the first time. -/
theorem Accounted.first (h : c.Accounted log start past acked) (hn : Numbered log) {m : StoredMessage}
    (hm : log[c.cursor]? = some m) (hs : m.subject = c.subject) (member : Nat) :
    Accounted log start (past ++ [c.handOut m member 1]) acked
      { c.hold m member 1 with cursor := c.cursor + 1 } := by
  have hfresh := h.fresh hn hm
  have hnone : countsOf m.seq past = [] := List.map_eq_nil_iff.2 (deliveries_eq_nil hfresh)
  have hnext : (c.handOut m member 1).delivery.count = (countsOf m.seq past).length + 1 := by rw [hnone]; rfl
  refine ⟨Nat.le_succ_of_le h.start_le, ?_, ?_, h.counts_next hnext, fun _ => h.last_next hnext,
    fun most hmost => h.limit_next hnext hmost (Nat.le_max_left _ _)⟩
  · have hmine : [m].filter (fun m => m.subject = c.subject) = [m] := List.filter_cons_of_pos (decide_eq_true hs)
    rw [firsts_snoc_first (h := c.handOut m member 1) rfl, h.order]
    show _ = (between log c.subject start (c.cursor + 1)).map (·.seq)
    rw [between_succ hm h.start_le, hmine, List.map_append]
    rfl
  · have hnew : Pending.erase c.pending m.seq = c.pending := by
      refine List.filter_eq_self.2 fun p hp => decide_eq_true fun heq => ?_
      obtain ⟨f, hf, hseq⟩ := List.mem_map.1 (h.pending_mem hp)
      exact hfresh f (List.mem_filter.1 hf).1 (hseq.trans heq)
    have hinsert : ((Pending.insert c.pending ⟨m.seq, 1, member⟩).map (·.seq)).Perm
        (m.seq :: c.pending.map (·.seq)) := by
      have hperm := (Pending.perm_insert c.pending ⟨m.seq, 1, member⟩).map (·.seq)
      rwa [hnew] at hperm
    rw [firsts_snoc_first (h := c.handOut m member 1) rfl]
    exact (hinsert.append_right _).trans ((h.places.cons m.seq).trans (List.perm_append_singleton _ _).symm)

/-- A message that may be handed out once more is not handed out too often then. -/
theorem count_le_of_not_spent {count most : Nat} (h : c.isSpent count = false)
    (hmost : c.options.maxDeliver = some most) : count + 1 ≤ max 1 most := by
  rw [isSpent, hmost, Option.any_some, decide_eq_false_iff_not] at h
  exact Nat.le_trans (Nat.lt_of_not_le h) (Nat.le_max_right _ _)

/-- A pending message is handed out once more. -/
theorem Accounted.again (h : c.Accounted log start past acked) (hc : c.Sound log) {p : Pending} (hp : p ∈ c.pending)
    (hspent : c.isSpent p.count = false) {m : StoredMessage} (hseq : m.seq = p.seq) (member : Nat) :
    Accounted log start (past ++ [c.handOut m member (p.count + 1)]) acked (c.hold m member (p.count + 1)) := by
  have hlast := h.last p hp
  have hpos : 0 < p.count := hlast ▸ countsOf_pos (h.pending_mem hp)
  have hnext : (c.handOut m member (p.count + 1)).delivery.count = (countsOf m.seq past).length + 1 := by
    rw [hseq, hlast]
    rfl
  have hfirsts : firsts (past ++ [c.handOut m member (p.count + 1)]) = firsts past :=
    firsts_snoc_again (show p.count + 1 ≠ 1 by omega)
  refine ⟨h.start_le, hfirsts.trans h.order, ?_, h.counts_next hnext, fun _ => h.last_next hnext,
    fun most hmost => h.limit_next hnext hmost (count_le_of_not_spent hspent hmost)⟩
  rw [hfirsts]
  refine .trans (.append_right _ ?_) h.places
  have hinsert := (Pending.perm_insert c.pending ⟨m.seq, p.count + 1, member⟩).map (·.seq)
  have herase := (Pending.perm_erase hc.ordered hp).map (·.seq)
  simp only [hseq, List.map_cons] at hinsert herase
  show ((Pending.insert c.pending ⟨m.seq, p.count + 1, member⟩).map (·.seq)).Perm (c.pending.map (·.seq))
  rw [hseq]
  exact hinsert.trans herase.symm

/-- A pending message goes to another place. -/
theorem Accounted.leave (h : c.Accounted log start past acked) (hc : c.Sound log) {p : Pending} (hp : p ∈ c.pending)
    (more terminated exhausted : List Nat)
    (hmore : (more ++ (terminated ++ exhausted)).Perm (p.seq :: (acked ++ (c.terminated ++ c.exhausted)))) :
    Accounted log start past more
      { c with pending := Pending.erase c.pending p.seq, terminated := terminated, exhausted := exhausted } where
  start_le := h.start_le
  order := h.order
  places := by
    have herase := (Pending.perm_erase hc.ordered hp).map (·.seq)
    refine .trans ((hmore.append_left _).trans (List.perm_middle.trans ?_)) h.places
    exact herase.symm.append_right _
  counts := h.counts
  last q hq := h.last q (Pending.mem_erase.1 hq).1
  limit := h.limit

/-- Every elementary change keeps the books. -/
theorem Change.accounted (hn : Numbered log) (hc : c.Sound log) (h : Change live log c hs d)
    (ha : c.Accounted log start past acked) : d.Accounted log start (past ++ hs) acked := by
  cases h with
  | turn members turn _ =>
    rw [List.append_nil]
    exact ⟨ha.start_le, ha.order, ha.places, ha.counts, ha.last, ha.limit⟩
  | @skip m hm hs =>
    have hnone : [m].filter (fun m => m.subject = c.subject) = [] := List.filter_cons_of_neg (by simpa using hs)
    rw [List.append_nil]
    refine ⟨Nat.le_succ_of_le ha.start_le, ?_, ha.places, ha.counts, ha.last, ha.limit⟩
    show _ = (between log c.subject start (c.cursor + 1)).map (·.seq)
    rw [between_succ hm ha.start_le, hnone, List.append_nil]
    exact ha.order
  | first hm hs _ _ => exact ha.first hn hm hs _
  | again hp hspent hm _ _ => exact ha.again hc hp hspent (hc.pending_message hn hp hm).2.1 _
  | @exhaust p hp _ =>
    rw [List.append_nil]
    refine ha.leave hc hp acked c.terminated (c.exhausted ++ [p.seq]) ?_
    rw [← List.append_assoc, ← List.append_assoc, ← List.append_assoc]
    exact List.perm_append_singleton _ _

/-- Changes one after the other keep the books. -/
theorem Changes.accounted (hn : Numbered log) (hc : c.Sound log) (h : Changes live log c hs d)
    (ha : c.Accounted log start past acked) : d.Accounted log start (past ++ hs) acked := by
  refine (h.traces (P := fun past d => d.Sound log ∧ d.Accounted log start past acked) ?_ ⟨hc, ha⟩).2
  rintro past c hs d ⟨hc, ha⟩ hchange
  exact ⟨(hchange.sound hn hc).1.1, hchange.accounted hn hc ha⟩

/-- Messages that are kept later do not matter to the books. -/
theorem Accounted.append (h : c.Accounted log start past acked) (hc : c.Sound log) (more : List StoredMessage) :
    c.Accounted (log ++ more) start past acked where
  start_le := h.start_le
  order := by
    rw [between_append more hc.cursor_le]
    exact h.order
  places := h.places
  counts := h.counts
  last := h.last
  limit := h.limit

/-- A pending message is taken out, and is among the terminated ones if it is given up. -/
theorem settle_of_pending {p : Pending} (giveUp : Bool) (hp : Pending.find? c.pending p.seq = some p) :
    c.settle p.seq giveUp =
      { c with
        pending := Pending.erase c.pending p.seq
        terminated := if giveUp then c.terminated ++ [p.seq] else c.terminated } := by
  rw [settle, hp]
  rfl

/-- A message that is not pending is not settled again. -/
theorem settle_of_settled {seq : Nat} (giveUp : Bool) (hp : Pending.find? c.pending seq = none) :
    c.settle seq giveUp = c := by
  rw [settle, hp]
  rfl

/-- A message that is settled goes to the place that it is settled for. -/
theorem Accounted.settle (h : c.Accounted log start past acked) (hc : c.Sound log) (seq : Nat) (giveUp : Bool) :
    Accounted log start past
      (if !giveUp && (Pending.find? c.pending seq).isSome then acked ++ [seq] else acked) (c.settle seq giveUp) := by
  cases hfind : Pending.find? c.pending seq with
  | none =>
    rw [settle_of_settled giveUp hfind, Option.isSome_none, Bool.and_false, if_neg Bool.false_ne_true]
    exact h
  | some p =>
    obtain ⟨hp, rfl⟩ := Pending.find?_eq_some hfind
    rw [settle_of_pending giveUp hfind]
    cases giveUp with
    | true =>
      refine h.leave hc hp acked (c.terminated ++ [p.seq]) c.exhausted ?_
      rw [List.append_assoc]
      exact (List.perm_middle.append_left acked).trans List.perm_middle
    | false =>
      refine h.leave hc hp (acked ++ [p.seq]) c.terminated c.exhausted ?_
      rw [List.append_assoc]
      exact List.perm_middle

/-! ## Nothing left to hand out -/

/-- A consumer with members has handed out all there is. -/
def Drained (log : List StoredMessage) (c : Consumer) : Prop :=
  c.members ≠ [] → ∀ i m, c.cursor ≤ i → log[i]? = some m → m.subject ≠ c.subject

/-- A pump stops at the end of the log, or when nobody is left to take a message. -/
theorem consider_drained (live : Nat → Bool) {ms : List StoredMessage} (h : ms = log.drop c.cursor) :
    (consider live ms c).1.Drained log := by
  induction ms generalizing c with
  | nil =>
    intro _ i m hi hm
    have hend : log.length ≤ c.cursor := List.drop_eq_nil_iff.1 h.symm
    rw [List.getElem?_eq_none (Nat.le_trans hend hi)] at hm
    nomatch hm
  | cons m ms ih =>
    have hms : ms = log.drop (c.cursor + 1) := by
      rw [← List.tail_drop, ← h, List.tail_cons]
    rw [consider]
    split
    · obtain ⟨members, turn, -, ⟨rfl, ho⟩ | ⟨member, -, -, ho⟩⟩ := offer_cases live c m 1
      · rw [ho]
        exact fun hne => absurd rfl hne
      · rw [ho]
        exact ih hms
    · exact ih hms

/-- A redelivery leaves the cursor where it is, and takes no members in. -/
theorem redeliver_drained {p : Pending} (h : c.Drained log) :
    (c.redeliver live log p.seq p.count).1.Drained log := by
  have hcase := redelivery live log c p
  generalize c.redeliver live log p.seq p.count = result at hcase
  cases hcase with
  | exhausted _ => exact h
  | missing _ => exact h
  | refused _ _ => exact fun hne => absurd rfl hne
  | taken members turn hleaves _ _ _ _ =>
    exact fun hne => h fun hnil => hne (List.sublist_nil.1 (hnil ▸ hleaves.sublist))

/-- Where nothing was left to hand out for the first time, a timer leaves nothing. -/
theorem expire_drained (live : Nat → Bool) (seq count : Nat) (h : c.Drained log) :
    (c.expire live log seq count).1.Drained log := by
  unfold expire
  cases hfind : Pending.find? c.pending seq with
  | none => exact h
  | some p =>
    obtain ⟨-, rfl⟩ := Pending.find?_eq_some hfind
    split
    · rename_i hcount
      obtain rfl : p.count = count := by simpa using hcount
      exact redeliver_drained h
    · exact h

/-- A settlement leaves nothing to hand out for the first time, if nothing was left. -/
theorem settle_drained (seq : Nat) (giveUp : Bool) (h : c.Drained log) : (c.settle seq giveUp).Drained log := by
  unfold Consumer.settle
  split <;> exact h

/-! ## Done for good -/

/-- A message was handed out and is not pending any more. -/
structure Over (seq : Nat) (c : Consumer) : Prop where
  passed : seq ≤ c.cursor
  gone : ∀ p ∈ c.pending, p.seq ≠ seq

/-- A message that is over stays so in an elementary change, which does not hand it out. -/
theorem Change.over {seq : Nat} (hn : Numbered log) (hc : c.Sound log) (h : Change live log c hs d) (ho : c.Over seq) :
    d.Over seq ∧ ∀ h ∈ hs, h.seq ≠ seq := by
  cases h with
  | turn _ _ _ => exact ⟨⟨ho.passed, ho.gone⟩, fun _ h => nomatch h⟩
  | skip _ _ => exact ⟨⟨Nat.le_succ_of_le ho.passed, ho.gone⟩, fun _ h => nomatch h⟩
  | @first m member hm _ _ _ =>
    have hne : m.seq ≠ seq := by
      have hpassed := ho.passed
      have hseq := hn _ m hm
      omega
    refine ⟨⟨Nat.le_succ_of_le ho.passed, fun p hp => ?_⟩, fun h hh => List.mem_singleton.1 hh ▸ hne⟩
    rcases Pending.mem_insert.1 hp with rfl | ⟨hp, -⟩
    · exact hne
    · exact ho.gone p hp
  | @again p m member hp _ hm _ _ =>
    have hne : m.seq ≠ seq := fun heq => ho.gone p hp ((hc.pending_message hn hp hm).2.1.symm.trans heq)
    refine ⟨⟨ho.passed, fun q hq => ?_⟩, fun h hh => List.mem_singleton.1 hh ▸ hne⟩
    rcases Pending.mem_insert.1 hq with rfl | ⟨hq, -⟩
    · exact hne
    · exact ho.gone q hq
  | exhaust _ _ => exact ⟨⟨ho.passed, fun p hp => ho.gone p (Pending.mem_erase.1 hp).1⟩, fun _ h => nomatch h⟩

/-- A message that is over stays so, and is not handed out any more. -/
theorem Changes.over {seq : Nat} (hn : Numbered log) (hc : c.Sound log) (h : Changes live log c hs d)
    (ho : c.Over seq) : d.Over seq ∧ ∀ h ∈ hs, h.seq ≠ seq := by
  obtain ⟨⟨-, hd⟩, hhs⟩ := h.keeps (P := fun d => d.Sound log ∧ d.Over seq) (Q := fun h => h.seq ≠ seq)
    (fun ⟨hc, ho⟩ hchange => by
      obtain ⟨hd, hhs⟩ := hchange.over hn hc ho
      exact ⟨⟨(hchange.sound hn hc).1.1, hd⟩, hhs⟩) ⟨hc, ho⟩
  exact ⟨hd, hhs⟩

/-- A message that is over stays so when something is settled. -/
theorem Over.settle {seq : Nat} (h : c.Over seq) (other : Nat) (giveUp : Bool) : (c.settle other giveUp).Over seq := by
  unfold Consumer.settle
  split
  · exact ⟨h.passed, fun p hp => h.gone p (Pending.mem_erase.1 hp).1⟩
  · exact h

@[simp] theorem settle_cursor (c : Consumer) (seq : Nat) (giveUp : Bool) : (c.settle seq giveUp).cursor = c.cursor := by
  unfold Consumer.settle
  split <;> rfl

/-- A settled message is not pending. -/
theorem settle_gone (c : Consumer) (seq : Nat) (giveUp : Bool) : ∀ p ∈ (c.settle seq giveUp).pending, p.seq ≠ seq := by
  unfold Consumer.settle
  split
  · exact fun p hp => (Pending.mem_erase.1 hp).2
  · rename_i hnone
    intro p hp heq
    refine hnone (Option.isSome_iff_ne_none.2 fun hfind => ?_)
    exact absurd heq (by simpa using List.find?_eq_none.1 hfind p hp)

/-- A message that is over is not pending. -/
theorem Over.find? {seq : Nat} (h : c.Over seq) : Pending.find? c.pending seq = none :=
  List.find?_eq_none.2 fun p hp => by simpa using h.gone p hp

end Consumer

namespace Sight

/-! ## At any time -/

variable {k : Creation} {v w : Sight}

/-- The books are right in everything that a durable comes to see. -/
theorem Reachable.accounted (h : Reachable k v) :
    v.consumer.Accounted v.log k.start v.handed (v.acked.map (·.seq)) := by
  induction h with
  | @made log live joined _ _ _ =>
    refine ⟨Nat.le_refl _, ?_, .nil, fun _ => rfl, (fun _ h => nomatch h), fun _ _ _ => Nat.zero_le _⟩
    have hnone : between log k.subject k.start k.start = [] := by
      rw [between, List.drop_eq_nil_of_le (List.length_take_le _ _)]
      rfl
    show [] = (between log k.subject k.start k.start).map (·.seq)
    rw [hnone]
    rfl
  | @step v w h hstep ih =>
    have hg := h.grounded
    cases hstep with
    | logged m _ _ => exact ih.append hg.sound _
    | published m hseq _ =>
      exact (Consumer.pump_changes _ _ _).accounted (hg.numbered.append hseq) (hg.sound.append _)
        (ih.append hg.sound _)
    | welcomed => exact ih
    | joined =>
      exact hg.join_changes.accounted hg.numbered hg.enroll.sound
        ⟨ih.start_le, ih.order, ih.places, ih.counts, ih.last, ih.limit⟩
    | disconnected => exact ⟨ih.start_le, ih.order, ih.places, ih.counts, ih.last, ih.limit⟩
    | dropped _ => exact ih
    | settled g _ giveUp =>
      have hsettle := ih.settle hg.sound g.seq giveUp
      show Consumer.Accounted v.log k.start v.handed (List.map _ (if _ then _ else _)) _
      rw [apply_ite (List.map HandOut.seq), List.map_append]
      exact hsettle
    | expired g _ => exact (Consumer.expire_changes _ _ _ _ _).accounted hg.numbered hg.sound ih

/-- Whatever a durable comes to see, nothing is left to hand out to its members for the first time. -/
theorem Reachable.drained (h : Reachable k v) : v.consumer.Drained v.log := by
  induction h with
  | made _ _ _ => exact fun hne => absurd rfl hne
  | @step v w h hstep ih =>
    cases hstep with
    | logged m _ hs =>
      intro hne i n hi hn
      rcases Nat.lt_or_ge i v.log.length with hlt | hge
      · exact ih hne i n hi ((List.getElem?_append_left hlt).symm.trans hn)
      · have hlast : [m][i - v.log.length]? = some n := (List.getElem?_append_right hge).symm.trans hn
        obtain rfl := List.mem_singleton.1 (List.mem_of_getElem? hlast)
        exact hs
    | published m _ _ => exact Consumer.consider_drained _ rfl
    | welcomed => exact ih
    | joined => exact Consumer.consider_drained _ rfl
    | disconnected => exact fun hne => absurd rfl hne
    | dropped _ => exact ih
    | settled g _ giveUp => exact Consumer.settle_drained _ _ ih
    | expired g _ => exact Consumer.expire_drained _ _ _ ih

/-- Elementary changes hand out nothing of a message that is done. -/
theorem over_receive {live : Nat → Bool} {d : Consumer} {hs : List HandOut} {seq : Nat} (h : Grounded k v)
    (hc : Consumer.Changes live v.log v.consumer hs d) (ho : v.consumer.Over seq) :
    (v.receive (d, hs)).consumer.Over seq ∧ deliveries seq (v.receive (d, hs)).handed = deliveries seq v.handed := by
  obtain ⟨hd, hhs⟩ := hc.over h.numbered h.sound ho
  refine ⟨hd, ?_⟩
  show deliveries seq (v.handed ++ hs) = _
  rw [deliveries_append, deliveries_eq_nil hhs, List.append_nil]

/-- A message that is over is not delivered any more in what a durable sees next. -/
theorem over_step {seq : Nat} (h : Grounded k v) (hstep : Step v w) (ho : v.consumer.Over seq) :
    w.consumer.Over seq ∧ deliveries seq w.handed = deliveries seq v.handed := by
  cases hstep with
  | logged m _ _ => exact ⟨ho, rfl⟩
  | published m hseq _ => exact over_receive (h.keep hseq) (Consumer.pump_changes _ _ _) ho
  | welcomed => exact ⟨ho, rfl⟩
  | joined => exact over_receive h.enroll h.join_changes ⟨ho.passed, ho.gone⟩
  | disconnected => exact ⟨⟨ho.passed, ho.gone⟩, rfl⟩
  | dropped _ => exact ⟨ho, rfl⟩
  | settled g _ giveUp => exact ⟨ho.settle _ _, rfl⟩
  | expired g _ =>
    exact over_receive (v := v.ring g) (h.ring g) (Consumer.expire_changes _ _ _ _ _) ho

/-- A message that is done stays so, and is not handed out any more. -/
theorem over_path {seq : Nat} (h : Grounded k v) (path : Relation.ReflTransGen Step v w) (ho : v.consumer.Over seq) :
    w.consumer.Over seq ∧ deliveries seq w.handed = deliveries seq v.handed := by
  have hall : Grounded k w ∧ w.consumer.Over seq ∧ deliveries seq w.handed = deliveries seq v.handed := by
    induction path with
    | refl => exact ⟨h, ho, rfl⟩
    | tail _ hstep ih =>
      obtain ⟨hg, ho', hsame⟩ := ih
      obtain ⟨hover, hsame'⟩ := over_step hg hstep ho'
      exact ⟨hg.step hstep, hover, hsame'.trans hsame⟩
  exact hall.2

end Sight

namespace Course

/-! ## In order and without a gap -/

variable {x : Course} {durable : String} {c : Consumer} {k : Creation}

/-- What a durable consumer has handed out agrees with the log, and with the places that its messages are in. -/
structure InOrder (x : Course) (durable : String) (k : Creation) (c : Consumer) : Prop where
  subject : c.subject = k.subject
  options : c.options = k.options
  numbered : Numbered x.broker.log
  /-- A delivery brings the message at its place in the log. -/
  genuine : ∀ h ∈ handedBy durable x.handed, ∃ m, x.broker.log[h.seq - 1]? = some m ∧ h.seq = m.seq ∧
    h.delivery.subject = m.subject ∧ h.delivery.payload = m.payload
  /-- All messages between the start and the cursor, in the order of the log. -/
  order : firsts (handedBy durable x.handed) =
    (between x.broker.log k.subject k.start c.cursor).map (·.seq)
  once : (firsts (handedBy durable x.handed)).Nodup
  /-- Each of them is pending, acknowledged, terminated or exhausted, and only one of that. -/
  places : (c.pending.map (·.seq) ++ ((handedBy durable x.acked).map (·.seq) ++ (c.terminated ++ c.exhausted))).Perm
    (firsts (handedBy durable x.handed))
  terminated : c.terminated.Nodup
  exhausted : c.exhausted.Nodup
  /-- Nothing is left for a consumer with members. -/
  drained : c.members ≠ [] → ∀ i m, c.cursor ≤ i → x.broker.log[i]? = some m → m.subject ≠ c.subject

/-- Whatever happens, a durable consumer hands out in order. -/
theorem hands_out_in_order (rs : List Request) (hc : (run rs).broker.consumers.get? durable = some c) :
    ∃ k, (run rs).created.get? durable = some k ∧ InOrder (run rs) durable k c := by
  obtain ⟨k, hk, hreach⟩ := reachable_run rs hc
  have hg := hreach.grounded
  have ha := hreach.accounted
  have honce : (firsts (handedBy durable (run rs).handed)).Nodup :=
    (ha.ordered hg.numbered).1.imp fun hlt => Nat.ne_of_lt hlt
  obtain ⟨-, hrest, -⟩ := List.nodup_append.1 (ha.places.nodup_iff.2 honce)
  obtain ⟨-, hlists, -⟩ := List.nodup_append.1 hrest
  obtain ⟨hterminated, hexhausted, -⟩ := List.nodup_append.1 hlists
  refine ⟨k, hk, hg.subject, hg.options, hg.numbered, fun h hh => ?_, ?_, honce, ha.places, hterminated, hexhausted,
    hreach.drained⟩
  · obtain ⟨m, hm, hseq, hsubject, hpayload⟩ := hg.genuine h hh
    exact ⟨m, hseq ▸ hg.numbered.getElem? hm, hseq.symm, hsubject.symm, hpayload.symm⟩
  · have horder := ha.order
    rw [hg.subject] at horder
    exact horder

/-- A delivery of an empty message by the durable of the runs below. -/
def parcel (seq member count : Nat) : HandOut := ⟨"d", seq, member, ⟨"s", [], count⟩, 1000⟩

/-- Four messages are handed out once each. The first is acknowledged, the second given up, the third not settled in
time. -/
def settlements : List Request :=
  [.publish "s" [] [], .publish "s" [] [], .publish "s" [] [], .publish "s" [] [],
    .subscribe "s" ⟨"d", true, 1000, some 1⟩, .settle (parcel 1 1 1) false, .settle (parcel 2 1 1) true,
    .expire (parcel 3 1 1)]

/-- One message is acknowledged, one given up, one exhausted, and one is still pending. -/
theorem settlements_in_order :
    (run settlements).broker.consumers.get? "d" =
        some ⟨"s", ⟨"d", true, 1000, some 1⟩, 4, [⟨4, 1, 1⟩], [1], 4, [2], [3]⟩ ∧
      ∃ k, (run settlements).created.get? "d" = some k ∧
        InOrder (run settlements) "d" k ⟨"s", ⟨"d", true, 1000, some 1⟩, 4, [⟨4, 1, 1⟩], [1], 4, [2], [3]⟩ := by
  have hc : (run settlements).broker.consumers.get? "d" =
      some ⟨"s", ⟨"d", true, 1000, some 1⟩, 4, [⟨4, 1, 1⟩], [1], 4, [2], [3]⟩ := by decide +kernel
  exact ⟨hc, hands_out_in_order settlements hc⟩

/-! ## Counted until settled -/

/-- A durable has handed the message out, and it is not pending any more. -/
def Done (x : Course) (durable : String) (seq : Nat) : Prop :=
  ∃ c, x.broker.consumers.get? durable = some c ∧ c.Over seq

/-- What is done stays so, and is not handed out any more. -/
theorem Done.after {seq : Nat} (h : x.Done durable seq) (hx : x.Charted) (rs : List Request) :
    (x.after rs).Done durable seq ∧
      deliveries seq (handedBy durable (x.after rs).handed) = deliveries seq (handedBy durable x.handed) := by
  obtain ⟨c, hc, hover⟩ := h
  obtain ⟨-, k, -, hg⟩ := hx.grounded hc
  obtain ⟨c', hc', -, path⟩ := hx.view_after hc rs
  obtain ⟨hover', hsame⟩ := Sight.over_path hg path hover
  exact ⟨⟨c', hc', hover'⟩, hsame⟩

/-- Neither a timer nor a settlement changes anything about a message that is done. -/
theorem Done.idle {seq : Nat} (h : x.Done durable seq) (hx : x.Charted) :
    (∀ count, x.broker.expire durable seq count = (x.broker, [])) ∧
      ∀ giveUp, x.broker.settle durable seq giveUp = .ok x.broker := by
  obtain ⟨c, hc, hover⟩ := h
  obtain ⟨hname, -⟩ := hx.grounded hc
  have hput : x.broker.put c = x.broker := by
    rw [Broker.put, hname, Rows.insert_of_get? hc]
  constructor
  · intro count
    have hexpire : c.expire x.broker.isLive x.broker.log seq count = (c, []) := by
      rw [Consumer.expire, hover.find?]
      rfl
    simp only [Broker.expire, hc, hexpire, hput]
  · intro giveUp
    simp only [Broker.settle, hc, Consumer.settle_of_settled giveUp hover.find?, hput]

/-- A message is done as soon as one of its deliveries is settled, be it the last one or not. -/
theorem done_settle (hx : x.Charted) {h : HandOut} (hh : h ∈ x.handed) (giveUp : Bool) :
    (x.step (.settle h giveUp)).Done h.durable h.seq := by
  have hmine : h ∈ handedBy h.durable x.handed := mem_handedBy.2 ⟨hh, rfl⟩
  cases hc : x.broker.consumers.get? h.durable with
  | none =>
    have hnone : handedBy h.durable x.handed = [] := congrArg Prod.fst (hx.absent _ hc)
    exact absurd hmine (hnone ▸ List.not_mem_nil)
  | some c =>
    obtain ⟨hname, k, -, hreach⟩ := hx.seen _ c hc
    rw [hname] at hreach
    have ha := hreach.accounted
    refine ⟨c.settle h.seq giveUp, ?_, ?_, c.settle_gone h.seq giveUp⟩
    · simp only [step, if_pos hh, Broker.settle, hc]
      rw [Broker.get?_put, Consumer.settle_options, hname, if_pos rfl]
    · rw [Consumer.settle_cursor]
      exact (ha.ordered hreach.grounded.numbered).2 _ (ha.mem_firsts hmine)

/-- So is one that was handed out as often as allowed. -/
theorem done_exhausted (hx : x.Charted) (hc : x.broker.consumers.get? durable = some c) {seq : Nat}
    (hseq : seq ∈ c.exhausted) : x.Done durable seq := by
  obtain ⟨rfl, k, -, hreach⟩ := hx.seen _ c hc
  have ha := hreach.accounted
  obtain ⟨hordered, hle⟩ := ha.ordered hreach.grounded.numbered
  have hplaces := ha.places.nodup_iff.2 (hordered.imp fun hlt => Nat.ne_of_lt hlt)
  have hrest : seq ∈ (handedBy c.options.durable x.acked).map (·.seq) ++ (c.terminated ++ c.exhausted) :=
    List.mem_append_right _ (List.mem_append_right _ hseq)
  refine ⟨c, hc, hle seq (ha.places.subset (List.mem_append_right _ hrest)), fun p hp heq => ?_⟩
  exact (List.nodup_append.1 hplaces).2.2 p.seq (List.mem_map_of_mem hp) seq hrest heq

/-- A message was settled through one of its deliveries, or the durable has given it up. -/
inductive Finished (rs : List Request) (durable : String) (seq : Nat) : Prop
  | settled (rs₁ rs₂ : List Request) (h : HandOut) (giveUp : Bool) (hrs : rs = rs₁ ++ .settle h giveUp :: rs₂)
    (hh : h ∈ (run rs₁).handed) (hdurable : h.durable = durable) (hseq : h.seq = seq)
  | exhausted (c : Consumer) (hc : (run rs).broker.consumers.get? durable = some c) (hseq : seq ∈ c.exhausted)

/-- A message that was settled or exhausted is over. -/
theorem Finished.done {rs : List Request} {seq : Nat} (h : Finished rs durable seq) : (run rs).Done durable seq := by
  cases h with
  | settled rs₁ rs₂ h giveUp hrs hh hdurable hseq =>
    subst hrs hdurable hseq
    rw [run_append]
    have hx := charted_run rs₁
    exact ((done_settle hx hh giveUp).after (hx.step _) rs₂).1
  | exhausted c hc hseq => exact done_exhausted (charted_run rs) hc hseq

/-- The deliveries of a message by a durable. -/
structure Counted (x : Course) (durable : String) (seq : Nat) : Prop where
  /-- They are counted from one, and each count is there once. -/
  counts : countsOf seq (handedBy durable x.handed) =
    List.range' 1 (deliveries seq (handedBy durable x.handed)).length
  /-- There is one delivery of each count, so that it goes to one member. -/
  alone : ∀ g ∈ deliveries seq (handedBy durable x.handed), ∀ h ∈ deliveries seq (handedBy durable x.handed),
    g.delivery.count = h.delivery.count → g = h
  limit : ∀ k most, x.created.get? durable = some k → k.options.maxDeliver = some most →
    (deliveries seq (handedBy durable x.handed)).length ≤ max 1 most
  /-- The member that one goes to has joined this durable, and no other one. -/
  taker : ∀ h ∈ deliveries seq (handedBy durable x.handed), ∀ name, (h.member, name) ∈ x.joins ↔ name = durable

/-- In every run the deliveries of a message are counted and bounded. -/
theorem counted_run (rs : List Request) (durable : String) (seq : Nat) : Counted (run rs) durable seq := by
  have hx := charted_run rs
  cases hc : (run rs).broker.consumers.get? durable with
  | none =>
    have hnone : handedBy durable (run rs).handed = [] := congrArg Prod.fst (hx.absent _ hc)
    refine ⟨?_, fun g hg => ?_, fun _ _ _ _ => ?_, fun h hh => ?_⟩
    · rw [hnone]
      rfl
    · rw [hnone] at hg
      nomatch hg
    · rw [hnone]
      exact Nat.zero_le _
    · rw [hnone] at hh
      nomatch hh
  | some c =>
    obtain ⟨k, hk, hreach⟩ := reachable_run rs hc
    have hg := hreach.grounded
    have ha := hreach.accounted
    have hlength : (countsOf seq (handedBy durable (run rs).handed)).length =
        (deliveries seq (handedBy durable (run rs).handed)).length := List.length_map _
    have hcounts := ha.counts seq
    refine ⟨hlength ▸ hcounts, fun g hg h hh heq => ?_, fun k' most hk' hmost => ?_, fun h hh name => ?_⟩
    · have hnodup : (countsOf seq (handedBy durable (run rs).handed)).Nodup := hcounts ▸ List.nodup_range'
      exact List.inj_on_of_nodup_map hnodup hg hh heq
    · obtain rfl := Option.some.inj (hk.symm.trans hk')
      rw [← hlength]
      exact ha.limit most ((congrArg _ hg.options).trans hmost) seq
    · have hmine : (h.member, durable) ∈ (run rs).joins := mem_joinedBy.1 (hg.takers h (mem_deliveries.1 hh).1)
      refine ⟨fun hother => ?_, fun heq => heq ▸ hmine⟩
      have hnodup : ((run rs).joins.map (·.1)).Nodup := hx.joins ▸ List.nodup_range'
      exact congrArg Prod.snd (List.inj_on_of_nodup_map hnodup hother hmine rfl)

/-- Whatever happens, deliveries of a message are counted; and once the message is settled through any of them, or given
up, there are no more of them, and whatever still comes for it changes nothing. -/
theorem counted_until_settled (rs : List Request) (durable : String) (seq : Nat) :
    Counted (run rs) durable seq ∧
      (Finished rs durable seq → ∀ rs',
        deliveries seq (handedBy durable (run (rs ++ rs')).handed) = deliveries seq (handedBy durable (run rs).handed) ∧
        (∀ count, (run (rs ++ rs')).broker.expire durable seq count = ((run (rs ++ rs')).broker, [])) ∧
        ∀ giveUp, (run (rs ++ rs')).broker.settle durable seq giveUp = .ok (run (rs ++ rs')).broker) := by
  refine ⟨counted_run rs durable seq, fun hfinished rs' => ?_⟩
  rw [run_append]
  obtain ⟨hdone, hsame⟩ := hfinished.done.after (charted_run rs) rs'
  exact ⟨hsame, hdone.idle ((charted_run rs).after rs')⟩

/-- A message is handed out twice, and then acknowledged through its first delivery. -/
def lateAck : List Request :=
  [.subscribe "s" ⟨"d", true, 1000, none⟩, .publish "s" [] [], .expire (parcel 1 1 1), .settle (parcel 1 1 1) false]

/-- The second timer goes off, and the second delivery is settled as well. -/
theorem lateAck_final :
    Finished lateAck "d" 1 ∧ countsOf 1 (handedBy "d" (run lateAck).handed) = [1, 2] ∧
      parcel 1 1 2 ∈ (run lateAck).timers ∧
      deliveries 1 (handedBy "d" (run (lateAck ++ [.expire (parcel 1 1 2), .settle (parcel 1 1 2) true])).handed) =
        deliveries 1 (handedBy "d" (run lateAck).handed) := by
  have hh : parcel 1 1 1 ∈
      (run [.subscribe "s" ⟨"d", true, 1000, none⟩, .publish "s" [] [], .expire (parcel 1 1 1)]).handed := by
    decide +kernel
  have hfinished : Finished lateAck "d" 1 := .settled _ [] (parcel 1 1 1) false rfl hh rfl rfl
  refine ⟨hfinished, by decide +kernel, by decide +kernel, ?_⟩
  exact ((counted_until_settled lateAck "d" 1).2 hfinished [.expire (parcel 1 1 2), .settle (parcel 1 1 2) true]).1

end Course

end Forum.Memory
