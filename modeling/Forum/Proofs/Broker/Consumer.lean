import Mathlib.Tactic.Common
import Forum.Memory.Broker.Consumer

/-!
# What a durable consumer does

Whatever a consumer does is a sequence of five elementary changes (`Change`): members that are not live are dropped, a
message of another subject is passed over, a message is handed out for the first time, a pending message is handed out
once more, and a pending message that was handed out as often as allowed is given up. So an invariant of consumers holds
after a pump, a redelivery or a join when every elementary change keeps it (`Changes.keeps`).

The messages of the broker carry their places (`Numbered`), and what is pending at a sound consumer are messages of its
subject, each once (`Sound`).
-/

namespace Forum.Memory

/-! ## Pending messages -/

namespace Pending

/-- The new entry is there, and those for other messages. -/
theorem mem_insert {ps : List Pending} {p q : Pending} :
    q ∈ insert ps p ↔ q = p ∨ (q ∈ ps ∧ q.seq ≠ p.seq) := by
  simp only [insert, List.mem_append, List.mem_cons, List.mem_filter, decide_eq_true_eq]
  constructor
  · rintro (⟨hq, hlt⟩ | rfl | ⟨hq, hlt⟩)
    · exact .inr ⟨hq, Nat.ne_of_lt hlt⟩
    · exact .inl rfl
    · exact .inr ⟨hq, Nat.ne_of_gt hlt⟩
  · rintro (rfl | ⟨hq, hne⟩)
    · exact .inr (.inl rfl)
    · rcases Nat.lt_or_gt_of_ne hne with hlt | hlt
      · exact .inl ⟨hq, hlt⟩
      · exact .inr (.inr ⟨hq, hlt⟩)

/-- The entries for other messages are left. -/
theorem mem_erase {ps : List Pending} {seq : Nat} {q : Pending} : q ∈ erase ps seq ↔ q ∈ ps ∧ q.seq ≠ seq := by
  simp [erase]

/-- Entries stay in the order of the messages. -/
theorem pairwise_insert {ps : List Pending} (h : ps.Pairwise fun p q => p.seq < q.seq) (p : Pending) :
    (insert ps p).Pairwise fun p q => p.seq < q.seq := by
  refine List.pairwise_append.2 ⟨h.filter _, List.pairwise_cons.2 ⟨fun q hq => ?_, h.filter _⟩, fun q hq r hr => ?_⟩
  · simpa using (List.mem_filter.1 hq).2
  · have hlt : q.seq < p.seq := by simpa using (List.mem_filter.1 hq).2
    rcases List.mem_cons.1 hr with rfl | hr
    · exact hlt
    · have hgt : p.seq < r.seq := by simpa using (List.mem_filter.1 hr).2
      exact Nat.lt_trans hlt hgt

theorem perm_insert (ps : List Pending) (p : Pending) : (insert ps p).Perm (p :: erase ps p.seq) := by
  refine List.perm_middle.trans (.cons p ?_)
  refine .trans (.of_eq ?_) (List.filter_append_perm (fun q => q.seq < p.seq) (erase ps p.seq))
  simp only [erase, List.filter_filter]
  congr 1
  · refine List.filter_congr fun q _ => Bool.eq_iff_iff.2 ?_
    simp only [Bool.and_eq_true, decide_eq_true_eq]
    omega
  · refine List.filter_congr fun q _ => Bool.eq_iff_iff.2 ?_
    simp only [Bool.and_eq_true, Bool.not_eq_true', decide_eq_true_eq, decide_eq_false_iff_not]
    omega

/-- An entry beside all the others. -/
theorem perm_erase {ps : List Pending} (h : ps.Pairwise fun p q => p.seq < q.seq) {p : Pending} (hp : p ∈ ps) :
    ps.Perm (p :: erase ps p.seq) := by
  induction ps with
  | nil => nomatch hp
  | cons q ps ih =>
    obtain ⟨hlt, h⟩ := List.pairwise_cons.1 h
    rcases List.mem_cons.1 hp with rfl | hp
    · have hrest : erase (p :: ps) p.seq = ps := by
        rw [erase, List.filter_cons_of_neg (by simp)]
        exact List.filter_eq_self.2 fun q hq => by simpa using Nat.ne_of_gt (hlt q hq)
      rw [hrest]
    · have hrest : erase (q :: ps) p.seq = q :: erase ps p.seq :=
        List.filter_cons_of_pos (by simpa using Nat.ne_of_lt (hlt p hp))
      rw [hrest]
      exact ((ih h hp).cons q).trans (.swap p q _)

/-- The entry that is found is one of the message. -/
theorem find?_eq_some {ps : List Pending} {seq : Nat} {p : Pending} (h : find? ps seq = some p) :
    p ∈ ps ∧ p.seq = seq :=
  ⟨List.mem_of_find?_eq_some h, by simpa using List.find?_some h⟩

end Pending

/-! ## Messages with their places -/

/-- Every message carries its place. -/
def Numbered (log : List StoredMessage) : Prop := ∀ i m, log[i]? = some m → m.seq = i + 1

/-- A message is at its number. -/
theorem Numbered.getElem? {log : List StoredMessage} (h : Numbered log) {m : StoredMessage} (hm : m ∈ log) :
    log[m.seq - 1]? = some m := by
  obtain ⟨i, hi⟩ := List.mem_iff_getElem?.1 hm
  rwa [h i m hi, Nat.add_sub_cancel]

/-- No two messages have the same place. -/
theorem Numbered.unique {log : List StoredMessage} (h : Numbered log) {m n : StoredMessage} (hm : m ∈ log)
    (hn : n ∈ log) (hseq : m.seq = n.seq) : m = n := by
  have hget := h.getElem? hm
  rw [hseq, h.getElem? hn] at hget
  exact (Option.some.inj hget).symm

/-- The next message has the next number. -/
theorem Numbered.append {log : List StoredMessage} (h : Numbered log) {m : StoredMessage}
    (hm : m.seq = log.length + 1) : Numbered (log ++ [m]) := by
  intro i n hi
  rcases Nat.lt_or_ge i log.length with hlt | hge
  · rw [List.getElem?_append_left hlt] at hi
    exact h i n hi
  · rw [List.getElem?_append_right hge, List.getElem?_singleton] at hi
    split at hi
    · obtain rfl := Option.some.inj hi
      omega
    · nomatch hi

namespace Consumer

/-! ## Elementary changes -/

/-- A message that the consumer hands to a member. -/
def handOut (c : Consumer) (m : StoredMessage) (member count : Nat) : HandOut :=
  ⟨c.options.durable, m.seq, member, ⟨m.subject, m.payload, count⟩, c.options.ackWait⟩

/-- The consumer when a message was handed out. -/
def hold (c : Consumer) (m : StoredMessage) (member count : Nat) : Consumer :=
  { c with pending := Pending.insert c.pending ⟨m.seq, count, member⟩ }

/-- Members are left out, none of which is live. -/
structure Leaves (live : Nat → Bool) (members rest : List Nat) : Prop where
  sublist : rest.Sublist members
  mem_of_live : ∀ member ∈ members, live member = true → member ∈ rest

/-- An elementary change of a consumer, with what it hands out. -/
inductive Change (live : Nat → Bool) (log : List StoredMessage) (c : Consumer) : List HandOut → Consumer → Prop
  /-- The turn goes on, past members that are not live and are left out. -/
  | turn (members : List Nat) (turn : UInt64) (h : Leaves live c.members members) :
    Change live log c [] { c with members := members, turn := turn }
  | skip {m : StoredMessage} (hm : log[c.cursor]? = some m) (hs : m.subject ≠ c.subject) :
    Change live log c [] { c with cursor := c.cursor + 1 }
  | first {m : StoredMessage} {member : Nat} (hm : log[c.cursor]? = some m) (hs : m.subject = c.subject)
      (hmember : member ∈ c.members) (hlive : live member = true) :
    Change live log c [c.handOut m member 1] { c.hold m member 1 with cursor := c.cursor + 1 }
  | again {p : Pending} {m : StoredMessage} {member : Nat} (hp : p ∈ c.pending) (hspent : c.isSpent p.count = false)
      (hm : log[p.seq - 1]? = some m) (hmember : member ∈ c.members) (hlive : live member = true) :
    Change live log c [c.handOut m member (p.count + 1)] (c.hold m member (p.count + 1))
  | exhaust {p : Pending} (hp : p ∈ c.pending) (hspent : c.isSpent p.count = true) :
    Change live log c []
      { c with pending := Pending.erase c.pending p.seq, exhausted := c.exhausted ++ [p.seq] }

/-- Elementary changes one after the other. -/
inductive Changes (live : Nat → Bool) (log : List StoredMessage) : Consumer → List HandOut → Consumer → Prop
  | refl (c : Consumer) : Changes live log c [] c
  | head {c d e : Consumer} {hs hs' : List HandOut} (h : Change live log c hs d) (t : Changes live log d hs' e) :
    Changes live log c (hs ++ hs') e

variable {live : Nat → Bool} {log : List StoredMessage} {c d e : Consumer} {hs hs' : List HandOut}

theorem Changes.trans (h : Changes live log c hs d) (t : Changes live log d hs' e) :
    Changes live log c (hs ++ hs') e := by
  induction h with
  | refl c => exact t
  | head h _ ih =>
    rw [List.append_assoc]
    exact .head h (ih t)

/-- One change is a sequence of changes. -/
theorem Changes.one (h : Change live log c hs d) : Changes live log c hs d := by
  have := Changes.head h (.refl d)
  rwa [List.append_nil] at this

/-- What every elementary change keeps holds in the end, and what holds of everything that is handed out on the way
holds of all of it. -/
theorem Changes.keeps {P : Consumer → Prop} {Q : HandOut → Prop}
    (hstep : ∀ {c hs d}, P c → Change live log c hs d → P d ∧ ∀ h ∈ hs, Q h) (h : Changes live log c hs d) (hc : P c) :
    P d ∧ ∀ h ∈ hs, Q h := by
  induction h with
  | refl c => exact ⟨hc, fun _ h => nomatch h⟩
  | head h _ ih =>
    obtain ⟨hd, hhs⟩ := hstep hc h
    obtain ⟨he, hhs'⟩ := ih hd
    refine ⟨he, fun h hmem => ?_⟩
    rcases List.mem_append.1 hmem with hmem | hmem
    · exact hhs h hmem
    · exact hhs' h hmem

/-- The cursor only goes forward. -/
theorem Changes.cursor_le (h : Changes live log c hs d) : c.cursor ≤ d.cursor := by
  induction h with
  | refl c => exact Nat.le_refl _
  | head h _ ih =>
    refine Nat.le_trans ?_ ih
    cases h with
    | skip _ _ => exact Nat.le_succ _
    | first _ _ _ _ => exact Nat.le_succ _
    | _ => exact Nat.le_refl _

/-- What every elementary change keeps of a consumer and of all that it has handed out holds in the end. -/
theorem Changes.traces {P : List HandOut → Consumer → Prop}
    (hstep : ∀ {past c hs d}, P past c → Change live log c hs d → P (past ++ hs) d) (h : Changes live log c hs d)
    {past : List HandOut} (hc : P past c) : P (past ++ hs) d := by
  induction h generalizing past with
  | refl c =>
    rw [List.append_nil]
    exact hc
  | head h _ ih =>
    rw [← List.append_assoc]
    exact ih (hstep hc h)

/-- A consumer keeps its options, and names itself on what it hands out. -/
theorem Changes.options (h : Changes live log c hs d) :
    d.options = c.options ∧ ∀ h ∈ hs, h.durable = c.options.durable := by
  refine h.keeps (P := fun d => d.options = c.options) (fun hc hchange => ?_) rfl
  cases hchange with
  | first _ _ _ _ => exact ⟨hc, fun h hh => by rw [List.mem_singleton.1 hh, ← hc]; rfl⟩
  | again _ _ _ _ _ => exact ⟨hc, fun h hh => by rw [List.mem_singleton.1 hh, ← hc]; rfl⟩
  | turn _ _ _ => exact ⟨hc, fun _ h => nomatch h⟩
  | skip _ _ => exact ⟨hc, fun _ h => nomatch h⟩
  | exhaust _ _ => exact ⟨hc, fun _ h => nomatch h⟩

/-! ## Turns -/

/-- A live member takes its turn. -/
theorem choose_of_live {members : List Nat} {turn : UInt64} (h : turn.toNat % members.length < members.length)
    (hl : live members[turn.toNat % members.length] = true) :
    choose live members turn = (some members[turn.toNat % members.length], members, turn + 1) := by
  have hne : members ≠ [] := List.ne_nil_of_length_pos (Nat.lt_of_le_of_lt (Nat.zero_le _) h)
  rw [choose, dif_neg hne]
  exact if_pos hl

/-- A member that is not live is left out, and the next one has its turn. -/
theorem choose_of_not_live {members : List Nat} {turn : UInt64} (h : turn.toNat % members.length < members.length)
    (hl : ¬live members[turn.toNat % members.length] = true) :
    choose live members turn = choose live (members.eraseIdx (turn.toNat % members.length)) (turn + 1) := by
  have hne : members ≠ [] := List.ne_nil_of_length_pos (Nat.lt_of_le_of_lt (Nat.zero_le _) h)
  rw [choose, dif_neg hne]
  exact if_neg hl

/-- Only members that are not live are left out, one that is chosen is still there and live, and none is chosen only
where all are left out. -/
theorem choose_spec (live : Nat → Bool) (members : List Nat) (turn : UInt64) :
    Leaves live members (choose live members turn).2.1 ∧
      ((choose live members turn).1 = none → (choose live members turn).2.1 = []) ∧
      ∀ member, (choose live members turn).1 = some member →
        member ∈ (choose live members turn).2.1 ∧ live member = true := by
  induction members, turn using choose.induct live with
  | case1 turn =>
    rw [choose, dif_pos rfl]
    exact ⟨⟨.refl _, fun _ hm _ => hm⟩, fun _ => rfl, fun _ h => nomatch h⟩
  | case2 members turn _ h _ hl =>
    rw [choose_of_live h hl]
    refine ⟨⟨.refl _, fun _ hm _ => hm⟩, (fun hnone => nomatch hnone), fun member hm => ?_⟩
    obtain rfl := Option.some.inj hm
    exact ⟨List.getElem_mem h, hl⟩
  | case3 members turn _ h _ hl ih =>
    rw [choose_of_not_live h hl]
    obtain ⟨hleaves, hrest⟩ := ih
    refine ⟨⟨hleaves.sublist.trans (List.eraseIdx_sublist _ _), fun member hm hlive => ?_⟩, hrest⟩
    refine hleaves.mem_of_live member ?_ hlive
    obtain ⟨i, hi, rfl⟩ := List.getElem_of_mem hm
    refine List.mem_eraseIdx_iff_getElem.2 ⟨i, hi, fun heq => hl ?_, rfl⟩
    simpa only [heq] using hlive

/-- A message is offered in vain where no member is live, or a live member takes it when the turn has come to it. -/
theorem offer_cases (live : Nat → Bool) (c : Consumer) (m : StoredMessage) (count : Nat) :
    ∃ members turn, Leaves live c.members members ∧
      ((members = [] ∧ c.offer live m count = (none, { c with members := members, turn := turn })) ∨
        ∃ member, member ∈ members ∧ live member = true ∧
          c.offer live m count =
            (some (c.handOut m member count), { c with members := members, turn := turn }.hold m member count)) := by
  obtain ⟨hleaves, hnone, hsome⟩ := choose_spec live c.members c.turn
  unfold offer
  rcases hc : choose live c.members c.turn with ⟨_ | member, members, turn⟩
  · rw [hc] at hleaves hnone
    exact ⟨members, turn, hleaves, .inl ⟨hnone rfl, rfl⟩⟩
  · rw [hc] at hleaves hsome
    obtain ⟨hmem, hl⟩ := hsome member rfl
    exact ⟨members, turn, hleaves, .inr ⟨member, hmem, hl, rfl⟩⟩

/-! ## Pumps and redeliveries -/

/-- Going through messages is made of elementary changes. -/
theorem consider_changes (live : Nat → Bool) {log ms : List StoredMessage} {c : Consumer} (h : ms = log.drop c.cursor) :
    Changes live log c (consider live ms c).2 (consider live ms c).1 := by
  induction ms generalizing c with
  | nil => exact .refl c
  | cons m ms ih =>
    have hm : log[c.cursor]? = some m := by
      rw [← List.head?_drop, ← h, List.head?_cons]
    have hms : ms = log.drop (c.cursor + 1) := by
      rw [← List.tail_drop, ← h, List.tail_cons]
    rw [consider]
    split
    · rename_i hs
      obtain ⟨members, turn, hleaves, ⟨-, ho⟩ | ⟨member, hmem, hl, ho⟩⟩ := offer_cases live c m 1
      · rw [ho]
        exact .one (.turn members turn hleaves)
      · rw [ho]
        have hfirst : Change live log { c with members := members, turn := turn } [c.handOut m member 1]
            { { c with members := members, turn := turn }.hold m member 1 with cursor := c.cursor + 1 } :=
          .first hm hs hmem hl
        exact .head (.turn members turn hleaves) (.head hfirst (ih hms))
    · rename_i hs
      exact .head (.skip hm hs) (ih hms)

/-- A pump is a sequence of elementary changes. -/
theorem pump_changes (live : Nat → Bool) (log : List StoredMessage) (c : Consumer) :
    Changes live log c (c.pump live log).2 (c.pump live log).1 := consider_changes live rfl

/-- What comes of the redelivery of a pending message. -/
inductive Redelivery (live : Nat → Bool) (log : List StoredMessage) (c : Consumer) (p : Pending) :
    Consumer × List HandOut → Prop
  | exhausted (hspent : c.isSpent p.count = true) :
    Redelivery live log c p
      ({ c with pending := Pending.erase c.pending p.seq, exhausted := c.exhausted ++ [p.seq] }, [])
  | missing (hm : log[p.seq - 1]? = none) : Redelivery live log c p (c, [])
  /-- Nobody takes it, and nobody is left. -/
  | refused (turn : UInt64) (hleaves : Leaves live c.members []) :
    Redelivery live log c p ({ c with members := [], turn := turn }, [])
  | taken {m : StoredMessage} {member : Nat} (members : List Nat) (turn : UInt64)
      (hleaves : Leaves live c.members members) (hspent : c.isSpent p.count = false) (hm : log[p.seq - 1]? = some m)
      (hmember : member ∈ members) (hlive : live member = true) :
    Redelivery live log c p
      ({ c with members := members, turn := turn }.hold m member (p.count + 1), [c.handOut m member (p.count + 1)])

/-- What comes of a message that is due once more. -/
theorem redelivery (live : Nat → Bool) (log : List StoredMessage) (c : Consumer) (p : Pending) :
    Redelivery live log c p (c.redeliver live log p.seq p.count) := by
  unfold redeliver
  split
  · rename_i hspent
    exact .exhausted hspent
  · rename_i hspent
    cases hm : log[p.seq - 1]? with
    | none => exact .missing hm
    | some m =>
      obtain ⟨members, turn, hleaves, ⟨rfl, ho⟩ | ⟨member, hmem, hl, ho⟩⟩ := offer_cases live c m (p.count + 1)
      · simp only [ho]
        exact .refused turn hleaves
      · simp only [ho]
        exact .taken members turn hleaves (Bool.not_eq_true _ ▸ hspent) hm hmem hl

/-- The redelivery of a pending message is a sequence of elementary changes. -/
theorem redeliver_changes (live : Nat → Bool) (log : List StoredMessage) {c : Consumer} {p : Pending}
    (hp : p ∈ c.pending) :
    Changes live log c (c.redeliver live log p.seq p.count).2 (c.redeliver live log p.seq p.count).1 := by
  have hcase := redelivery live log c p
  generalize c.redeliver live log p.seq p.count = result at hcase
  cases hcase with
  | exhausted hspent => exact .one (.exhaust hp hspent)
  | missing _ => exact .refl c
  | refused turn hleaves => exact .one (.turn [] turn hleaves)
  | @taken m member members turn hleaves hspent hm hmember hlive =>
    have hagain : Change live log { c with members := members, turn := turn } [c.handOut m member (p.count + 1)]
        ({ c with members := members, turn := turn }.hold m member (p.count + 1)) := .again hp hspent hm hmember hlive
    exact .head (.turn members turn hleaves) (.one hagain)

/-- A timer that goes off is made of elementary changes. -/
theorem expire_changes (live : Nat → Bool) (log : List StoredMessage) (c : Consumer) (seq count : Nat) :
    Changes live log c (c.expire live log seq count).2 (c.expire live log seq count).1 := by
  unfold expire
  cases hfind : Pending.find? c.pending seq with
  | none => exact .refl c
  | some p =>
    obtain ⟨hp, hseq⟩ := Pending.find?_eq_some hfind
    split
    · rename_i hcount
      obtain rfl : p.count = count := by simpa using hcount
      rw [← hseq]
      exact redeliver_changes live log hp
    · exact .refl c

/-! ## Sound consumers -/

/-- The consumer is not ahead of the log, and what is pending are messages of its subject, in their order and each
once. -/
structure Sound (log : List StoredMessage) (c : Consumer) : Prop where
  cursor_le : c.cursor ≤ log.length
  ordered : c.pending.Pairwise fun p q => p.seq < q.seq
  logged : ∀ p ∈ c.pending, ∃ m ∈ log, m.seq = p.seq ∧ m.subject = c.subject

/-- A message on the subject may be held. -/
theorem Sound.hold (h : c.Sound log) {m : StoredMessage} (hm : m ∈ log) (hs : m.subject = c.subject)
    (member count : Nat) : (c.hold m member count).Sound log where
  cursor_le := h.cursor_le
  ordered := Pending.pairwise_insert h.ordered _
  logged p hp := by
    rcases Pending.mem_insert.1 hp with rfl | ⟨hp, -⟩
    · exact ⟨m, hm, rfl, hs⟩
    · exact h.logged p hp

/-- A message may be taken out of the pending ones. -/
theorem Sound.erase (h : c.Sound log) (seq : Nat) :
    ({ c with pending := Pending.erase c.pending seq } : Consumer).Sound log where
  cursor_le := h.cursor_le
  ordered := h.ordered.filter _
  logged p hp := h.logged p (Pending.mem_erase.1 hp).1

/-- Messages that are kept later do not matter. -/
theorem Sound.append (h : c.Sound log) (more : List StoredMessage) : c.Sound (log ++ more) where
  cursor_le := by
    rw [List.length_append]
    exact Nat.le_add_right_of_le h.cursor_le
  ordered := h.ordered
  logged p hp := by
    obtain ⟨m, hm, hmp⟩ := h.logged p hp
    exact ⟨m, List.mem_append_left _ hm, hmp⟩

/-- The message of a pending entry is found at its place. -/
theorem Sound.pending_message (h : c.Sound log) (hn : Numbered log) {p : Pending} (hp : p ∈ c.pending)
    {m : StoredMessage} (hm : log[p.seq - 1]? = some m) : m ∈ log ∧ m.seq = p.seq ∧ m.subject = c.subject := by
  obtain ⟨n, hmem, hseq, hs⟩ := h.logged p hp
  have hget := hn.getElem? hmem
  rw [hseq, hm] at hget
  obtain rfl := Option.some.inj hget
  exact ⟨hmem, hseq, hs⟩

/-- A delivery brings what the log holds under its number. -/
def Genuine (log : List StoredMessage) (h : HandOut) : Prop :=
  ∃ m ∈ log, m.seq = h.seq ∧ m.subject = h.delivery.subject ∧ m.payload = h.delivery.payload

/-- Messages that are kept later do not matter. -/
theorem Genuine.append {h : HandOut} (hg : Genuine log h) (more : List StoredMessage) : Genuine (log ++ more) h := by
  obtain ⟨m, hm, hmh⟩ := hg
  exact ⟨m, List.mem_append_left _ hm, hmh⟩

theorem Genuine.mono {log' : List StoredMessage} {h : HandOut} (hg : Genuine log h) (hp : log <+: log') :
    Genuine log' h := by
  obtain ⟨more, rfl⟩ := hp
  exact hg.append more

/-- An elementary change keeps a consumer sound, its subject and its options, and hands out what is in the log on its
subject. -/
theorem Change.sound (hn : Numbered log) (h : Change live log c hs d) (hc : c.Sound log) :
    (d.Sound log ∧ d.subject = c.subject ∧ d.options = c.options) ∧
      ∀ h ∈ hs, Genuine log h ∧ h.durable = c.options.durable ∧ h.delivery.subject = c.subject := by
  cases h with
  | turn members turn _ => exact ⟨⟨⟨hc.cursor_le, hc.ordered, hc.logged⟩, rfl, rfl⟩, fun _ h => nomatch h⟩
  | @skip m hm _ =>
    have hcur : c.cursor < log.length := (List.getElem?_eq_some_iff.1 hm).1
    exact ⟨⟨⟨hcur, hc.ordered, hc.logged⟩, rfl, rfl⟩, fun _ h => nomatch h⟩
  | @first m member hm hs _ _ =>
    have hmem : m ∈ log := List.mem_of_getElem? hm
    have hcur : c.cursor < log.length := (List.getElem?_eq_some_iff.1 hm).1
    have hd := hc.hold hmem hs member 1
    refine ⟨⟨⟨hcur, hd.ordered, hd.logged⟩, rfl, rfl⟩, fun h hh => ?_⟩
    obtain rfl := List.mem_singleton.1 hh
    exact ⟨⟨m, hmem, rfl, rfl, rfl⟩, rfl, hs⟩
  | @again p m member hp _ hm _ _ =>
    obtain ⟨hmem, _, hs⟩ := hc.pending_message hn hp hm
    refine ⟨⟨hc.hold hmem hs member _, rfl, rfl⟩, fun h hh => ?_⟩
    obtain rfl := List.mem_singleton.1 hh
    exact ⟨⟨m, hmem, rfl, rfl, rfl⟩, rfl, hs⟩
  | @exhaust p _ _ =>
    have hd := hc.erase p.seq
    exact ⟨⟨⟨hd.cursor_le, hd.ordered, hd.logged⟩, rfl, rfl⟩, fun _ h => nomatch h⟩

/-- Changes one after the other keep a consumer sound, and hand out what was kept. -/
theorem Changes.sound (hn : Numbered log) (h : Changes live log c hs d) (hc : c.Sound log) :
    (d.Sound log ∧ d.subject = c.subject ∧ d.options = c.options) ∧
      ∀ h ∈ hs, Genuine log h ∧ h.durable = c.options.durable ∧ h.delivery.subject = c.subject := by
  refine h.keeps (P := fun d => d.Sound log ∧ d.subject = c.subject ∧ d.options = c.options) ?_ ⟨hc, rfl, rfl⟩
  rintro c' hs' d' ⟨hc', hsubject, hoptions⟩ hchange
  obtain ⟨⟨hd, hsubject', hoptions'⟩, hhs⟩ := hchange.sound hn hc'
  exact ⟨⟨hd, hsubject'.trans hsubject, hoptions'.trans hoptions⟩, hoptions ▸ hsubject ▸ hhs⟩

/-- A settlement keeps a consumer sound. -/
theorem Sound.settle (h : c.Sound log) (seq : Nat) (giveUp : Bool) : (c.settle seq giveUp).Sound log := by
  unfold Consumer.settle
  split
  · have he := h.erase seq
    exact ⟨he.cursor_le, he.ordered, he.logged⟩
  · exact h

/-! ## Joins -/

/-- The redelivery of one entry leaves the other entries pending. -/
theorem mem_pending_redeliver (hn : Numbered log) (hc : c.Sound log) {p q : Pending} (hp : p ∈ c.pending)
    (hq : q ∈ c.pending) (hne : p.seq ≠ q.seq) : q ∈ (c.redeliver live log p.seq p.count).1.pending := by
  have hcase := redelivery live log c p
  generalize c.redeliver live log p.seq p.count = result at hcase ⊢
  cases hcase with
  | exhausted _ => exact Pending.mem_erase.2 ⟨hq, hne.symm⟩
  | missing _ => exact hq
  | refused _ _ => exact hq
  | taken members turn _ _ hm _ _ =>
    obtain ⟨-, hseq, -⟩ := hc.pending_message hn hp hm
    exact Pending.mem_insert.2 (.inr ⟨hq, by rw [hseq]; exact hne.symm⟩)

/-- Redeliveries one after the other are made of elementary changes. -/
theorem redeliverAll_changes (live : Nat → Bool) (hn : Numbered log) {ps : List Pending} (hc : c.Sound log)
    (hps : ∀ p ∈ ps, p ∈ c.pending) (hne : ps.Pairwise fun p q => p.seq < q.seq) :
    Changes live log c (redeliverAll live log ps c).2 (redeliverAll live log ps c).1 := by
  induction ps generalizing c with
  | nil => exact .refl c
  | cons p ps ih =>
    obtain ⟨hlt, hne⟩ := List.pairwise_cons.1 hne
    have hp : p ∈ c.pending := hps p List.mem_cons_self
    have hfirst := redeliver_changes live log hp
    have hc' := (hfirst.sound hn hc).1.1
    refine hfirst.trans (ih hc' (fun q hq => ?_) hne)
    exact mem_pending_redeliver hn hc hp (hps q (List.mem_cons_of_mem _ hq)) (Nat.ne_of_lt (hlt q hq))

/-- The consumer when a member has joined and nothing was handed to it yet. -/
def enter (live : Nat → Bool) (c : Consumer) (member : Nat) : Consumer :=
  { c with members := c.members.filter live ++ [member] }

/-- A consumer that a member enters stays sound. -/
theorem Sound.enter (h : c.Sound log) (live : Nat → Bool) (member : Nat) : (c.enter live member).Sound log :=
  ⟨h.cursor_le, h.ordered, h.logged⟩

/-- What a member that joins sets off is a sequence of elementary changes. -/
theorem join_changes (live : Nat → Bool) (hn : Numbered log) (hc : c.Sound log) (member : Nat) :
    Changes live log (c.enter live member) (c.join live log member).2 (c.join live log member).1 := by
  refine (redeliverAll_changes live hn (hc.enter live member) (fun p hp => ?_) ?_).trans (pump_changes live log _)
  · exact (List.mem_filter.1 hp).1
  · exact hc.ordered.filter _

end Consumer

end Forum.Memory
