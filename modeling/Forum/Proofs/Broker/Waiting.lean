import Forum.Proofs.Broker.Deliveries

/-!
# No pending message gets stuck

A pending message is handed out again when the timer of its last delivery goes off, or when another member joins after
its own member is gone. A timer that goes off while nobody is there to take the message is used up, but then its member
is gone, too. So one of the two is always to come (`Consumer.Guarded`). A member that joins leaves nothing behind with
members that are gone: each of their messages has been handed out once more, or given up (`Consumer.join_takes_over`).
`Course.no_pending_stuck` states both for every run of a broker.
-/

namespace Forum.Memory

namespace Consumer

variable {live live' : Nat → Bool} {log : List StoredMessage} {timers hs hs' : List HandOut} {c d : Consumer}

/-- A live member of the consumer. -/
def Attends (live : Nat → Bool) (c : Consumer) (member : Nat) : Prop := member ∈ c.members ∧ live member = true

/-- A timer runs for the last delivery of a pending message. -/
def Timed (timers : List HandOut) (p : Pending) : Prop :=
  ∃ h ∈ timers, h.seq = p.seq ∧ h.delivery.count = p.count

/-- A timer runs for each pending message, or its member is gone. -/
def Guarded (live : Nat → Bool) (timers : List HandOut) (c : Consumer) : Prop :=
  ∀ p ∈ c.pending, Timed timers p ∨ ¬c.Attends live p.member

/-! ## Timers -/

/-- More timers may run. -/
theorem Timed.append {p : Pending} (h : Timed timers p) (hs : List HandOut) : Timed (timers ++ hs) p := by
  obtain ⟨g, hg, hgp⟩ := h
  exact ⟨g, List.mem_append_left _ hg, hgp⟩

/-- A timer that goes off is that of one delivery only. -/
theorem Timed.erase {p : Pending} (h : Timed timers p) {g : HandOut}
    (hne : ¬(g.seq = p.seq ∧ g.delivery.count = p.count)) : Timed (timers.erase g) p := by
  obtain ⟨f, hf, hfp⟩ := h
  exact ⟨f, (List.mem_erase_of_ne fun (heq : f = g) => hne (heq ▸ hfp)).2 hf, hfp⟩

/-- Where a message was handed out, its timer runs. -/
theorem Guarded.hold (h : c.Guarded live timers) (m : StoredMessage) (member count : Nat) :
    (c.hold m member count).Guarded live (timers ++ [c.handOut m member count]) := by
  intro p hp
  rcases Pending.mem_insert.1 hp with rfl | ⟨hp, -⟩
  · exact .inl ⟨c.handOut m member count, List.mem_append_right _ (List.mem_singleton.2 rfl), rfl, rfl⟩
  · exact (h p hp).imp_left fun htimed => htimed.append _

/-- After an elementary change a timer runs for each pending message, or its member is gone. -/
theorem Change.guarded (h : Change live log c hs d) (hg : c.Guarded live timers) : d.Guarded live (timers ++ hs) := by
  cases h with
  | turn members turn hleaves =>
    intro p hp
    refine (hg p hp).imp (fun htimed => htimed.append []) fun hgone hattends => hgone ⟨?_, hattends.2⟩
    exact hleaves.sublist.subset hattends.1
  | skip _ _ =>
    rw [List.append_nil]
    exact hg
  | first _ _ _ _ => exact hg.hold _ _ _
  | again _ _ _ _ _ => exact hg.hold _ _ _
  | exhaust _ _ =>
    rw [List.append_nil]
    exact fun p hp => hg p (Pending.mem_erase.1 hp).1

/-- After changes one after the other a timer runs for each pending message, or its member is gone. -/
theorem Changes.guarded (h : Changes live log c hs d) (hg : c.Guarded live timers) :
    d.Guarded live (timers ++ hs) :=
  h.traces (P := fun timers c => c.Guarded live timers) (fun hg hchange => hchange.guarded hg) hg

/-- No message is pending twice. -/
theorem Sound.pending_unique (h : c.Sound log) {p q : Pending} (hp : p ∈ c.pending) (hq : q ∈ c.pending)
    (hseq : q.seq = p.seq) : q = p := by
  rcases List.mem_cons.1 ((Pending.perm_erase h.ordered hp).subset hq) with heq | hrest
  · exact heq
  · exact absurd hseq (Pending.mem_erase.1 hrest).2

theorem Sound.pending_getElem? (h : c.Sound log) (hn : Numbered log) {p : Pending} (hp : p ∈ c.pending) :
    log[p.seq - 1]? ≠ none := by
  obtain ⟨m, hm, hseq, -⟩ := h.logged p hp
  rw [← hseq, hn.getElem? hm]
  exact Option.some_ne_none m

/-- The last delivery of a message is over: it is handed out again, given up, or nobody is there. -/
theorem redeliver_guarded (hn : Numbered log) (hc : c.Sound log) (hg : c.Guarded live timers) {p : Pending}
    (hp : p ∈ c.pending) {g : HandOut} (hseq : g.seq = p.seq) :
    (c.redeliver live log p.seq p.count).1.Guarded live
      (timers.erase g ++ (c.redeliver live log p.seq p.count).2) := by
  have hother : ∀ q ∈ c.pending, q.seq ≠ p.seq → Timed (timers.erase g) q ∨ ¬c.Attends live q.member :=
    fun q hq hne => (hg q hq).imp_left fun htimed => htimed.erase fun heq => hne (heq.1.symm.trans hseq)
  have hcase := redelivery live log c p
  generalize c.redeliver live log p.seq p.count = result at hcase
  cases hcase with
  | exhausted _ =>
    rw [List.append_nil]
    intro q hq
    obtain ⟨hq, hne⟩ := Pending.mem_erase.1 hq
    exact hother q hq hne
  | missing hm => exact absurd hm (hc.pending_getElem? hn hp)
  | refused _ _ => exact fun q _ => .inr fun hattends => nomatch hattends.1
  | @taken m member members turn hleaves _ hm _ _ =>
    obtain ⟨-, hmseq, -⟩ := hc.pending_message hn hp hm
    intro q hq
    rcases Pending.mem_insert.1 hq with rfl | ⟨hq, hne⟩
    · exact .inl ⟨c.handOut m member (p.count + 1), List.mem_append_right _ (List.mem_singleton.2 rfl), rfl, rfl⟩
    · refine (hother q hq fun heq => hne (heq.trans hmseq.symm)).imp (fun htimed => htimed.append _) ?_
      exact fun hgone hattends => hgone ⟨hleaves.sublist.subset hattends.1, hattends.2⟩

/-- A timer has gone off, and for each message that is still pending one runs, or its member is gone. -/
theorem expire_guarded (hn : Numbered log) (hc : c.Sound log) (hg : c.Guarded live timers) (g : HandOut) :
    (c.expire live log g.seq g.delivery.count).1.Guarded live
      (timers.erase g ++ (c.expire live log g.seq g.delivery.count).2) := by
  unfold expire
  split
  · rename_i hlast
    obtain ⟨p, hfind, hcount⟩ := (Option.any_eq_true _ _).1 hlast
    obtain ⟨hp, hseq⟩ := Pending.find?_eq_some hfind
    rw [← hseq, ← of_decide_eq_true hcount]
    exact redeliver_guarded hn hc hg hp hseq.symm
  · rename_i hlast
    rw [List.append_nil]
    refine fun p hp => (hg p hp).imp_left fun htimed => htimed.erase fun ⟨hseq, hcount⟩ => hlast ?_
    have hfind : Pending.find? c.pending g.seq = some p := by
      cases hq : Pending.find? c.pending g.seq with
      | none => simpa [hseq] using List.find?_eq_none.1 hq p hp
      | some q =>
        obtain ⟨hmem, hqseq⟩ := Pending.find?_eq_some hq
        rw [hc.pending_unique hp hmem (hqseq.trans hseq)]
    rw [hfind, hcount]
    simp

/-- A settlement leaves the timers of the other pending messages. -/
theorem Guarded.settle (h : c.Guarded live timers) (seq : Nat) (giveUp : Bool) :
    (c.settle seq giveUp).Guarded live timers := by
  unfold Consumer.settle
  split
  · exact fun p hp => h p (Pending.mem_erase.1 hp).1
  · exact h

/-- Whoever is gone stays so, when others come and go. -/
theorem Guarded.mono (h : c.Guarded live timers) (hpending : d.pending = c.pending)
    (hattends : ∀ p ∈ c.pending, d.Attends live' p.member → c.Attends live p.member) : d.Guarded live' timers := by
  intro p hp
  rw [hpending] at hp
  exact (h p hp).imp_right fun hgone hback => hgone (hattends p hp hback)

/-! ## Taking over -/

theorem Leaves.attends {members : List Nat} {turn : UInt64} (h : Leaves live c.members members) {member : Nat}
    (ha : c.Attends live member) : Attends live { c with members := members, turn := turn } member :=
  ⟨h.mem_of_live member ha.1 ha.2, ha.2⟩

/-- Elementary changes keep live members, and what they hand out goes to one of them. So a pending message is held by a
live member unless it was not before, in which case something can be known of it. -/
theorem Change.attended {E : Pending → Prop} (h : Change live log c hs d)
    (hc : ∀ p ∈ c.pending, c.Attends live p.member ∨ E p) :
    (∀ member, c.Attends live member → d.Attends live member) ∧ ∀ p ∈ d.pending, d.Attends live p.member ∨ E p := by
  cases h with
  | turn members turn hleaves =>
    exact ⟨fun _ => hleaves.attends, fun p hp => (hc p hp).imp_left hleaves.attends⟩
  | skip _ _ => exact ⟨fun _ ha => ha, hc⟩
  | first _ _ hmember hlive =>
    refine ⟨fun _ ha => ha, fun p hp => ?_⟩
    rcases Pending.mem_insert.1 hp with rfl | ⟨hp, -⟩
    · exact .inl ⟨hmember, hlive⟩
    · exact hc p hp
  | again _ _ _ hmember hlive =>
    refine ⟨fun _ ha => ha, fun p hp => ?_⟩
    rcases Pending.mem_insert.1 hp with rfl | ⟨hp, -⟩
    · exact .inl ⟨hmember, hlive⟩
    · exact hc p hp
  | exhaust _ _ => exact ⟨fun _ ha => ha, fun p hp => hc p (Pending.mem_erase.1 hp).1⟩

/-- Changes one after the other lose no live member, and what they hand out goes to live members. -/
theorem Changes.attended {E : Pending → Prop} (h : Changes live log c hs d)
    (hc : ∀ p ∈ c.pending, c.Attends live p.member ∨ E p) :
    (∀ member, c.Attends live member → d.Attends live member) ∧ ∀ p ∈ d.pending, d.Attends live p.member ∨ E p := by
  induction h with
  | refl c => exact ⟨fun _ ha => ha, hc⟩
  | head h _ ih =>
    obtain ⟨hkept, hd⟩ := h.attended hc
    obtain ⟨hkept', he⟩ := ih hd
    exact ⟨fun member ha => hkept' member (hkept member ha), he⟩

/-- The entries of some messages are as they were, and what was given up stays so. -/
structure Spares (spared : Nat → Prop) (c d : Consumer) : Prop where
  pending : ∀ p, spared p.seq → (p ∈ d.pending ↔ p ∈ c.pending)
  exhausted : c.exhausted ⊆ d.exhausted

theorem Spares.of_eq {spared : Nat → Prop} (hpending : d.pending = c.pending) (hexhausted : d.exhausted = c.exhausted) :
    Spares spared c d :=
  ⟨fun _ _ => by rw [hpending], fun _ hs => by rwa [hexhausted]⟩

/-- What two steps spare, they spare one after the other. -/
theorem Spares.trans {spared : Nat → Prop} {e : Consumer} (h : Spares spared c d) (h' : Spares spared d e) :
    Spares spared c e :=
  ⟨fun p hp => (h'.pending p hp).trans (h.pending p hp), fun _ hs => h'.exhausted (h.exhausted hs)⟩

theorem Spares.mono {spared spared' : Nat → Prop} (h : Spares spared c d) (hle : ∀ seq, spared' seq → spared seq) :
    Spares spared' c d := ⟨fun p hp => h.pending p (hle _ hp), h.exhausted⟩

theorem Spares.of_insert {p : Pending} (hpending : d.pending = Pending.insert c.pending p)
    (hexhausted : d.exhausted = c.exhausted) : Spares (· ≠ p.seq) c d where
  pending q hne := by
    rw [hpending, Pending.mem_insert]
    refine ⟨?_, fun hq => .inr ⟨hq, hne⟩⟩
    rintro (rfl | ⟨hq, -⟩)
    · exact absurd rfl hne
    · exact hq
  exhausted _ hs := by rwa [hexhausted]

/-- A redelivery leaves other messages alone. -/
theorem redeliver_spares (hn : Numbered log) (hc : c.Sound log) {p : Pending} (hp : p ∈ c.pending) :
    Spares (· ≠ p.seq) c (c.redeliver live log p.seq p.count).1 := by
  have hcase := redelivery live log c p
  generalize c.redeliver live log p.seq p.count = result at hcase
  cases hcase with
  | exhausted _ =>
    exact ⟨fun q hne => Pending.mem_erase.trans ⟨fun hq => hq.1, fun hq => ⟨hq, hne⟩⟩,
      fun _ hs => List.mem_append_left _ hs⟩
  | missing _ => exact .of_eq rfl rfl
  | refused _ _ => exact .of_eq rfl rfl
  | @taken m taker members turn _ _ hm _ _ =>
    obtain ⟨-, hseq, -⟩ := hc.pending_message hn hp hm
    rw [← hseq]
    exact .of_insert (p := ⟨m.seq, p.count + 1, taker⟩) rfl rfl

/-- A pump leaves alone what was handed out before. -/
theorem consider_spares (live : Nat → Bool) (hn : Numbered log) {ms : List StoredMessage}
    (h : ms = log.drop c.cursor) : Spares (· ≤ c.cursor) c (consider live ms c).1 := by
  induction ms generalizing c with
  | nil => exact .of_eq rfl rfl
  | cons m ms ih =>
    have hm : log[c.cursor]? = some m := by
      rw [← List.head?_drop, ← h, List.head?_cons]
    have hms : ms = log.drop (c.cursor + 1) := by
      rw [← List.tail_drop, ← h, List.tail_cons]
    have hrest : ∀ e : Consumer, e.cursor = c.cursor → Spares (· ≤ c.cursor) e
        (consider live ms { e with cursor := e.cursor + 1 }).1 := by
      intro e he
      have hspares := ih (c := { e with cursor := e.cursor + 1 }) (he ▸ hms)
      exact ⟨fun p hp => hspares.pending p (by simp only; omega), hspares.exhausted⟩
    rw [consider]
    split
    · obtain ⟨members, turn, -, ⟨-, ho⟩ | ⟨member, -, -, ho⟩⟩ := offer_cases live c m 1
      · rw [ho]
        exact .of_eq rfl rfl
      · rw [ho]
        have hheld : Spares (· ≠ m.seq) c ({ c with members := members, turn := turn }.hold m member 1) :=
          .of_insert (p := ⟨m.seq, 1, member⟩) rfl rfl
        refine .trans (hheld.mono fun seq hle heq => ?_) (hrest _ rfl)
        rw [heq, hn _ m hm] at hle
        exact Nat.not_succ_le_self _ hle
    · exact hrest c rfl

/-- A pending message was handed out once more, or given up. -/
def Handled (p : Pending) (result : Consumer × List HandOut) : Prop :=
  (∃ h ∈ result.2, h.seq = p.seq ∧ h.delivery.count = p.count + 1 ∧
      (⟨p.seq, p.count + 1, h.member⟩ : Pending) ∈ result.1.pending) ∨
    (p.seq ∈ result.1.exhausted ∧ ∀ q ∈ result.1.pending, q.seq ≠ p.seq)

theorem Handled.spared {spared : Nat → Prop} {p : Pending} (h : Handled p (c, hs)) (hs' : List HandOut)
    (hspares : Spares spared c d) (hp : spared p.seq) : Handled p (d, hs ++ hs') := by
  rcases h with ⟨g, hg, hseq, hcount, hmem⟩ | ⟨hgone, hnone⟩
  · exact .inl ⟨g, List.mem_append_left _ hg, hseq, hcount,
      (hspares.pending ⟨p.seq, p.count + 1, g.member⟩ hp).2 hmem⟩
  · refine .inr ⟨hspares.exhausted hgone, fun q hq heq => ?_⟩
    exact hnone q ((hspares.pending q (heq.symm ▸ hp)).1 hq) heq

theorem Handled.later {p : Pending} (h : Handled p (c, hs)) (hs' : List HandOut) : Handled p (c, hs' ++ hs) := by
  refine h.imp_left ?_
  rintro ⟨g, hg, hgp⟩
  exact ⟨g, List.mem_append_right _ hg, hgp⟩

/-- Somebody is there to take the message. -/
theorem redeliver_handled (hn : Numbered log) (hc : c.Sound log) {p : Pending} (hp : p ∈ c.pending) {member : Nat}
    (hthere : c.Attends live member) : Handled p (c.redeliver live log p.seq p.count) := by
  have hcase := redelivery live log c p
  generalize c.redeliver live log p.seq p.count = result at hcase
  cases hcase with
  | exhausted _ =>
    exact .inr ⟨List.mem_append_right _ (List.mem_singleton.2 rfl), fun q hq => (Pending.mem_erase.1 hq).2⟩
  | missing hm => exact absurd hm (hc.pending_getElem? hn hp)
  | refused _ hleaves => nomatch hleaves.mem_of_live member hthere.1 hthere.2
  | @taken m taker members turn _ _ hm _ _ =>
    obtain ⟨-, hseq, -⟩ := hc.pending_message hn hp hm
    refine .inl ⟨c.handOut m taker (p.count + 1), List.mem_singleton.2 rfl, hseq, rfl, ?_⟩
    rw [← hseq]
    exact Pending.mem_insert.2 (.inl rfl)

/-- Each of some pending messages is handed out once more or given up, and the others are left alone. -/
theorem redeliverAll_handled (hn : Numbered log) {ps : List Pending} (hc : c.Sound log) (hps : ∀ p ∈ ps, p ∈ c.pending)
    (hne : ps.Pairwise fun p q => p.seq < q.seq) {member : Nat} (hthere : c.Attends live member) :
    (∀ p ∈ ps, Handled p (redeliverAll live log ps c)) ∧
      Spares (fun seq => ∀ p ∈ ps, seq ≠ p.seq) c (redeliverAll live log ps c).1 := by
  induction ps generalizing c with
  | nil => exact ⟨(fun _ h => nomatch h), .of_eq rfl rfl⟩
  | cons p ps ih =>
    obtain ⟨hlt, hne⟩ := List.pairwise_cons.1 hne
    have hp : p ∈ c.pending := hps p List.mem_cons_self
    have hchanges := redeliver_changes live log hp
    have hrest : ∀ q ∈ ps, q ∈ (c.redeliver live log p.seq p.count).1.pending := fun q hq =>
      mem_pending_redeliver hn hc hp (hps q (List.mem_cons_of_mem _ hq)) (Nat.ne_of_lt (hlt q hq))
    have hthere' : (c.redeliver live log p.seq p.count).1.Attends live member :=
      (hchanges.attended (E := fun _ => True) fun _ _ => .inr trivial).1 member hthere
    obtain ⟨hhandled, hspares⟩ := ih (hchanges.sound hn hc).1.1 hrest hne hthere'
    constructor
    · intro q hq
      rcases List.mem_cons.1 hq with rfl | hq
      · exact (redeliver_handled hn hc hp hthere).spared _ hspares fun r hr => Nat.ne_of_lt (hlt r hr)
      · exact (hhandled q hq).later _
    · have hfirst : Spares (· ≠ p.seq) c (c.redeliver live log p.seq p.count).1 := redeliver_spares hn hc hp
      exact (hfirst.mono fun seq hseq => hseq p List.mem_cons_self).trans
        (hspares.mono fun seq hseq q hq => hseq q (List.mem_cons_of_mem _ hq))

/-- A member that joins takes over. Whatever is pending then is held by a live member, and what none held was handed out
once more or given up. -/
theorem join_takes_over (hn : Numbered log) (hc : c.Sound log) (hcursor : ∀ p ∈ c.pending, p.seq ≤ c.cursor)
    {member : Nat} (hlive : live member = true) :
    (∀ p ∈ (c.join live log member).1.pending, (c.join live log member).1.Attends live p.member) ∧
      ∀ p ∈ c.pending, ¬(c.enter live member).Attends live p.member → Handled p (c.join live log member) := by
  have hthere : (c.enter live member).Attends live member :=
    ⟨List.mem_append_right _ (List.mem_singleton.2 rfl), hlive⟩
  have horphans : ∀ p, p ∈ (c.enter live member).orphans live ↔
      p ∈ c.pending ∧ ¬(c.enter live member).Attends live p.member := by
    intro p
    rw [orphans, List.mem_filter]
    simp only [Attends, Bool.not_eq_true', ← Bool.not_eq_true, Bool.and_eq_true, List.contains_iff_mem]
    rfl
  have hsub : ∀ p ∈ (c.enter live member).orphans live, p ∈ c.pending := fun p hp => ((horphans p).1 hp).1
  have hne : ((c.enter live member).orphans live).Pairwise fun p q => p.seq < q.seq := hc.ordered.filter _
  have hredelivered := redeliverAll_changes live hn (hc.enter live member) hsub hne
  have hjoined := join_changes live hn hc member
  have htaken : ∀ p ∈ c.pending, ¬(c.enter live member).Attends live p.member → Handled p (c.join live log member) := by
    intro p hp hgone
    have hhandled := (redeliverAll_handled hn (hc.enter live member) hsub hne hthere).1 p ((horphans p).2 ⟨hp, hgone⟩)
    exact hhandled.spared _ (consider_spares live hn rfl) (Nat.le_trans (hcursor p hp) hredelivered.cursor_le)
  refine ⟨fun p hp => ?_, htaken⟩
  have hheld := (hjoined.attended (E := fun p => p ∈ (c.enter live member).orphans live) fun q hq => ?_).2 p hp
  · refine hheld.resolve_right fun horphan => ?_
    -- It was handed out once more, so that it is not pending as it was.
    obtain ⟨hmem, hgone⟩ := (horphans p).1 horphan
    rcases htaken p hmem hgone with ⟨g, -, -, -, hnew⟩ | ⟨-, hnone⟩
    · have hsame := ((hjoined.sound hn (hc.enter live member)).1.1).pending_unique hp hnew rfl
      exact Nat.succ_ne_self p.count (congrArg Pending.count hsame)
    · exact hnone p hp rfl
  · by_cases hattends : (c.enter live member).Attends live q.member
    · exact .inl hattends
    · exact .inr ((horphans q).2 ⟨hq, hattends⟩)

end Consumer

namespace Sight

variable {k : Creation} {v w : Sight}

/-- A member that is new is none of those that were there. -/
theorem isLive_welcome {member : Nat} (hle : member ≤ v.joined) (h : v.welcome.isLive member = true) :
    v.isLive member = true := by
  have hmem : member ∈ v.live ++ [v.joined + 1] := List.contains_iff_mem.1 h
  rcases List.mem_append.1 hmem with hmem | hmem
  · exact List.contains_iff_mem.2 hmem
  · rw [List.mem_singleton.1 hmem] at hle
    exact absurd hle (Nat.not_succ_le_self _)

/-- One that was no live member is not when a new one joins. -/
theorem Grounded.attends_enroll (h : Grounded k v) {p : Pending} (hp : p ∈ v.consumer.pending)
    (hattends : v.enroll.consumer.Attends v.enroll.isLive p.member) : v.consumer.Attends v.isLive p.member := by
  have hle : p.member ≤ v.joined := h.ours_le _ (h.among.pending p hp)
  refine ⟨?_, isLive_welcome hle hattends.2⟩
  rcases List.mem_append.1 hattends.1 with hmem | hmem
  · exact (List.mem_filter.1 hmem).1
  · rw [List.mem_singleton.1 hmem] at hle
    exact absurd hle (Nat.not_succ_le_self _)

/-- Whatever a durable comes to see, a timer runs for each pending message, or its member is gone. -/
theorem Reachable.guarded (h : Reachable k v) : v.consumer.Guarded v.isLive v.timers := by
  induction h with
  | made _ _ _ => exact fun _ h => nomatch h
  | @step v w h hstep ih =>
    have hg := h.grounded
    cases hstep with
    | logged _ _ _ => exact ih
    | published _ _ _ => exact (Consumer.pump_changes _ _ _).guarded ih
    | welcomed =>
      refine ih.mono rfl fun p hp hattends => ⟨hattends.1, isLive_welcome ?_ hattends.2⟩
      exact hg.ours_le _ (hg.among.pending p hp)
    | joined => exact hg.join_changes.guarded (ih.mono rfl fun p hp => hg.attends_enroll hp)
    | disconnected => exact ih.mono rfl fun p _ hattends => nomatch hattends.1
    | dropped member =>
      refine ih.mono rfl fun p _ hattends => ⟨hattends.1, List.contains_iff_mem.2 ?_⟩
      exact (List.mem_filter.1 (List.contains_iff_mem.1 hattends.2)).1
    | settled g _ giveUp => exact ih.settle _ _
    | expired g _ => exact Consumer.expire_guarded hg.numbered hg.sound ih g

/-- A member that joins takes over what no live member holds. -/
theorem Reachable.takes_over (h : Reachable k v) :
    (∀ p ∈ v.join.consumer.pending, v.join.consumer.Attends v.join.isLive p.member) ∧
      ∀ p ∈ v.consumer.pending, ¬v.consumer.Attends v.isLive p.member →
        Consumer.Handled p (v.consumer.join v.enroll.isLive v.log (v.joined + 1)) := by
  have hg := h.grounded
  have ha := h.accounted
  have hcursor : ∀ p ∈ v.consumer.pending, p.seq ≤ v.consumer.cursor := fun p hp =>
    (ha.ordered hg.numbered).2 _ (ha.pending_mem hp)
  have hlive : v.enroll.isLive (v.joined + 1) = true :=
    List.contains_iff_mem.2 (List.mem_append_right _ (List.mem_singleton.2 rfl))
  obtain ⟨hheld, htaken⟩ := Consumer.join_takes_over hg.numbered hg.sound hcursor hlive
  exact ⟨hheld, fun p hp hgone => htaken p hp fun hattends => hgone (hg.attends_enroll hp hattends)⟩

end Sight

namespace Course

/-- In every run there is a timer for the last delivery of each pending message, or its member is gone. Whenever a
member joins a durable, all that is pending is held by live members then, and what none of them held has been handed out
once more or given up. -/
theorem no_pending_stuck (rs : List Request) :
    (∀ durable c, (run rs).broker.consumers.get? durable = some c → ∀ p ∈ c.pending,
      (∃ h ∈ (run rs).timers, h.durable = durable ∧ h.seq = p.seq ∧ h.delivery.count = p.count) ∨
        ¬c.Attends (run rs).broker.isLive p.member) ∧
    ∀ subject options member b hs, (run rs).broker.subscribe subject options = .ok (member, b, hs) →
      ∃ c', b.consumers.get? options.durable = some c' ∧ (∀ p ∈ c'.pending, c'.Attends b.isLive p.member) ∧
        ∀ c, (run rs).broker.consumers.get? options.durable = some c → ∀ p ∈ c.pending,
          ¬c.Attends (run rs).broker.isLive p.member → Consumer.Handled p (c', hs) := by
  constructor
  · intro durable c hc p hp
    obtain ⟨k, -, hreach⟩ := reachable_run rs hc
    refine (hreach.guarded p hp).imp_left ?_
    rintro ⟨h, hh, hhp⟩
    obtain ⟨hmem, hname⟩ := mem_handedBy.1 hh
    exact ⟨h, hmem, hname, hhp⟩
  · intro subject options member b hs hsub
    obtain ⟨c₀, hc₀, -, -, rfl, rfl⟩ := Broker.subscribe_eq_ok hsub
    obtain ⟨k, v, hreach, hlog, hlive, hjoined, hconsumer, hname⟩ := (charted_run rs).joinable subject options
    obtain ⟨log, live, joined, consumer, handed, timers, acked, ours⟩ := v
    obtain rfl : log = (run rs).broker.log := hlog
    obtain rfl : live = (run rs).broker.live := hlive
    obtain rfl : joined = (run rs).broker.joined := hjoined
    obtain rfl : consumer = c₀ := hconsumer.trans hc₀
    obtain ⟨hheld, htaken⟩ := hreach.takes_over
    have hkept := (congrArg SubscriptionOptions.durable hreach.grounded.join_changes.options.1).trans hname
    refine ⟨_, (Broker.get?_put _ _ _).trans (if_pos hkept.symm), hheld, fun c hc p hp hgone => ?_⟩
    rw [hc] at hc₀
    obtain rfl : c = consumer := hc₀
    exact htaken p hp hgone

/-- The timer of a message goes off when its member is gone. -/
def abandoned : List Request :=
  [.publish "s" [] [], .subscribe "s" ⟨"d", true, 1000, none⟩, .drop 1, .expire (parcel 1 1 1)]

/-- The next member takes the message over. -/
theorem abandoned_taken_over :
    (run abandoned).timers = [] ∧
      ∃ member b hs c', (run abandoned).broker.subscribe "s" ⟨"d", true, 1000, none⟩ = .ok (member, b, hs) ∧
        b.consumers.get? "d" = some c' ∧ Consumer.Handled ⟨1, 1, 1⟩ (c', hs) := by
  have hc : (run abandoned).broker.consumers.get? "d" =
      some ⟨"s", ⟨"d", true, 1000, none⟩, 1, [⟨1, 1, 1⟩], [], 2, [], []⟩ := by decide +kernel
  have hok : ((run abandoned).broker.subscribe "s" ⟨"d", true, 1000, none⟩).isOk = true := by decide +kernel
  cases hsub : (run abandoned).broker.subscribe "s" ⟨"d", true, 1000, none⟩ with
  | error e =>
    rw [hsub] at hok
    nomatch hok
  | ok result =>
    obtain ⟨member, b, hs⟩ := result
    obtain ⟨c', hc', -, htaken⟩ := (no_pending_stuck abandoned).2 _ _ _ _ _ hsub
    refine ⟨by decide +kernel, member, b, hs, c', rfl, hc', ?_⟩
    exact htaken _ hc ⟨1, 1, 1⟩ List.mem_cons_self fun hattends => nomatch hattends.1

end Course

end Forum.Memory
