import Forum.Proofs.Broker.Consumer
import Forum.Memory.Broker

/-!
# No message slips through

A consumer covers the log when every message on its subject is still to come, pending, or done with (`Covers`). An
elementary change of a consumer that hands out without limit keeps this, and so does the settling of a message that is
done with. The section on brokers lifts both to what is asked of a broker.
-/

namespace Forum.Memory

namespace Consumer

variable {live : Nat → Bool} {log : List StoredMessage} {c d : Consumer} {hs : List HandOut}

/-! ## One consumer -/

/-- Every message on the subject is still to come, pending, or done with. -/
def Covers (log : List StoredMessage) (done : StoredMessage → Prop) (c : Consumer) : Prop :=
  ∀ m ∈ log, m.subject = c.subject → c.cursor < m.seq ∨ (∃ p ∈ c.pending, p.seq = m.seq) ∨ done m

variable {done : StoredMessage → Prop}

/-- More messages may be done with. -/
theorem Covers.mono {done' : StoredMessage → Prop} (h : c.Covers log done) (hd : ∀ m, done m → done' m) :
    c.Covers log done' := fun m hm hs => (h m hm hs).imp_right fun h => h.imp_right (hd m)

/-- Entries that only become more do no harm. -/
theorem Covers.hold (h : c.Covers log done) (m : StoredMessage) (member count : Nat) :
    (c.hold m member count).Covers log done := by
  intro n hn hs
  rcases h n hn hs with hcur | ⟨p, hp, hseq⟩ | hdone
  · exact .inl hcur
  · refine .inr (.inl ?_)
    by_cases hpm : p.seq = m.seq
    · exact ⟨_, Pending.mem_insert.2 (.inl rfl), hpm.symm.trans hseq⟩
    · exact ⟨p, Pending.mem_insert.2 (.inr ⟨hp, hpm⟩), hseq⟩
  · exact .inr (.inr hdone)

/-- A consumer that hands out without limit loses nothing by an elementary change. -/
theorem Change.covers (hn : Numbered log) (h : Change live log c hs d) (hmax : c.options.maxDeliver = none)
    (hc : c.Covers log done) : d.Covers log done ∧ d.exhausted = c.exhausted := by
  cases h with
  | turn members turn _ => exact ⟨hc, rfl⟩
  | @skip m hm hs =>
    refine ⟨fun n hn' hns => ?_, rfl⟩
    rcases hc n hn' hns with hcur | hrest
    · refine .inl (Nat.lt_of_le_of_ne hcur fun heq => hs ?_)
      have hseq : m.seq = n.seq := (hn _ m hm).trans heq
      rw [hn.unique (List.mem_of_getElem? hm) hn' hseq]
      exact hns
    · exact .inr hrest
  | @first m member hm hs _ _ =>
    refine ⟨fun n hn' hns => ?_, rfl⟩
    rcases hc.hold m member 1 n hn' hns with hcur | hrest
    · by_cases heq : c.cursor + 1 = n.seq
      · exact .inr (.inl ⟨_, Pending.mem_insert.2 (.inl rfl), (hn _ m hm).trans heq⟩)
      · exact .inl (Nat.lt_of_le_of_ne hcur heq)
    · exact .inr hrest
  | again _ _ _ _ _ => exact ⟨hc.hold _ _ _, rfl⟩
  | exhaust _ hspent =>
    unfold isSpent at hspent
    rw [hmax] at hspent
    nomatch hspent

/-- Changes one after the other leave no message out, and exhaust none. -/
theorem Changes.covers (hn : Numbered log) (h : Changes live log c hs d) (hc : c.Sound log)
    (hmax : c.options.maxDeliver = none) (hcov : c.Covers log done) :
    d.Covers log done ∧ d.exhausted = c.exhausted := by
  have hkeeps := h.keeps (Q := fun _ => True)
    (P := fun d => d.Sound log ∧ d.options.maxDeliver = none ∧ d.Covers log done ∧ d.exhausted = c.exhausted) ?_
    ⟨hc, hmax, hcov, rfl⟩
  · obtain ⟨⟨-, -, hd⟩, -⟩ := hkeeps
    exact hd
  · rintro c' hs' d' ⟨hc', hmax', hcov', hex'⟩ hchange
    obtain ⟨⟨hd, -, hoptions⟩, -⟩ := hchange.sound hn hc'
    obtain ⟨hdcov, hex⟩ := hchange.covers hn hmax' hcov'
    exact ⟨⟨hd, hoptions ▸ hmax', hdcov, hex.trans hex'⟩, fun _ _ => trivial⟩

/-- A message that is settled has to be done with. -/
theorem Covers.settle (h : c.Covers log done) {m : StoredMessage} (hn : Numbered log) (hm : m ∈ log) (hd : done m)
    (giveUp : Bool) : (c.settle m.seq giveUp).Covers log done := by
  unfold Consumer.settle
  split
  · intro n hn' hns
    rcases h n hn' hns with hcur | ⟨p, hp, hseq⟩ | hdone
    · exact .inl hcur
    · by_cases hpm : p.seq = m.seq
      · exact .inr (.inr (hn.unique hm hn' (hpm.symm.trans hseq) ▸ hd))
      · exact .inr (.inl ⟨p, Pending.mem_erase.2 ⟨hp, hpm⟩, hseq⟩)
    · exact .inr (.inr hdone)
  · exact h

/-- A new message is still to come for every consumer that was not ahead of the log. -/
theorem Covers.append (h : c.Covers log done) {m : StoredMessage} (hcur : c.cursor ≤ log.length)
    (hm : m.seq = log.length + 1) : c.Covers (log ++ [m]) done := by
  intro n hn hs
  rcases List.mem_append.1 hn with hn | hn
  · exact h n hn hs
  · obtain rfl := List.mem_singleton.1 hn
    exact .inl (by omega)

/-! ## Watched consumers -/

/-- The consumer of a durable that a subscriber of a group listens to: it is on the subject of the durable, hands out
without limit, gave no message up, and covers the log. -/
def Watched (group : String) (log : List StoredMessage) (done : StoredMessage → Prop) (c : Consumer) : Prop :=
  ∀ subject ∈ Subject.posts, c.options.durable = Subject.durableName group subject →
    c.subject = subject ∧ c.options.maxDeliver = none ∧ c.exhausted = [] ∧ c.Covers log done

variable {group : String}

/-- A delivery brings what the log holds, and one for a durable of the group is on the subject of the durable. -/
structure Proper (group : String) (log : List StoredMessage) (h : HandOut) : Prop where
  genuine : Genuine log h
  subject_eq : ∀ subject ∈ Subject.posts, h.durable = Subject.durableName group subject → h.delivery.subject = subject

/-- A hand-out stays proper when the log grows. -/
theorem Proper.mono {log' : List StoredMessage} {h : HandOut} (hp : Proper group log h) (hlog : log <+: log') :
    Proper group log' h :=
  ⟨hp.genuine.mono hlog, hp.subject_eq⟩

/-- Elementary changes keep a consumer sound and watched, and hand out what is in the log. -/
theorem Changes.watched (hn : Numbered log) (h : Changes live log c hs d) (hc : c.Sound log ∧ c.Watched group log done) :
    (d.Sound log ∧ d.Watched group log done) ∧ ∀ h ∈ hs, Proper group log h := by
  obtain ⟨hsound, hwatched⟩ := hc
  obtain ⟨⟨hd, hsubject, hoptions⟩, hhs⟩ := h.sound hn hsound
  refine ⟨⟨hd, fun subject hsub hdur => ?_⟩, fun h hh => ?_⟩
  · rw [hoptions] at hdur
    obtain ⟨hcs, hmax, hex, hcov⟩ := hwatched subject hsub hdur
    obtain ⟨hdcov, hdex⟩ := h.covers hn hsound hmax hcov
    exact ⟨hsubject.trans hcs, hoptions ▸ hmax, hdex.trans hex, hdcov⟩
  · obtain ⟨hgenuine, hdurable, hs⟩ := hhs h hh
    exact ⟨hgenuine, fun subject hsub hdur => hs.trans (hwatched subject hsub (hdurable.symm.trans hdur)).1⟩

/-- More messages may be done with. -/
theorem Watched.mono {done' : StoredMessage → Prop} (h : c.Watched group log done) (hd : ∀ m, done m → done' m) :
    c.Watched group log done' := by
  intro subject hsub hdur
  obtain ⟨hcs, hmax, hex, hcov⟩ := h subject hsub hdur
  exact ⟨hcs, hmax, hex, hcov.mono hd⟩

/-- One more message is kept, and is still to be handed out. -/
theorem Watched.append (h : c.Watched group log done) (hc : c.Sound log) {m : StoredMessage}
    (hm : m.seq = log.length + 1) : c.Watched group (log ++ [m]) done := by
  intro subject hsub hdur
  obtain ⟨hcs, hmax, hex, hcov⟩ := h subject hsub hdur
  exact ⟨hcs, hmax, hex, hcov.append hc.cursor_le hm⟩

/-- A message that is done with may be settled. -/
theorem Watched.settle (h : c.Watched group log done) {m : StoredMessage} (hn : Numbered log) (hm : m ∈ log)
    (hd : done m) (giveUp : Bool) : (c.settle m.seq giveUp).Watched group log done := by
  have hsame : (c.settle m.seq giveUp).options = c.options ∧ (c.settle m.seq giveUp).subject = c.subject ∧
      (c.settle m.seq giveUp).exhausted = c.exhausted := by
    unfold Consumer.settle
    split <;> exact ⟨rfl, rfl, rfl⟩
  obtain ⟨hoptions, hsubject, hexhausted⟩ := hsame
  intro subject hsub hdur
  rw [hoptions] at hdur
  obtain ⟨hcs, hmax, hex, hcov⟩ := h subject hsub hdur
  exact ⟨hsubject.trans hcs, hoptions ▸ hmax, hexhausted.trans hex, hcov.settle hn hm hd giveUp⟩

end Consumer

/-! ## Brokers -/

theorem Rows.exists_of_mem_values {ν : Type} {r : Rows ν} {v : ν} (h : v ∈ r.values) : ∃ k, r.get? k = some v := by
  obtain ⟨⟨k, w⟩, hmem, rfl⟩ := List.mem_map.1 h
  exact ⟨k, Rows.lookup_of_mem r.ascending hmem⟩

namespace Broker

open Consumer

/-- Every consumer is kept under its durable name and has a property. -/
def Every (b : Broker) (P : Consumer → Prop) : Prop :=
  ∀ d c, b.consumers.get? d = some c → c.options.durable = d ∧ P c

variable {P Q : Consumer → Prop} {R : HandOut → Prop} {b : Broker} {c : Consumer}

/-- What follows for each consumer holds of every one. -/
theorem Every.mono (h : b.Every P) (hPQ : ∀ c, P c → Q c) : b.Every Q := by
  intro d c hc
  obtain ⟨hdur, hP⟩ := h d c hc
  exact ⟨hdur, hPQ c hP⟩

/-- A consumer that comes further keeps to it as all the others do. -/
theorem Every.put (h : b.Every P) (hc : P c) : (b.put c).Every P := by
  intro d e he
  have hget : (if d = c.options.durable then some c else b.consumers.get? d) = some e := by
    rw [← Rows.get?_insert]
    exact he
  split at hget
  · rename_i hd
    obtain rfl := Option.some.inj hget
    exact ⟨hd.symm, hc⟩
  · exact h d e hget

theorem Every.of_mem_values (h : b.Every P) (hc : c ∈ b.consumers.values) : P c := by
  obtain ⟨d, hd⟩ := Rows.exists_of_mem_values hc
  exact (h d c hd).2

/-- Pumping leaves the log. -/
@[simp] theorem log_pumpAll (cs : List Consumer) (b : Broker) : (pumpAll cs b).1.log = b.log := by
  induction cs generalizing b with
  | nil => rfl
  | cons c cs ih => exact ih _

/-! ## The log -/

/-- A message that is published is kept as the last one. -/
theorem log_publish (b : Broker) (subject : String) (headers : Headers) (payload : Payload) :
    (b.publish subject headers payload).1.log = b.log ++ [⟨b.log.length + 1, subject, headers, payload⟩] :=
  log_pumpAll _ _

/-- A timer leaves the log. -/
theorem log_expire (b : Broker) (durable : String) (seq count : Nat) :
    (b.expire durable seq count).1.log = b.log := by
  unfold Broker.expire
  split <;> rfl

/-- A member that joins leaves the log. -/
theorem log_subscribe {b' : Broker} {subject : String} {options : SubscriptionOptions} {member : Nat}
    {hs : List HandOut} (h : b.subscribe subject options = .ok (member, b', hs)) : b'.log = b.log := by
  unfold Broker.subscribe at h
  simp only at h
  split at h
  · obtain ⟨-, rfl, -⟩ : _ ∧ (b.join _).2.1 = b' ∧ _ := by simpa [Prod.ext_iff] using h
    rfl
  · nomatch h

/-- A settlement leaves the log. -/
theorem log_settle {b' : Broker} {durable : String} {seq : Nat} {giveUp : Bool}
    (h : b.settle durable seq giveUp = .ok b') : b'.log = b.log := by
  unfold Broker.settle at h
  cases hget : b.consumers.get? durable with
  | none => simp [hget] at h
  | some c =>
    simp only [hget, Except.ok.injEq] at h
    rw [← h]
    rfl

/-- Parting from all members leaves the log. -/
theorem log_disconnectAll (b : Broker) : b.disconnectAll.log = b.log := by
  have hfold : ∀ (cs : List Consumer) (b' : Broker),
      (cs.foldl (fun b c => b.put { c with members := [] }) b').log = b'.log := by
    intro cs
    induction cs with
    | nil => exact fun _ => rfl
    | cons c cs ih => exact fun b' => ih _
  exact hfold _ b

/-! ## Steady brokers -/

/-- What a pump keeps holds of all consumers after all of them were pumped. -/
theorem Every.pumpAll {log : List StoredMessage} {cs : List Consumer} (hb : b.log = log)
    (hstep : ∀ live c, P c → P (c.pump live log).1 ∧ ∀ h ∈ (c.pump live log).2, R h) (hcs : ∀ c ∈ cs, P c)
    (h : b.Every P) : (pumpAll cs b).1.Every P ∧ ∀ h ∈ (Broker.pumpAll cs b).2, R h := by
  induction cs generalizing b with
  | nil => exact ⟨h, fun _ h => nomatch h⟩
  | cons c cs ih =>
    obtain ⟨hc, hhs⟩ := hstep b.isLive c (hcs c List.mem_cons_self)
    rw [← hb] at hc hhs
    obtain ⟨hcs', hhs'⟩ := ih (b := b.put (c.pump b.isLive b.log).1) hb
      (fun c h => hcs c (List.mem_cons_of_mem _ h)) (h.put hc)
    refine ⟨hcs', fun h hmem => ?_⟩
    rcases List.mem_append.1 hmem with hmem | hmem
    · exact hhs h hmem
    · exact hhs' h hmem

/-- The messages carry their places, and every consumer is sound and watched. -/
structure Steady (group : String) (done : StoredMessage → Prop) (b : Broker) : Prop where
  numbered : Numbered b.log
  every : b.Every fun c => c.Sound b.log ∧ c.Watched group b.log done

variable {group : String} {done : StoredMessage → Prop}

theorem steady_empty : empty.Steady group done where
  numbered := fun _ _ h => nomatch h
  every := fun _ _ h => nomatch h

/-- More messages may be done with. -/
theorem Steady.mono {done' : StoredMessage → Prop} (h : b.Steady group done) (hd : ∀ m, done m → done' m) :
    b.Steady group done' :=
  ⟨h.numbered, h.every.mono fun _ hc => ⟨hc.1, hc.2.mono hd⟩⟩

/-- A message is published, and what is handed out of it is proper. -/
theorem Steady.publish (h : b.Steady group done) (subject : String) (headers : Headers) (payload : Payload) :
    (b.publish subject headers payload).1.Steady group done ∧
      ∀ h ∈ (b.publish subject headers payload).2, Proper group (b.publish subject headers payload).1.log h := by
  have hn : Numbered (b.append subject headers payload).log := h.numbered.append rfl
  have hevery : (b.append subject headers payload).Every fun c =>
      c.Sound (b.append subject headers payload).log ∧ c.Watched group (b.append subject headers payload).log done :=
    h.every.mono fun c hc => ⟨hc.1.append _, hc.2.append hc.1 rfl⟩
  have hcs : ∀ c ∈ (b.append subject headers payload).consumers.values.filter fun c => c.subject = subject,
      c.Sound (b.append subject headers payload).log ∧ c.Watched group (b.append subject headers payload).log done :=
    fun c hc => hevery.of_mem_values (List.mem_filter.1 hc).1
  have hpump := hevery.pumpAll rfl (fun live c hc => (pump_changes live _ c).watched hn hc) hcs
  have hlog : (b.publish subject headers payload).1.log = (b.append subject headers payload).log := log_publish _ _ _ _
  rw [hlog]
  refine ⟨⟨?_, ?_⟩, hpump.2⟩
  · rw [hlog]
    exact hn
  · rw [hlog]
    exact hpump.1

/-- One consumer comes further. -/
theorem Steady.put (h : b.Steady group done) (hc : c.Sound b.log ∧ c.Watched group b.log done) :
    (b.put c).Steady group done := ⟨h.numbered, h.every.put hc⟩

/-- The broker with one more live member. -/
def welcome (b : Broker) : Broker := { b with joined := b.joined + 1, live := b.live ++ [b.joined + 1] }

/-- A member joins, and what is handed out to it is proper. -/
theorem Steady.join (h : b.Steady group done) (hc : c.Sound b.log ∧ c.Watched group b.log done) :
    (b.join c).2.1.Steady group done ∧ ∀ h ∈ (b.join c).2.2, Proper group b.log h := by
  have hwelcome : b.welcome.Steady group done := ⟨h.numbered, h.every⟩
  have henter : (c.enter b.welcome.isLive (b.joined + 1)).Sound b.log ∧
      (c.enter b.welcome.isLive (b.joined + 1)).Watched group b.log done := ⟨hc.1.enter _ _, hc.2⟩
  obtain ⟨hjoin, hhs⟩ := (join_changes b.welcome.isLive h.numbered hc.1 (b.joined + 1)).watched h.numbered henter
  exact ⟨hwelcome.put hjoin, hhs⟩

/-- A timer goes off, and what is handed out is proper. -/
theorem Steady.expire (h : b.Steady group done) (durable : String) (seq count : Nat) :
    (b.expire durable seq count).1.Steady group done ∧ ∀ h ∈ (b.expire durable seq count).2, Proper group b.log h := by
  unfold Broker.expire
  cases hget : b.consumers.get? durable with
  | none => exact ⟨h, fun _ h => nomatch h⟩
  | some c =>
    obtain ⟨hc, hhs⟩ := (expire_changes b.isLive b.log c seq count).watched h.numbered (h.every durable c hget).2
    exact ⟨h.put hc, hhs⟩

/-- A message that is settled has to be done with. -/
theorem Steady.settle {b' : Broker} (h : b.Steady group done) {durable : String} {m : StoredMessage} {giveUp : Bool}
    (hm : m ∈ b.log) (hd : done m) (hs : b.settle durable m.seq giveUp = .ok b') : b'.Steady group done := by
  unfold Broker.settle at hs
  cases hget : b.consumers.get? durable with
  | none => simp [hget] at hs
  | some c =>
    simp only [hget, Except.ok.injEq] at hs
    subst hs
    obtain ⟨-, hsound, hwatched⟩ := h.every durable c hget
    exact h.put ⟨hsound.settle _ _, hwatched.settle h.numbered hm hd giveUp⟩

/-- The broker parts from all members. -/
theorem Steady.disconnectAll (h : b.Steady group done) : b.disconnectAll.Steady group done := by
  have hall : ∀ cs : List Consumer, (∀ c ∈ cs, c.Sound b.log ∧ c.Watched group b.log done) →
      ∀ b' : Broker, b'.log = b.log → b'.Steady group done →
        (cs.foldl (fun b c => b.put { c with members := [] }) b').Steady group done := by
    intro cs
    induction cs with
    | nil => exact fun _ b' _ hb' => hb'
    | cons c cs ih =>
      intro hcs b' hlog hb'
      have hc := hcs c List.mem_cons_self
      refine ih (fun c hc => hcs c (List.mem_cons_of_mem _ hc)) _ hlog (hb'.put ?_)
      rw [hlog]
      exact ⟨⟨hc.1.cursor_le, hc.1.ordered, hc.1.logged⟩, hc.2⟩
  exact hall _ (fun c hc => h.every.of_mem_values hc) b rfl h

/-- A member is let go. -/
theorem Steady.dropMember (h : b.Steady group done) (member : Nat) : (b.dropMember member).Steady group done :=
  ⟨h.numbered, h.every⟩

/-- A consumer of a durable of the group is asked for as the group's settings say. -/
def Fitting (group : String) (subject : String) (options : SubscriptionOptions) : Prop :=
  ∀ s ∈ Subject.posts, options.durable = Subject.durableName group s →
    subject = s ∧ options.deliverAll = true ∧ options.maxDeliver = none

/-- A consumer that is new covers the log: all of it is still to come. -/
theorem watched_new {subject : String} {options : SubscriptionOptions} (h : Fitting group subject options)
    (hn : Numbered b.log) :
    (Consumer.new subject options b.log.length).Sound b.log ∧
      (Consumer.new subject options b.log.length).Watched group b.log done := by
  constructor
  · refine ⟨?_, .nil, fun _ h => nomatch h⟩
    show (if options.deliverAll then 0 else b.log.length) ≤ b.log.length
    split
    · exact Nat.zero_le _
    · exact Nat.le_refl _
  · intro s hs hdur
    obtain ⟨rfl, hall, hmax⟩ := h s hs hdur
    refine ⟨rfl, hmax, rfl, fun m hm _ => .inl ?_⟩
    show (if options.deliverAll then 0 else b.log.length) < m.seq
    obtain ⟨i, hi⟩ := List.mem_iff_getElem?.1 hm
    rw [if_pos hall, hn i m hi]
    exact Nat.succ_pos i

/-- A consumer of a durable of the group that is not there yet has to be asked for as the settings say. -/
theorem Steady.subscribe {b' : Broker} {subject : String} {options : SubscriptionOptions} {member : Nat}
    {hs : List HandOut} (h : b.Steady group done)
    (hfit : b.consumers.get? options.durable = none → Fitting group subject options)
    (hb : b.subscribe subject options = .ok (member, b', hs)) :
    b'.Steady group done ∧ ∀ h ∈ hs, Proper group b.log h := by
  unfold Broker.subscribe at hb
  have hc : ((b.consumers.get? options.durable).getD (.new subject options b.log.length)).Sound b.log ∧
      ((b.consumers.get? options.durable).getD (.new subject options b.log.length)).Watched group b.log done := by
    cases hget : b.consumers.get? options.durable with
    | none => exact watched_new (hfit hget) h.numbered
    | some c => exact (h.every _ c hget).2
  generalize (b.consumers.get? options.durable).getD (.new subject options b.log.length) = c at hb hc
  simp only at hb
  split at hb
  · obtain ⟨hjoin, hhs⟩ := h.join hc
    simp only [Except.ok.injEq] at hb
    rw [hb] at hjoin hhs
    exact ⟨hjoin, hhs⟩
  · nomatch hb

end Broker

end Forum.Memory
