import Forum.Proofs.Broker.Coverage
import Forum.Proofs.Pipeline.Run

/-!
# No message is lost

Whatever happens, a message on one of the subjects of the posts is still to come, pending, applied to the replica, or kept
as a dead letter, once the durable of its subject is there. All that is asked of a run is that the
durables are made as the settings of the subscriber say, and that only deliveries that were handed out are processed and
expire (`Permitted`).

One move is looked at in two steps: what it does to the broker and the inboxes (`Advances`), and what it adds to the
record. The first is safe when messages are settled only after they are done with, which the record shows.
-/

namespace Forum.Pipeline

open Memory Replication Simulation

/-! ## What is done with a message -/

/-- The event of a message was applied by one of its deliveries. -/
def WasApplied (codec : Codec) (x : History) (m : StoredMessage) : Prop :=
  ∃ h e, (h, e) ∈ x.applied ∧ h.seq = m.seq ∧ Applier.read codec m.subject m.payload = .ok e

/-- A message was forwarded as a dead letter by a delivery that came at least as often as the settings allow. -/
def WasForwarded (settings : SubscriberSettings) (x : History) (m : StoredMessage) : Prop :=
  ∃ h d, (h, d) ∈ x.forwarded ∧ h.seq = m.seq ∧ settings.maxDeliver ≤ h.delivery.count ∧
    d.subject = settings.deadLetter ∧ d.payload = m.payload ∧ d.header Subject.originHeader = some m.subject

def Done (settings : SubscriberSettings) (codec : Codec) (x : History) (m : StoredMessage) : Prop :=
  WasApplied codec x m ∨ WasForwarded settings x m

variable {settings : SubscriberSettings} {codec : Codec} {x : History} {w w' : World}

/-- What is done with stays done with. -/
theorem Done.step {m : StoredMessage} (h : Done settings codec x m) (move : Move) :
    Done settings codec (x.step settings move) m := by
  rcases h with ⟨h, e, hmem, hrest⟩ | ⟨h, d, hmem, hrest⟩
  · exact .inl ⟨h, e, List.mem_append_left _ hmem, hrest⟩
  · exact .inr ⟨h, d, List.mem_append_left _ hmem, hrest⟩

/-! ## What a move does to the broker -/

/-- The broker stays steady, the log only grows, and all that comes into the inboxes is in the log. -/
def Advances (group : String) (done : StoredMessage → Prop) (w w' : World) : Prop :=
  ∀ b, w.broker = some b → b.Steady group done → ∃ b', w'.broker = some b' ∧ b'.Steady group done ∧ b.log <+: b'.log ∧
    ∀ h ∈ inboxes w', h ∈ inboxes w ∨ Consumer.Proper group b'.log h

variable {group : String} {done : StoredMessage → Prop}

theorem Advances.of_same (hb : w'.broker = w.broker) (hin : ∀ h ∈ inboxes w', h ∈ inboxes w) :
    Advances group done w w' := fun b hw hs => ⟨b, hb.trans hw, hs, List.prefix_refl _, fun h hh => .inl (hin h hh)⟩

theorem Advances.refl (w : World) : Advances group done w w := .of_same rfl fun _ h => h

theorem Advances.trans {w'' : World} (h : Advances group done w w') (h' : Advances group done w' w'') :
    Advances group done w w'' := by
  intro b hb hs
  obtain ⟨b', hb', hs', hlog, hin⟩ := h b hb hs
  obtain ⟨b'', hb'', hs'', hlog', hin'⟩ := h' b' hb' hs'
  refine ⟨b'', hb'', hs'', hlog.trans hlog', fun g hg => ?_⟩
  rcases hin' g hg with hg | hg
  · exact (hin g hg).imp_right fun hg => hg.mono hlog'
  · exact .inr hg

/-- A request to the broker that keeps it steady. -/
theorem Advances.of_broker {b : Broker} {answer : Broker × List HandOut} (hb : w.broker = some b)
    (h : b.Steady group done →
      answer.1.Steady group done ∧ b.log <+: answer.1.log ∧ ∀ h ∈ answer.2, Consumer.Proper group answer.1.log h) :
    Advances group done w (w.afterBroker answer) := by
  intro c hc hsteady
  obtain rfl := Option.some.inj (hb.symm.trans hc)
  obtain ⟨hs', hlog, hgen⟩ := h hsteady
  refine ⟨answer.1, broker_afterBroker w answer, hs', hlog, fun g hg => ?_⟩
  exact (inboxes_afterBroker w answer g hg).imp_right (hgen g)

theorem advances_afterPublish {b : Broker} (hb : w.broker = some b) (subject : String) (headers : Headers)
    (payload : Payload) : Advances group done w (w.afterBroker (b.publish subject headers payload)) := by
  refine .of_broker hb fun hs => ?_
  obtain ⟨hs', hgen⟩ := hs.publish subject headers payload
  refine ⟨hs', ?_, hgen⟩
  rw [Broker.log_publish]
  exact List.prefix_append _ _

theorem advances_publish (subject : String) (headers : Headers) (payload : Payload) (w : World) :
    Advances group done w (World.publish subject headers payload w).2 := by
  unfold World.publish
  split
  · exact .refl w
  · cases hb : w.broker with
    | none => exact .refl w
    | some b => exact advances_afterPublish hb subject headers payload

theorem advances_expire (w : World) (durable : String) (seq count : Nat) :
    Advances group done w (w.expire durable seq count) := by
  unfold World.expire
  cases hb : w.broker with
  | none => exact .refl w
  | some b =>
    refine .of_broker hb fun hs => ?_
    obtain ⟨hs', hgen⟩ := hs.expire durable seq count
    rw [Broker.log_expire]
    exact ⟨hs', List.prefix_refl _, hgen⟩

theorem inboxes_newStream (w : World) (member : Nat) (subject : String) :
    inboxes { w with streams := w.streams ++ [⟨member, subject, [], []⟩] } = inboxes w := by
  simp [inboxes]

theorem advances_subscribe {subject : String} {options : SubscriptionOptions}
    (hfit : ∀ b, w.broker = some b → b.consumers.get? options.durable = none → Broker.Fitting group subject options) :
    Advances group done w (World.subscribe subject options w).2 := by
  rcases subscribe_cases subject options w with ⟨attempts, h⟩ | ⟨b, member, answer, attempts, hb, hsub, h⟩
  · rw [h]
    exact .of_same rfl fun _ h => h
  · rw [h]
    have hopen : Advances group done w
        { w with attempts := attempts, streams := w.streams ++ [⟨member, subject, [], []⟩] } :=
      .of_same rfl fun g hg => inboxes_newStream w member subject ▸ hg
    refine hopen.trans (.of_broker hb fun hsteady => ?_)
    obtain ⟨hs', hgen⟩ := hsteady.subscribe (hfit b hb) hsub
    rw [Broker.log_subscribe hsub]
    exact ⟨hs', List.prefix_refl _, hgen⟩

theorem advances_disconnect (w : World) : Advances group done w w.disconnect := by
  intro b hb hs
  refine ⟨b.disconnectAll, ?_, hs.disconnectAll, ?_, fun h hh => .inl hh⟩
  · show w.broker.map Broker.disconnectAll = _
    rw [hb]
    rfl
  · exact Broker.log_disconnectAll b ▸ List.prefix_refl _

theorem advances_dropStream (w : World) (member : Nat) : Advances group done w (w.dropStream member) := by
  intro b hb hs
  refine ⟨b.dropMember member, ?_, hs.dropMember member, List.prefix_refl _, fun h hh => .inl ?_⟩
  · show (w.broker.map fun b => b.dropMember member) = _
    rw [hb]
    rfl
  · obtain ⟨s, hs, hmem⟩ := List.mem_flatMap.1 hh
    exact List.mem_flatMap.2 ⟨s, (List.mem_filter.1 hs).1, hmem⟩

/-- Settling is safe when the message is done with. -/
theorem advances_settle {h : HandOut} (hdone : ∀ b, w.broker = some b → ∃ m ∈ b.log, m.seq = h.seq ∧ done m)
    (giveUp : Bool) : Advances group done w (World.settle h giveUp w).2 := by
  intro b hb hs
  unfold World.settle
  rw [hb]
  simp only []
  cases hset : b.settle h.durable h.seq giveUp with
  | error e => exact ⟨b, hb, hs, List.prefix_refl _, fun _ hh => .inl hh⟩
  | ok b' =>
    obtain ⟨m, hm, hseq, hd⟩ := hdone b hb
    rw [← hseq] at hset
    exact ⟨b', rfl, hs.settle hm hd hset, Broker.log_settle hset ▸ List.prefix_refl _, fun _ hh => .inl hh⟩

/-! ## What a move adds to the record -/

/-- What is asked of the moves of a run: the durables of the group are made as the settings say, and only deliveries that
were handed out are processed and expire. -/
def Permitted (settings : SubscriberSettings) (x : History) : Move → Prop
  | .process h => h ∈ x.handed
  | .expire h => h ∈ x.handed
  | .subscribe subject options => ∀ s ∈ Subject.posts, options.durable = Subject.durableName settings.group s →
      (∀ b, x.world.broker = some b → b.consumers.get? options.durable = none) →
        subject = s ∧ options = settings.options s
  | _ => True

/-- The members of a group have a durable of its own for every subject. -/
theorem durableName_injective {group s s' : String} (h : Subject.durableName group s = Subject.durableName group s') :
    s = s' := by
  unfold Subject.durableName at h
  exact (String.append_right_inj _).1 h

/-- Joining as the settings say is always permitted. -/
theorem permitted_subscribe (settings : SubscriberSettings) (x : History) (s : String) :
    Permitted settings x (.subscribe s (settings.options s)) := by
  intro s' _ hdur _
  obtain rfl := durableName_injective hdur
  exact ⟨rfl, rfl⟩

/-- What holds of every reachable history. -/
structure Safe (settings : SubscriberSettings) (codec : Codec) (x : History) : Prop where
  codec_eq : x.world.codec = codec
  keyed : x.world.posts.table.rows.Keyed
  inboxes : ∀ h ∈ inboxes x.world, h ∈ x.handed
  broker : ∃ b, x.world.broker = some b ∧ b.Steady settings.group (Done settings codec x) ∧
    (∀ h ∈ x.handed, Consumer.Proper settings.group b.log h) ∧ ∀ hd ∈ x.forwarded, hd.2 ∈ b.log

theorem safe_start : Safe settings codec (.start codec) where
  codec_eq := rfl
  keyed := fun _ _ h => nomatch h
  inboxes := fun _ h => absurd h List.not_mem_nil
  broker := ⟨.empty, rfl, Broker.steady_empty, fun _ h => absurd h List.not_mem_nil, fun _ h => absurd h List.not_mem_nil⟩

/-- What is recorded as forwarded is in the log. -/
theorem mem_log_of_forwarded {m : Move} {hd : HandOut × StoredMessage} (h : hd ∈ m.forwarded settings w) {b : Broker}
    (hb : (m.run settings w).broker = some b) : hd.2 ∈ b.log := by
  cases m with
  | process g =>
    obtain ⟨d, hd', rfl⟩ := List.mem_map.1 h
    unfold logged at hd'
    rw [hb] at hd'
    split at hd'
    · rename_i b₀ b₁ _ hb₁
      obtain rfl := Option.some.inj hb₁
      exact List.mem_of_mem_drop hd'
    · nomatch hd'
  | _ => nomatch h

/-- A move that advances the broker is safe. -/
theorem Safe.of_advances {m : Move} (h : Safe settings codec x)
    (hadv : Advances settings.group (Done settings codec (x.step settings m)) x.world (m.run settings x.world)) :
    Safe settings codec (x.step settings m) := by
  obtain ⟨b, hb, hsteady, hhanded, hforwarded⟩ := h.broker
  obtain ⟨b', hb', hsteady', hlog, hin⟩ := hadv b hb (hsteady.mono fun _ hd => hd.step m)
  obtain ⟨hcodec, hkeyed⟩ := keyed_run settings h.keyed m
  refine ⟨hcodec.trans h.codec_eq, hkeyed, fun g hg => List.mem_append_right _ hg, b', hb', hsteady', ?_, ?_⟩
  · intro g hg
    rcases List.mem_append.1 hg with hg | hg
    · exact (hhanded g hg).mono hlog
    · rcases hin g hg with hg | hg
      · exact (hhanded g (h.inboxes g hg)).mono hlog
      · exact hg
  · intro hd hmem
    rcases List.mem_append.1 hmem with hmem | hmem
    · exact hlog.subset (hforwarded hd hmem)
    · exact mem_log_of_forwarded hmem hb'

/-- A delivery that is applied is settled when its event is recorded, and one that is forwarded when the log has the dead
letter. -/
theorem advances_process (h : Safe settings codec x) {g : HandOut} (hg : g ∈ x.handed) :
    Advances settings.group (Done settings codec (x.step settings (.process g))) x.world
      ((Move.process g).run settings x.world) := by
  obtain ⟨b, hb, -, hhanded, -⟩ := h.broker
  obtain ⟨m, hm, hseq, hsubject, hpayload⟩ := (hhanded g hg).genuine
  have hres := process_result settings x.world g
  generalize hw : (Move.process g).run settings x.world = w', ha : application x.world g = done at hres
  cases hres with
  | left => exact .refl _
  | @applied e hread =>
    have hdone : Done settings codec (x.step settings (.process g)) m := by
      refine .inl ⟨g, e, List.mem_append_right _ ?_, hseq.symm, ?_⟩
      · show (g, e) ∈ application x.world g
        rw [ha]
        exact List.mem_singleton.2 rfl
      · rw [hsubject, hpayload, ← h.codec_eq]
        exact hread
    have hsame : Advances settings.group (Done settings codec (x.step settings (.process g))) x.world
        (x.world.onReplica fun r => r.absorb e) := .of_same rfl fun _ h => h
    refine hsame.trans (advances_settle (fun b' hb' => ?_) false)
    obtain rfl := Option.some.inj (hb.symm.trans hb')
    exact ⟨m, hm, hseq, hdone⟩
  | @forwarded b' hcount hb' =>
    obtain rfl := Option.some.inj (hb.symm.trans hb')
    refine (advances_afterPublish hb _ _ _).trans (advances_settle (fun b' hb' => ?_) true)
    rw [broker_afterBroker] at hb'
    obtain rfl := Option.some.inj hb'
    have hlog := Broker.log_publish b settings.deadLetter [(Subject.originHeader, g.delivery.subject)] g.delivery.payload
    refine ⟨m, by rw [hlog]; exact List.mem_append_left _ hm, hseq, .inr ?_⟩
    obtain ⟨b'', hb'', hlog''⟩ := broker_publish_settle x.world b settings.deadLetter
      [(Subject.originHeader, g.delivery.subject)] g.delivery.payload g true
    have hlogged : logged x.world ((Move.process g).run settings x.world) =
        [⟨b.log.length + 1, settings.deadLetter, [(Subject.originHeader, g.delivery.subject)], g.delivery.payload⟩] :=
      logged_of_append hb (hw ▸ hb'') hlog''
    refine ⟨g, ⟨b.log.length + 1, settings.deadLetter, [(Subject.originHeader, g.delivery.subject)], g.delivery.payload⟩,
      List.mem_append_right _ ?_, hseq.symm, hcount, rfl, hpayload.symm, ?_⟩
    · show (g, _) ∈ (logged x.world ((Move.process g).run settings x.world)).map fun m => (g, m)
      rw [hlogged]
      exact List.mem_singleton.2 rfl
    · rw [hsubject]
      exact List.lookup_cons_self

/-- Every move that is permitted advances the broker. -/
theorem advances_run (h : Safe settings codec x) {m : Move} (hm : Permitted settings x m) :
    Advances settings.group (Done settings codec (x.step settings m)) x.world (m.run settings x.world) := by
  cases m with
  | publish subject headers payload => exact advances_publish subject headers payload _
  | request r =>
    have hres := run_request settings h.keyed r
    generalize (ask r x.world).1 = answer, hw : (Move.request r).run settings x.world = w' at hres ⊢
    cases hres with
    | unchanged _ _ => exact .of_same rfl fun _ h => h
    | unpublished _ _ _ => exact .of_same rfl fun _ h => h
    | @published _ p event payload b _ _ _ _ hb =>
      have hsame : Advances settings.group (Done settings codec (x.step settings (.request r))) x.world
          { x.world with posts := p } := .of_same rfl fun _ h => h
      have hb' : ({ x.world with posts := p } : World).broker = some b := hb
      exact hsame.trans (advances_afterPublish hb' _ _ _)
  | subscribe subject options =>
    refine advances_subscribe fun b hb hnone s hs hdur => ?_
    obtain ⟨rfl, rfl⟩ := hm s hs hdur fun b' hb' => by
      obtain rfl := Option.some.inj (hb.symm.trans hb')
      exact hnone
    exact ⟨rfl, rfl, rfl⟩
  | disconnect => exact advances_disconnect _
  | drop member => exact advances_dropStream _ member
  | process g => exact advances_process h hm
  | expire g => exact advances_expire _ _ _ _
  | _ => exact .of_same rfl fun _ h => h

theorem safe_of_reachable (h : Reachable settings codec (Permitted settings) x) : Safe settings codec x := by
  induction h with
  | start => exact safe_start
  | step _ hm ih => exact ih.of_advances (advances_run ih hm)

/-- Once the durable of a subject is there, every message on the subject is still to come, pending, applied to the
replica, or kept as a dead letter, and none has been handed out as often as the broker allows. -/
theorem no_message_lost (h : Reachable settings codec (Permitted settings) x) :
    ∃ b, x.world.broker = some b ∧ ∀ subject ∈ Subject.posts, ∀ c,
      b.consumers.get? (Subject.durableName settings.group subject) = some c →
        b.exhausted (Subject.durableName settings.group subject) = [] ∧
          ∀ i m, b.log[i]? = some m → m.subject = subject →
            c.cursor ≤ i ∨
            (∃ p ∈ c.pending, p.seq = i + 1) ∨
            (∃ h e, (h, e) ∈ x.applied ∧ h.seq = i + 1 ∧ Applier.read codec m.subject m.payload = .ok e) ∨
            (∃ h d, (h, d) ∈ x.forwarded ∧ h.seq = i + 1 ∧ settings.maxDeliver ≤ h.delivery.count ∧ d ∈ b.log ∧
              d.subject = settings.deadLetter ∧ d.payload = m.payload ∧
              d.header Subject.originHeader = some m.subject) := by
  obtain ⟨b, hb, hsteady, -, hforwarded⟩ := (safe_of_reachable h).broker
  refine ⟨b, hb, fun subject hsub c hc => ?_⟩
  obtain ⟨hdur, -, hwatched⟩ := hsteady.every _ c hc
  obtain ⟨hcs, -, hex, hcov⟩ := hwatched subject hsub hdur
  refine ⟨?_, fun i m hi hm => ?_⟩
  · simp [Broker.exhausted, hc, hex]
  · have hseq : m.seq = i + 1 := hsteady.numbered i m hi
    rcases hcov m (List.mem_of_getElem? hi) (hm.trans hcs.symm) with hcur | hpend | hdone
    · exact .inl (by omega)
    · exact .inr (.inl (hseq ▸ hpend))
    · rcases hdone with happlied | ⟨g, d, hmem, hg, hcount, hrest⟩
      · exact .inr (.inr (.inl (hseq ▸ happlied)))
      · exact .inr (.inr (.inr ⟨g, d, hmem, hg.trans hseq, hcount, hforwarded _ hmem, hrest⟩))

/-! ## A message that nobody can read -/

/-- A subscriber that gives up at once. -/
def strict : SubscriberSettings := { SubscriberSettings.default with maxDeliver := 1 }

/-- A message of one octet is published for a subscriber. -/
def spoiled : History :=
  ((History.start .json).step strict (.subscribe Subject.postCreated (strict.options Subject.postCreated))).step strict
    (.publish Subject.postCreated [] [0])

/-- The delivery of the message. -/
def spoiledHandOut : HandOut := ⟨"posts-post-created", 1, 1, ⟨Subject.postCreated, [0], 1⟩, 60000⟩

theorem spoiled_handed : spoiledHandOut ∈ spoiled.handed := by decide +kernel

/-- What is left when the delivery was processed. -/
def disposed : History := spoiled.step strict (.process spoiledHandOut)

theorem disposed_consumer : (disposed.world.broker.bind fun b => b.consumers.get? "posts-post-created") =
    some ⟨Subject.postCreated, strict.options Subject.postCreated, 1, [], [1], 1, [1], []⟩ := by decide +kernel

theorem disposed_log : (disposed.world.broker.bind fun b => b.log[0]?) = some ⟨1, Subject.postCreated, [], [0]⟩ := by
  decide +kernel

/-- The message is not pending any more, and it was not applied, so it is kept as a dead letter. -/
theorem disposed_message_kept : Reachable strict .json (Permitted strict) disposed ∧ disposed.applied = [] ∧
    ∃ h d, (h, d) ∈ disposed.forwarded ∧ d.payload = [0] ∧ d.header Subject.originHeader = some Subject.postCreated := by
  have hreach : Reachable strict .json (Permitted strict) disposed :=
    .step (.step (.step .start (permitted_subscribe _ _ _)) trivial) spoiled_handed
  have happlied : disposed.applied = [] := by decide +kernel
  refine ⟨hreach, happlied, ?_⟩
  obtain ⟨b, hb, hlost⟩ := no_message_lost hreach
  have hconsumer := disposed_consumer
  have hlog := disposed_log
  rw [hb] at hconsumer hlog
  obtain ⟨-, hcases⟩ := hlost Subject.postCreated (by decide) _ hconsumer
  rcases hcases 0 _ hlog rfl with hcur | ⟨p, hp, -⟩ | ⟨h, e, hmem, -⟩ | ⟨h, d, hmem, -, -, -, -, hpayload, hheader⟩
  · exact absurd hcur (by decide)
  · exact absurd hp List.not_mem_nil
  · rw [happlied] at hmem
    exact absurd hmem List.not_mem_nil
  · exact ⟨h, d, hmem, hpayload, hheader⟩

end Forum.Pipeline
