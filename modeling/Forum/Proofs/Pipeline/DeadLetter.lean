import Forum.Proofs.Pipeline.Chronicle
import Forum.Settings.Rules

/-!
# What dead letters set off

A dead letter is published on the subject that the settings give (`forwarded_subject`). Where that is none of the
subjects of the posts, all that the subscription is handed was published by others, and a payload that others published
once comes under one number only (`dead_letters_feed_nothing`). The settings may give a subject of the posts, though,
and be accepted: then the subscription is fed with its own dead letters (`dead_letter_fed_back`).
-/

namespace Forum.Pipeline

open Memory Replication Simulation

variable {settings : SubscriberSettings} {codec : Codec} {x : History}

/-! ## Dead letters and other messages -/

/-- The messages in the log that were published by others: all but the dead letters. -/
def History.outside (x : History) (b : Broker) : List StoredMessage :=
  b.log.filter fun m => m ∉ x.forwarded.map Prod.snd

/-- The messages with a payload that others published on the subjects of the posts. -/
def History.published (x : History) (b : Broker) (payload : Payload) : List StoredMessage :=
  (x.outside b).filter fun m => m.subject ∈ Subject.posts ∧ m.payload = payload

/-- The delivery is one of the subscription of a group to the subjects of the posts. -/
def Subscribed (group : String) (h : HandOut) : Prop :=
  ∃ subject ∈ Subject.posts, h.durable = Subject.durableName group subject

instance (group : String) (h : HandOut) : Decidable (Subscribed group h) :=
  inferInstanceAs (Decidable (∃ subject ∈ Subject.posts, _))

/-- Dead letters are on none of the subjects of the posts, all that the subscription is handed was published by others,
and it is handed a payload that others published once under one number only. -/
structure Unfed (group : String) (x : History) (b : Broker) : Prop where
  away : ∀ hd ∈ x.forwarded, hd.2.subject ∉ Subject.posts
  outside : ∀ h ∈ x.handed, Subscribed group h → h.delivery.subject ∈ Subject.posts ∧
    ∃ m ∈ x.outside b, m.seq = h.seq ∧ m.subject = h.delivery.subject ∧ m.payload = h.delivery.payload
  once : ∀ payload, (x.published b payload).length ≤ 1 →
    ∀ h ∈ x.handed, ∀ h' ∈ x.handed, Subscribed group h → Subscribed group h' →
      h.delivery.payload = payload → h'.delivery.payload = payload → h.seq = h'.seq

/-- Nothing is logged where the log stays as it is. -/
theorem logged_eq_nil {w w' : World}
    (h : ∀ b, w.broker = some b → ∃ b', w'.broker = some b' ∧ b'.log = b.log) : logged w w' = [] := by
  cases hb : w.broker with
  | none =>
    unfold logged
    rw [hb]
  | some b =>
    obtain ⟨b', hb', hlog⟩ := h b hb
    exact logged_of_append hb hb' (hlog.trans (List.append_nil _).symm)

/-- Dead letters are on the subject that the settings give. -/
theorem forwarded_subject {w : World} {m : Move} {hd : HandOut × StoredMessage} (h : hd ∈ m.forwarded settings w) :
    hd.2.subject = settings.deadLetter := by
  cases m with
  | process g =>
    obtain ⟨d, hlogged, rfl⟩ := List.mem_map.1 h
    have hres := process_result settings w g
    generalize (Move.process g).run settings w = w', application w g = done at hres hlogged
    cases hres with
    | left =>
      rw [logged_eq_nil fun b hb => ⟨b, hb, rfl⟩] at hlogged
      nomatch hlogged
    | @applied e _ =>
      have hb' (b : Broker) (hb : w.broker = some b) : (w.onReplica fun r => r.absorb e).broker = some b := hb
      rw [logged_eq_nil fun b hb => broker_settle g false (hb' b hb)] at hlogged
      nomatch hlogged
    | @forwarded b _ hb =>
      obtain ⟨b', hb', hlog⟩ := broker_publish_settle w b settings.deadLetter
        [(Subject.originHeader, g.delivery.subject)] g.delivery.payload g true
      rw [logged_of_append hb hb' hlog] at hlogged
      rw [List.mem_singleton.1 hlogged]
  | _ => nomatch h

theorem forwarded_subject_of_reachable {may : History → Move → Prop} (h : Reachable settings codec may x) :
    ∀ hd ∈ x.forwarded, hd.2.subject = settings.deadLetter := by
  induction h with
  | start => exact fun hd hmem => absurd hmem List.not_mem_nil
  | step _ _ ih =>
    intro hd hmem
    rcases List.mem_append.1 hmem with hmem | hmem
    · exact ih hd hmem
    · exact forwarded_subject hmem

/-! ## The subscription -/

/-- What the subscription is handed was published by others, where dead letters are on none of the subjects of the
posts. -/
theorem outside_of_subscribed (h : Reachable settings codec (Permitted settings) x)
    (haway : ∀ hd ∈ x.forwarded, hd.2.subject ∉ Subject.posts) {b : Broker} (hb : x.world.broker = some b) {g : HandOut}
    (hg : g ∈ x.handed) (hs : Subscribed settings.group g) :
    g.delivery.subject ∈ Subject.posts ∧
      ∃ m ∈ x.outside b, m.seq = g.seq ∧ m.subject = g.delivery.subject ∧ m.payload = g.delivery.payload := by
  obtain ⟨b', hb', -, hhanded, -⟩ := (safe_of_reachable h).broker
  obtain rfl := Option.some.inj (hb.symm.trans hb')
  obtain ⟨m, hm, hseq, hsubject, hpayload⟩ := (hhanded g hg).genuine
  obtain ⟨subject, hposts, hdurable⟩ := hs
  have hproper : g.delivery.subject ∈ Subject.posts := (hhanded g hg).subject_eq subject hposts hdurable ▸ hposts
  refine ⟨hproper, m, List.mem_filter.2 ⟨hm, decide_eq_true fun hforwarded => ?_⟩, hseq, hsubject, hpayload⟩
  obtain ⟨hd, hmem, rfl⟩ := List.mem_map.1 hforwarded
  exact haway hd hmem (hsubject ▸ hproper)

/-- Two deliveries that bring the same message of others have its number. -/
theorem seq_eq_of_published {b : Broker} {payload : Payload} (h : (x.published b payload).length ≤ 1)
    {m m' : StoredMessage} (hm : m ∈ x.published b payload) (hm' : m' ∈ x.published b payload) : m.seq = m'.seq := by
  match hlist : x.published b payload with
  | [] => rw [hlist] at hm; nomatch hm
  | [n] =>
    rw [hlist] at hm hm'
    rw [List.mem_singleton.1 hm, List.mem_singleton.1 hm']
  | _ :: _ :: _ => rw [hlist] at h; exact absurd h (by simp)

/-- Where the dead-letter subject is none of the subjects of the posts, dead letters feed nothing to the subscription. -/
theorem dead_letters_feed_nothing {r : ReplicationSettings} (hsubject : r.deadLetter ∉ Subject.posts)
    (h : Reachable (.ofSettings r) codec (Permitted (.ofSettings r)) x) :
    ∃ b, x.world.broker = some b ∧ Unfed r.group x b := by
  obtain ⟨b, hb, -⟩ := (safe_of_reachable h).broker
  have haway : ∀ hd ∈ x.forwarded, hd.2.subject ∉ Subject.posts := fun hd hmem =>
    (forwarded_subject_of_reachable h hd hmem).symm ▸ hsubject
  have houtside (g : HandOut) (hg : g ∈ x.handed) (hs : Subscribed r.group g) :=
    outside_of_subscribed h haway hb hg hs
  refine ⟨b, hb, haway, houtside, fun payload honce g hg g' hg' hs hs' hp hp' => ?_⟩
  have hpublished (g : HandOut) (hg : g ∈ x.handed) (hs : Subscribed r.group g) (hp : g.delivery.payload = payload) :
      ∃ m ∈ x.published b payload, m.seq = g.seq := by
    obtain ⟨hposts, m, hm, hseq, hsubject, hpayload⟩ := houtside g hg hs
    exact ⟨m, List.mem_filter.2 ⟨hm, decide_eq_true ⟨hsubject ▸ hposts, hpayload.trans hp⟩⟩, hseq⟩
  obtain ⟨m, hm, hseq⟩ := hpublished g hg hs hp
  obtain ⟨m', hm', hseq'⟩ := hpublished g' hg' hs' hp'
  rw [← hseq, ← hseq']
  exact seq_eq_of_published honce hm hm'

/-! ## A subscription that is fed with its own dead letters -/

/-- Settings that give a dead-letter subject and let a message be given up at once. -/
def givingUp (deadLetter : String) : ReplicationSettings :=
  { ReplicationSettings.default with deadLetter := deadLetter, maxDeliver := 1 }

/-- A message of one octet is published for a subscriber. -/
def unreadable (deadLetter : String) : History :=
  ((History.start .binary).step (.ofSettings (givingUp deadLetter)) (.subscribe Subject.postCreated
    ((SubscriberSettings.ofSettings (givingUp deadLetter)).options Subject.postCreated))).step
    (.ofSettings (givingUp deadLetter)) (.publish Subject.postCreated [] [0])

/-- The subscriber gives the message up. -/
def givenUp (deadLetter : String) : History :=
  (unreadable deadLetter).step (.ofSettings (givingUp deadLetter)) (.process spoiledHandOut)

/-- The delivery of the dead letter, where it is published on the subject that it came from. -/
def deadHandOut : HandOut := ⟨"posts-post-created", 2, 1, ⟨Subject.postCreated, [0], 1⟩, 60000⟩

theorem givenUp_reachable {deadLetter : String} (h : spoiledHandOut ∈ (unreadable deadLetter).handed) :
    Reachable (.ofSettings (givingUp deadLetter)) .binary (Permitted (.ofSettings (givingUp deadLetter)))
      (givenUp deadLetter) :=
  .step (.step (.step .start (permitted_subscribe _ _ _)) trivial) h

/-- With a dead-letter subject of its own the subscriber is handed the message once. -/
theorem givenUp_unfed : Subject.deadLetter ∉ Subject.posts ∧ (givenUp Subject.deadLetter).forwarded.length = 1 ∧
    ∃ b, (givenUp Subject.deadLetter).world.broker = some b ∧
      Unfed "posts" (givenUp Subject.deadLetter) b :=
  ⟨by decide, by decide +kernel,
    dead_letters_feed_nothing (r := givingUp Subject.deadLetter) (by decide) (givenUp_reachable (by decide +kernel))⟩

/-- The settings are accepted, and the subscriber is handed its dead letter: the payload that was published once comes
under two numbers. -/
theorem dead_letter_fed_back : (givingUp Subject.postCreated).check = .ok () ∧
    Reachable (.ofSettings (givingUp Subject.postCreated)) .binary
      (Permitted (.ofSettings (givingUp Subject.postCreated))) (givenUp Subject.postCreated) ∧
    (∃ hd ∈ (givenUp Subject.postCreated).forwarded, hd.2.subject ∈ Subject.posts) ∧
    ∃ b, (givenUp Subject.postCreated).world.broker = some b ∧
      (History.published (givenUp Subject.postCreated) b [0]).length = 1 ∧
      ∃ h ∈ (givenUp Subject.postCreated).handed, ∃ h' ∈ (givenUp Subject.postCreated).handed,
        Subscribed "posts" h ∧ Subscribed "posts" h' ∧ h.delivery.payload = [0] ∧ h'.delivery.payload = [0] ∧
          h.seq ≠ h'.seq :=
  ⟨by decide +kernel, givenUp_reachable (by decide +kernel), by decide +kernel, _,
    (Option.some_get (by decide +kernel)).symm, by decide +kernel, spoiledHandOut, by decide +kernel, deadHandOut,
    by decide +kernel, by decide, by decide, rfl, rfl, by decide⟩

end Forum.Pipeline
