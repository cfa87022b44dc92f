import Forum.Fixture
import Forum.Proofs.Codec
import Forum.Proofs.Pipeline.Delivery
import Forum.Proofs.Replica.Mirror

/-!
# What the log tells of the posts

As long as the posts service alone publishes on the subjects of the posts, and all that it commits is published, the
messages on these subjects are the events that the service tells of, in their order (`Chronicled`). So a replica that is
fed with them from the log has the rows of the service right after the write that the last message tells of.
-/

namespace Forum.Pipeline

open Memory Replication Simulation

variable {settings : SubscriberSettings} {codec : Codec} {x : History}

/-! ## The log -/

/-- A move other than a request leaves the log as it is, or logs the message that it is to publish, or a dead letter. -/
theorem log_run (settings : SubscriberSettings) {w : World} {b : Broker} (hb : w.broker = some b) {m : Move}
    (hm : ∀ r, m ≠ .request r) :
    ∃ b', (m.run settings w).broker = some b' ∧ (b'.log = b.log ∨ ∃ d, b'.log = b.log ++ [d] ∧
      ((∃ headers payload, m = .publish d.subject headers payload) ∨ m.forwarded settings w ≠ [])) := by
  cases m with
  | request r => exact absurd rfl (hm r)
  | publish subject headers payload =>
    show ∃ b', (World.publish subject headers payload w).2.broker = some b' ∧ _
    unfold World.publish
    rw [hb]
    cases w.failPublishes with
    | true => exact ⟨b, hb, .inl rfl⟩
    | false =>
      exact ⟨_, broker_afterBroker w _, .inr ⟨_, Broker.log_publish b subject headers payload,
        .inl ⟨headers, payload, rfl⟩⟩⟩
  | subscribe subject options =>
    rcases subscribe_cases subject options w with ⟨attempts, h⟩ | ⟨b₀, member, answer, attempts, hb₀, hsub, h⟩
    · have hsame : (World.subscribe subject options w).2.broker = w.broker := by rw [h]
      exact ⟨b, hsame.trans hb, .inl rfl⟩
    · obtain rfl := Option.some.inj (hb.symm.trans hb₀)
      refine ⟨answer.1, ?_, .inl (Broker.log_subscribe hsub)⟩
      show (World.subscribe subject options w).2.broker = _
      rw [h, broker_afterBroker]
  | disconnect => exact ⟨b.disconnectAll, congrArg (Option.map _) hb, .inl (Broker.log_disconnectAll b)⟩
  | drop member => exact ⟨b.dropMember member, congrArg (Option.map _) hb, .inl rfl⟩
  | expire h =>
    refine ⟨(b.expire h.durable h.seq h.delivery.count).1, ?_, .inl (Broker.log_expire b _ _ _)⟩
    show (w.expire h.durable h.seq h.delivery.count).broker = _
    unfold World.expire
    rw [hb]
    exact broker_afterBroker w _
  | process h =>
    have hres := process_result settings w h
    have hforwarded : (Move.process h).forwarded settings w =
        (logged w ((Move.process h).run settings w)).map fun m => (h, m) := rfl
    generalize hw : (Move.process h).run settings w = w', application w h = done at hres hforwarded
    rw [hforwarded]
    cases hres with
    | left => exact ⟨b, hb, .inl rfl⟩
    | @applied e _ =>
      have hb' : (w.onReplica fun r => r.absorb e).broker = some b := hb
      obtain ⟨b', hb'', hlog⟩ := broker_settle h false hb'
      exact ⟨b', hb'', .inl hlog⟩
    | @forwarded b₀ _ hb₀ =>
      obtain rfl := Option.some.inj (hb.symm.trans hb₀)
      obtain ⟨b', hb', hlog⟩ := broker_publish_settle w b settings.deadLetter
        [(Subject.originHeader, h.delivery.subject)] h.delivery.payload h true
      refine ⟨b', hb', .inr ⟨_, hlog, .inr ?_⟩⟩
      unfold logged
      rw [hb, hb']
      simp [hlog]
  | _ => exact ⟨b, hb, .inl rfl⟩

/-! ## Runs of the posts service -/

/-- The messages on the subjects of the posts. -/
def postMessages (b : Broker) : List StoredMessage := b.log.filter fun m => m.subject ∈ Subject.posts

/-- A request with a fresh identifier, where a post is to be created, and without a failure to publish. -/
def Announced (x : History) (r : PostRequest) : Prop :=
  (∀ id new now, r = .create id new now → id ∉ x.drawn) ∧
    ∀ subject reason, (ask r x.world).1 ≠ .error (.publish subject reason)

/-- The posts service alone publishes on the subjects of the posts, and it publishes all that it commits. -/
def Owned (settings : SubscriberSettings) (x : History) : Move → Prop
  | .request r => Announced x r
  | .publish subject _ _ => subject ∉ Subject.posts
  | m => Permitted settings x m

/-- Nothing happens but requests to the posts service and faults of its calls. -/
def ServiceOnly (x : History) : Move → Prop
  | .request r => Announced x r
  | .failPublishes _ | .failWrites _ | .failBegin _ | .failCommit _ | .failRollback _ => True
  | _ => False

theorem permitted_of_owned {m : Move} (h : Owned settings x m) : Permitted settings x m := by
  cases m with
  | request r => trivial
  | publish subject headers payload => trivial
  | _ => exact h

theorem owned_of_serviceOnly {m : Move} (h : ServiceOnly x m) : Owned settings x m := by
  cases m with
  | request r => exact h
  | failPublishes on => trivial
  | failWrites id => trivial
  | failBegin on => trivial
  | failCommit on => trivial
  | failRollback on => trivial
  | _ => exact h.elim

/-! ## The events in the log -/

/-- The message is the event as it is published. -/
def Carries (codec : Codec) (m : StoredMessage) (e : PostEvent) : Prop :=
  m.subject = e.subject ∧ codec.encode e = .ok m.payload

/-- The messages on the subjects of the posts are events that tell of the rows after each commit. -/
structure Chronicled (codec : Codec) (x : History) (es : List PostEvent) : Prop where
  told : Replica.Told es x.commits x.world.posts.table.rows
  drawn : ∀ post, .created post ∈ es → post.id ∈ x.drawn
  log : ∃ b, x.world.broker = some b ∧ List.Forall₂ (Carries codec) (postMessages b) es

theorem postMessages_of_log {b b' : Broker} (h : b'.log = b.log) : postMessages b' = postMessages b := by
  unfold postMessages
  rw [h]

theorem postMessages_append {b b' : Broker} {d : StoredMessage} (h : b'.log = b.log ++ [d]) :
    postMessages b' = if d.subject ∈ Subject.posts then postMessages b ++ [d] else postMessages b := by
  unfold postMessages
  rw [h, List.filter_append]
  by_cases hd : d.subject ∈ Subject.posts
  · rw [if_pos hd, List.filter_cons_of_pos (by simpa using hd), List.filter_nil]
  · rw [if_neg hd, List.filter_cons_of_neg (by simpa using hd), List.filter_nil, List.append_nil]

/-- A move that leaves the posts service alone leaves the chronicle as it is. -/
theorem Chronicled.step_other {es : List PostEvent} (h : Chronicled codec x es) {m : Move}
    (hm : ∀ r, m ≠ .request r) (howned : Owned settings x m) (hf : m.forwarded settings x.world = []) :
    Chronicled codec (x.step settings m) es := by
  obtain ⟨b, hb, hes⟩ := h.log
  obtain ⟨b', hb', hlog⟩ := log_run settings hb hm
  have hcommits : (x.step settings m).commits = x.commits := by
    cases m with
    | request r => exact absurd rfl (hm r)
    | _ => exact List.append_nil _
  have hmessages : postMessages b' = postMessages b := by
    rcases hlog with hlog | ⟨d, hlog, ⟨headers, payload, rfl⟩ | hne⟩
    · exact postMessages_of_log hlog
    · rw [postMessages_append hlog, if_neg howned]
    · exact absurd hf hne
  refine ⟨?_, fun post hp => List.mem_append_left _ (h.drawn post hp), b', hb', hmessages ▸ hes⟩
  rw [hcommits]
  have hrows : (x.step settings m).world.posts.table.rows = x.world.posts.table.rows := (rows_run settings x.world m hm).2
  rw [hrows]
  exact h.told

theorem isWrite_of_tells {r : PostRequest} {e : PostEvent} (h : r.Tells e) : r.isWrite = true := by
  cases r with
  | create id new now => rfl
  | update text u now => rfl
  | delete text => rfl
  | _ => cases e <;> exact h.elim

/-- A request that tells of a new post was to create it. -/
theorem create_of_tells {r : PostRequest} {post : Post} (h : r.Tells (.created post)) :
    ∃ new now, r = .create post.id new now := by
  cases r with
  | create id new now => exact ⟨new, now, by rw [show post.id = id from h]⟩
  | _ => exact h.elim

/-- A request adds the event of its write, if it writes. -/
theorem Chronicled.step_request {es : List PostEvent} (h : Chronicled codec x es) (hcodec : x.world.codec = codec)
    {r : PostRequest} (hr : Announced x r) : ∃ es', Chronicled codec (x.step settings (.request r)) es' := by
  obtain ⟨b, hb, hes⟩ := h.log
  have hres := run_request settings h.told.keyed r
  have hcommits : (x.step settings (.request r)).commits =
      x.commits ++ if r.isWrite && (ask r x.world).1.isOk then [((Move.request r).run settings x.world).posts.table.rows]
        else [] := rfl
  have hworld : (x.step settings (.request r)).world = (Move.request r).run settings x.world := rfl
  have hdrawn : ∀ post, .created post ∈ es → post.id ∈ (x.step settings (.request r)).drawn :=
    fun post hp => List.mem_append_left _ (h.drawn post hp)
  generalize ha : (ask r x.world).1 = answer, (Move.request r).run settings x.world = w' at hres hcommits hworld
  cases hres with
  | @unchanged _ p hrows hwrite =>
    have hsame : (x.step settings (.request r)).commits = x.commits := by
      rw [hcommits]
      cases hw : r.isWrite with
      | false => exact List.append_nil _
      | true =>
        obtain ⟨e, rfl⟩ := hwrite hw
        exact List.append_nil _
    refine ⟨es, ?_, hdrawn, b, hworld ▸ hb, hes⟩
    rw [hsame, hworld]
    exact hrows ▸ h.told
  | @unpublished p event error _ _ he =>
    cases error with
    | publish subject reason => exact absurd ha (hr.2 subject reason)
    | _ => nomatch he
  | @published answer p e payload b' htells hw henc hfail hb' =>
    obtain rfl := Option.some.inj (hb.symm.trans hb')
    have hposts : (World.afterBroker { x.world with posts := p } (b.publish e.subject [] payload)).posts = p :=
      (services_afterBroker { x.world with posts := p } _).posts
    rw [isWrite_of_tells htells, hposts] at hcommits
    refine ⟨es ++ [e], ?_, fun post hp => ?_, _, hworld ▸ broker_afterBroker _ _, ?_⟩
    · rw [hcommits, hworld, hposts]
      refine .snoc h.told hw fun post he other hother hid => ?_
      subst he
      obtain ⟨new, now, rfl⟩ := create_of_tells htells
      exact hr.1 post.id new now rfl (hid ▸ h.drawn other hother)
    · rcases List.mem_append.1 hp with hp | hp
      · exact hdrawn post hp
      · obtain rfl := List.mem_singleton.1 hp
        obtain ⟨new, now, rfl⟩ := create_of_tells htells
        exact List.mem_append_right _ (List.mem_singleton.2 rfl)
    · have hpost : e.subject ∈ Subject.posts := EventKind.subject_mem_posts e.kind
      rw [postMessages_append (Broker.log_publish b e.subject [] payload), if_pos hpost]
      exact List.rel_append hes (.cons ⟨rfl, hcodec ▸ henc⟩ .nil)

theorem chronicled_start : Chronicled codec (.start codec) [] :=
  ⟨.nil, fun _ h => (nomatch h), .empty, rfl, .nil⟩

/-- As long as nothing is forwarded, the messages on the subjects of the posts are a chronicle. -/
theorem chronicled_of_reachable (h : Reachable settings codec (Owned settings) x) (hf : x.forwarded = []) :
    ∃ es, Chronicled codec x es := by
  induction h with
  | start => exact ⟨[], chronicled_start⟩
  | @step x m hx hm ih =>
    obtain ⟨hold, hnew⟩ := List.append_eq_nil_iff.1 hf
    obtain ⟨es, hes⟩ := ih hold
    by_cases hrequest : ∃ r, m = .request r
    · obtain ⟨r, rfl⟩ := hrequest
      have hsafe := safe_of_reachable (hx.mono fun _ _ => permitted_of_owned)
      exact hes.step_request hsafe.codec_eq hm
    · exact ⟨es, hes.step_other (fun r hr => hrequest ⟨r, hr⟩) hm hnew⟩

/-! ## Feeding a replica from the log -/

/-- Messages that are applied one after the other, all of them with success. -/
inductive Delivered {σ : Type} (a : Applier σ) : List StoredMessage → σ → σ → Prop
  | nil (s : σ) : Delivered a [] s s
  | cons {m : StoredMessage} {ms : List StoredMessage} {s t u : σ} {done : Applied}
      (hm : a.apply m.subject m.payload s = (.ok done, t)) (hms : Delivered a ms t u) : Delivered a (m :: ms) s u

/-- Messages that carry events are applied as these. -/
theorem Delivered.of_carries {ms : List StoredMessage} {es : List PostEvent} (h : List.Forall₂ (Carries codec) ms es)
    (hlen : ∀ m ∈ ms, m.payload.length ≤ sizeLimit) {r : Replica} (hr : r.failing = []) :
    Delivered (Replica.applier codec) ms r (r.absorbAll es) := by
  induction h generalizing r with
  | nil => exact .nil r
  | @cons m e ms es hm _ ih =>
    obtain ⟨hsubject, henc⟩ := hm
    have hread := Applier.read_encode henc (hlen m List.mem_cons_self)
    rw [← hsubject] at hread
    have hnone : r.failing.contains e.postId.text = false := by
      rw [hr]
      rfl
    obtain ⟨done, he⟩ := Replica.applyEvent_of_not_failing hnone codec
    have happly : (Replica.applier codec).apply m.subject m.payload r = (.ok done, r.absorb e) := by
      unfold Applier.apply
      have hcodec : (Replica.applier codec).codec = codec := rfl
      rw [hcodec, hread]
      exact he
    exact .cons happly (ih (fun m hm => hlen m (List.mem_cons_of_mem _ hm)) ((Replica.failing_absorb r e).trans hr))

theorem forwarded_of_serviceOnly (h : Reachable settings codec ServiceOnly x) : x.forwarded = [] := by
  induction h with
  | start => rfl
  | @step x m _ hm ih =>
    have hnone : m.forwarded settings x.world = [] := by
      cases m with
      | process h => exact hm.elim
      | _ => rfl
    show x.forwarded ++ m.forwarded settings x.world = []
    rw [ih, hnone]
    rfl

/-- The messages in the log are one for each write that was committed. Fed to a replica in their order, the first of them
give it the rows right after the write that the last one tells of, also when creations and deletions come again at any
later time, and an update comes again before the next one. What is not committed leaves the rows as they are. -/
theorem replica_mirrors_posts (h : Reachable settings codec ServiceOnly x) :
    ∃ b, x.world.broker = some b ∧ (postMessages b).length = x.commits.length ∧
      x.world.posts.table.rows = x.commits.getLast?.getD .empty ∧
      ∀ k ms, Replica.Feed (fun m => m.subject = Subject.postUpdated) (postMessages b) k ms →
        (∀ m ∈ ms, m.payload.length ≤ sizeLimit) →
          ∃ r, Delivered (Replica.applier codec) ms .empty r ∧ (Rows.empty :: x.commits)[k]? = some r.rows := by
  have howned : Reachable settings codec (Owned settings) x := h.mono fun _ _ => owned_of_serviceOnly
  obtain ⟨es, htold, -, b, hb, hes⟩ := chronicled_of_reachable howned (forwarded_of_serviceOnly h)
  refine ⟨b, hb, ?_, htold.rows_eq, fun k ms hfeed hlen => ?_⟩
  · rw [hes.length_eq, htold.length_eq]
  · have hmarked : ∀ m e, Carries codec m e → (m.subject = Subject.postUpdated ↔ e.kind = .updated) := by
      intro m e hm
      rw [hm.1]
      exact ⟨fun he => EventKind.subject_injective he, fun he => congrArg EventKind.subject he⟩
    obtain ⟨fs, hfeed', hms⟩ := hfeed.map hes hmarked
    obtain ⟨rows, htake, hget⟩ := htold.take hfeed'.le_length
    refine ⟨_, .of_carries hms hlen rfl, ?_⟩
    rw [htold.absorbAll_feed hfeed', htake.rows_absorbAll]
    exact hget

/-! ## A post that is created and changed -/

/-- A post is created. -/
def creation : PostRequest := .create ⟨Fixture.user.text⟩ (Fixture.newPost "first") Fixture.date

/-- Its title is changed. -/
def change : PostRequest := .update Fixture.user.text ⟨some "second", none⟩ Fixture.date

def edited : History := ((History.start .json).step .default (.request creation)).step .default (.request change)

theorem announced_of_isOk {r : PostRequest} (hnew : ∀ id new now, r = .create id new now → id ∉ x.drawn)
    (hok : (ask r x.world).1.isOk = true) : Announced x r := by
  refine ⟨hnew, fun subject reason h => ?_⟩
  rw [h] at hok
  nomatch hok

theorem edited_reachable : Reachable .default .json ServiceOnly edited := by
  refine .step (.step .start (announced_of_isOk (fun _ _ _ _ => List.not_mem_nil) ?_))
    (announced_of_isOk (fun _ _ _ h => nomatch h) ?_)
  · decide +kernel
  · decide +kernel

theorem edited_messages : (edited.world.broker.map fun b => (postMessages b).map fun m =>
    (m.subject, decide (m.payload.length ≤ sizeLimit))) =
      some [(Subject.postCreated, true), (Subject.postUpdated, true)] := by decide +kernel

/-- The creation comes again after the change, and the replica keeps the row as it is. -/
theorem edited_mirrored : Reachable .default .json ServiceOnly edited ∧
    ∃ m n r, Delivered (Replica.applier .json) [m, n, m] .empty r ∧ edited.commits[1]? = some r.rows := by
  refine ⟨edited_reachable, ?_⟩
  obtain ⟨b, hb, -, -, hmirrors⟩ := replica_mirrors_posts edited_reachable
  have hmap := edited_messages
  rw [hb, Option.map_some, Option.some.injEq] at hmap
  obtain ⟨m, ms, hms, hm, hmap⟩ := List.map_eq_cons_iff.1 hmap
  obtain ⟨n, ns, rfl, hn, hnil⟩ := List.map_eq_cons_iff.1 hmap
  obtain rfl := List.map_eq_nil_iff.1 hnil
  obtain ⟨hcreated, hm⟩ := Prod.mk.inj hm
  obtain ⟨-, hn⟩ := Prod.mk.inj hn
  rw [hms] at hmirrors
  have hfeed : Replica.Feed (fun m => m.subject = Subject.postUpdated) [m, n] 2 ([] ++ [m] ++ [n] ++ [m]) := by
    refine .again (.next (.next .nil rfl) rfl) (Nat.zero_lt_two) rfl fun h => ?_
    rw [hcreated] at h
    exact absurd h (by decide)
  have hsize : ∀ k ∈ [m, n, m], k.payload.length ≤ sizeLimit := by
    rintro k hk
    rcases List.mem_cons.1 hk with rfl | hk
    · exact of_decide_eq_true hm
    · rcases List.mem_cons.1 hk with rfl | hk
      · exact of_decide_eq_true hn
      · obtain rfl := List.mem_singleton.1 hk
        exact of_decide_eq_true hm
  obtain ⟨r, hr, hrows⟩ := hmirrors 2 _ hfeed hsize
  exact ⟨m, n, r, hr, hrows⟩

end Forum.Pipeline
