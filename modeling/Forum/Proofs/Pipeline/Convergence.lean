import Forum.Proofs.Pipeline.Chronicle
import Forum.Proofs.Replica.Order

/-!
# Where the replica ends up

Deliveries are processed in any order, and some of them more than once. The replica is what the events that were applied
made of it, in the order in which they were (`cell_replica`), and once all messages are acknowledged, these are the
events in the log, whatever their order (`Settled.chronicle`). So the replica has rows of the posts that the service has,
and each of them was told by the service as it is. What the order decides is which of the updates a row shows: one that is
applied before its post is created leaves no trace.
-/

namespace Forum.Pipeline

open Memory Replication Simulation

variable {settings : SubscriberSettings} {codec : Codec} {x : History}

/-! ## The replica -/

/-- The events that were applied, in this order. -/
def appliedEvents (x : History) : List PostEvent := x.applied.map Prod.snd

/-- A move changes the replica by the events that it applies. -/
theorem cell_run (settings : SubscriberSettings) {w : World} (hk : w.posts.table.rows.Keyed) (m : Move) (key : String) :
    (m.run settings w).comments.replica.cell key =
      (w.comments.replica.absorbAll ((m.applied w).map Prod.snd)).cell key := by
  have of_same {w' : World} (h : SameServices w w') : w'.comments.replica.cell key = w.comments.replica.cell key := by
    rw [h.comments]
  cases m with
  | request r =>
    have hres := run_request settings hk r
    generalize (ask r w).1 = answer, (Move.request r).run settings w = w' at hres ⊢
    cases hres with
    | unchanged _ _ => rfl
    | unpublished _ _ _ => rfl
    | @published _ p _ _ _ _ _ _ _ _ =>
      rw [(services_afterBroker { w with posts := p } _).comments]
      rfl
  | publish subject headers payload => exact of_same (services_publish subject headers payload w)
  | subscribe subject options => exact of_same (services_subscribe subject options w)
  | expire h => exact of_same (services_expire w h.durable h.seq h.delivery.count)
  | process h =>
    have hres := process_result settings w h
    have happlied : (Move.process h).applied w = application w h := rfl
    rw [happlied]
    generalize (Move.process h).run settings w = w', application w h = done at hres ⊢
    cases hres with
    | @applied e hread =>
      rw [(services_settle h false (w.onReplica fun r => r.absorb e)).comments]
      rfl
    | left => rfl
    | forwarded _ _ => exact of_same ((services_afterBroker w _).trans (services_settle h true _))
  | _ => rfl

/-- The replica is what the events that were applied made of it. -/
theorem cell_replica (h : Reachable settings codec (Permitted settings) x) (key : String) :
    x.world.comments.replica.cell key = (Replica.empty.absorbAll (appliedEvents x)).cell key := by
  induction h with
  | start => rfl
  | @step x m hx _ ih =>
    have happlied : appliedEvents (x.step settings m) = appliedEvents x ++ (m.applied x.world).map Prod.snd :=
      List.map_append
    have hcell : (x.step settings m).world.comments.replica.cell key =
        (x.world.comments.replica.absorbAll ((m.applied x.world).map Prod.snd)).cell key :=
      cell_run settings (safe_of_reachable hx).keyed m key
    rw [hcell, happlied, Replica.absorbAll_append, Replica.cell_absorbAll, ih, ← Replica.cell_absorbAll]

theorem rows_replica (h : Reachable settings codec (Permitted settings) x) :
    x.world.comments.replica.rows = (Replica.empty.absorbAll (appliedEvents x)).rows :=
  Rows.ext_get? fun key => congrArg Replica.Cell.row (cell_replica h key)

/-- What was applied was read from a delivery that was handed out. -/
theorem applied_genuine (h : Reachable settings codec (Permitted settings) x) {g : HandOut} {e : PostEvent}
    (hmem : (g, e) ∈ x.applied) : g ∈ x.handed ∧ Applier.read codec g.delivery.subject g.delivery.payload = .ok e := by
  induction h with
  | start => nomatch hmem
  | @step x m hx hm ih =>
    rcases List.mem_append.1 hmem with hold | hnew
    · obtain ⟨hhanded, hread⟩ := ih hold
      exact ⟨List.mem_append_left _ hhanded, hread⟩
    · cases m with
      | process g' =>
        have hres := process_result settings x.world g'
        have hnew' : (g, e) ∈ application x.world g' := hnew
        generalize (Move.process g').run settings x.world = w', application x.world g' = done at hres hnew'
        cases hres with
        | left => nomatch hnew'
        | forwarded _ _ => nomatch hnew'
        | @applied e' hread =>
          obtain ⟨rfl, rfl⟩ := Prod.mk.inj (List.mem_singleton.1 hnew')
          rw [(safe_of_reachable hx).codec_eq] at hread
          exact ⟨List.mem_append_left _ hm, hread⟩
      | _ => nomatch hnew

/-! ## The events in the log -/

/-- The events that can be read from the messages on the subjects of the posts. -/
def eventsIn (codec : Codec) (b : Broker) : List PostEvent :=
  (postMessages b).filterMap fun m => (Applier.read codec m.subject m.payload).toOption

theorem subject_of_read {subject : String} {payload : Payload} {e : PostEvent}
    (h : Applier.read codec subject payload = .ok e) : subject ∈ Subject.posts := by
  unfold Applier.read at h
  cases hk : EventKind.ofSubject? subject with
  | none =>
    rw [hk] at h
    nomatch h
  | some k =>
    have hsubject : k.subject = subject := by simpa using List.find?_some hk
    exact hsubject ▸ k.subject_mem_posts

/-- A message that can be read is read as the event that it carries. -/
theorem Carries.eq_of_read {m : StoredMessage} {e f : PostEvent} (h : Carries codec m e)
    (hread : Applier.read codec m.subject m.payload = .ok f) : f = e := by
  rcases Nat.lt_or_ge sizeLimit m.payload.length with hlarge | hlen
  · unfold Applier.read at hread
    split at hread
    · cases hread
    · rw [Codec.decode.eq_def, if_pos hlarge] at hread
      cases hread
  · rw [h.1, Applier.read_encode h.2 hlen] at hread
    exact (Except.ok.inj hread).symm

/-- Where all messages can be read, the events in the log are those that they carry. -/
theorem filterMap_read {ms : List StoredMessage} {es : List PostEvent} (h : List.Forall₂ (Carries codec) ms es)
    (hread : ∀ m ∈ ms, ∃ e, Applier.read codec m.subject m.payload = .ok e) :
    (ms.filterMap fun m => (Applier.read codec m.subject m.payload).toOption) = es := by
  induction h with
  | nil => rfl
  | @cons m e ms es hm _ ih =>
    obtain ⟨⟨f, hf⟩, hms⟩ := List.forall_mem_cons.1 hread
    obtain rfl := hm.eq_of_read hf
    rw [List.filterMap_cons, hf]
    exact congrArg (List.cons f) (ih hms)

/-! ## When all messages are acknowledged -/

/-- No message on the subject of a durable of the group is still to come or pending. -/
def Drained (group : String) (b : Broker) : Prop :=
  ∀ subject ∈ Subject.posts, ∃ c ∈ b.consumers.get? (Subject.durableName group subject),
    c.pending = [] ∧ ∀ m ∈ b.log, m.subject = subject → m.seq ≤ c.cursor

/-- Every message on the subjects of the posts was acknowledged by the subscriber, and none was given up. -/
def Settled (settings : SubscriberSettings) (x : History) : Prop :=
  x.forwarded = [] ∧ ∃ b ∈ x.world.broker, Drained settings.group b

instance (group : String) (b : Broker) : Decidable (Drained group b) :=
  inferInstanceAs (Decidable (∀ subject ∈ Subject.posts, ∃ c ∈ b.consumers.get? (Subject.durableName group subject),
    c.pending = [] ∧ ∀ m ∈ b.log, m.subject = subject → m.seq ≤ c.cursor))

instance (settings : SubscriberSettings) (x : History) : Decidable (Settled settings x) :=
  inferInstanceAs (Decidable (x.forwarded = [] ∧ ∃ b ∈ x.world.broker, Drained settings.group b))

/-- When all messages are acknowledged, every message on the subjects of the posts was applied. -/
theorem Settled.wasApplied (h : Reachable settings codec (Permitted settings) x) (hs : Settled settings x) {b : Broker}
    (hb : x.world.broker = some b) {m : StoredMessage} (hm : m ∈ postMessages b) : WasApplied codec x m := by
  obtain ⟨hmem, hsubject⟩ := List.mem_filter.1 hm
  have hsub : m.subject ∈ Subject.posts := of_decide_eq_true hsubject
  obtain ⟨hforwarded, b', hb', hdrained⟩ := hs
  obtain rfl := Option.some.inj (hb.symm.trans hb')
  obtain ⟨c, hc, hpending, hcursor⟩ := hdrained m.subject hsub
  obtain ⟨b', hb', hsteady, -, -⟩ := (safe_of_reachable h).broker
  obtain rfl := Option.some.inj (hb.symm.trans hb')
  obtain ⟨hdur, -, hwatched⟩ := hsteady.every _ c hc
  obtain ⟨hcs, -, -, hcov⟩ := hwatched m.subject hsub hdur
  rcases hcov m hmem hcs.symm with hcur | ⟨p, hp, -⟩ | happlied | ⟨g, d, hgd, -⟩
  · exact absurd (hcursor m hmem rfl) (Nat.not_le.2 hcur)
  · rw [hpending] at hp
    nomatch hp
  · exact happlied
  · rw [hforwarded] at hgd
    nomatch hgd

/-- When all messages are acknowledged, the events that were applied are those that the service told of. -/
theorem Settled.chronicle (h : Reachable settings codec (Owned settings) x) (hs : Settled settings x) :
    ∃ b, x.world.broker = some b ∧
      Replica.Told (eventsIn codec b) x.commits x.world.posts.table.rows ∧
      ∀ e, e ∈ appliedEvents x ↔ e ∈ eventsIn codec b := by
  have hpermitted : Reachable settings codec (Permitted settings) x := h.mono fun _ _ => permitted_of_owned
  obtain ⟨es, htold, -, b, hb, hes⟩ := chronicled_of_reachable h hs.1
  have hread : ∀ m ∈ postMessages b, ∃ g e, (g, e) ∈ x.applied ∧ Applier.read codec m.subject m.payload = .ok e := by
    intro m hm
    obtain ⟨g, e, hmem, -, hread⟩ := hs.wasApplied hpermitted hb hm
    exact ⟨g, e, hmem, hread⟩
  have hevents : eventsIn codec b = es := filterMap_read hes fun m hm => by
    obtain ⟨-, e, -, hread⟩ := hread m hm
    exact ⟨e, hread⟩
  refine ⟨b, hb, hevents ▸ htold, fun e => ⟨fun he => ?_, fun he => ?_⟩⟩
  · obtain ⟨⟨g, e⟩, hmem, rfl⟩ := List.mem_map.1 he
    obtain ⟨hhanded, hreade⟩ := applied_genuine hpermitted hmem
    obtain ⟨b', hb', -, hgenuine, -⟩ := (safe_of_reachable hpermitted).broker
    obtain rfl := Option.some.inj (hb.symm.trans hb')
    obtain ⟨m, hm, -, hsubject, hpayload⟩ := (hgenuine g hhanded).genuine
    rw [← hsubject, ← hpayload] at hreade
    refine List.mem_filterMap.2 ⟨m, List.mem_filter.2 ⟨hm, decide_eq_true (subject_of_read hreade)⟩, ?_⟩
    rw [hreade]
    rfl
  · obtain ⟨m, hm, hsome⟩ := List.mem_filterMap.1 he
    obtain ⟨g, f, hmem, hreadm⟩ := hread m hm
    rw [hreadm] at hsome
    obtain rfl : f = e := Option.some.inj hsome
    exact List.mem_map.2 ⟨(g, f), hmem, rfl⟩

/-- When all messages are acknowledged, the replica has rows of the posts of the service, by the same users and of the
same times of creation, and each row was told as it is. The rows are those of the service when the last update of each
post that was applied after its creation is the last one that the service told of. -/
theorem replica_converges (h : Reachable settings codec (Owned settings) x) (hs : Settled settings x) :
    ∃ b, x.world.broker = some b ∧
      (∀ key, (x.world.comments.replica.rows.get? key).map Replica.owner =
        (x.world.posts.table.rows.get? key).map Replica.owner) ∧
      (∀ key row, x.world.comments.replica.rows.get? key = some row →
        .created row ∈ eventsIn codec b ∨ .updated row ∈ eventsIn codec b) ∧
      ((∀ key row, x.world.posts.table.rows.get? key = some row →
          Replica.lastChange key (appliedEvents x) = Replica.lastChange key (eventsIn codec b)) →
        x.world.comments.replica.rows = x.world.posts.table.rows) := by
  obtain ⟨b, hb, htold, hsame⟩ := hs.chronicle h
  rw [rows_replica (h.mono fun _ _ => permitted_of_owned)]
  exact ⟨b, hb, htold.owner_rows hsame, fun _ _ hrow => htold.row_was_told hsame hrow, htold.rows_of_lastChange hsame⟩

/-! ## A change that overtakes the creation -/

/-- A subscriber joins on all subjects, and then a post is created and changed. -/
def followed : History :=
  let joined := Subject.posts.foldl
    (fun x s => x.step .default (.subscribe s (SubscriberSettings.default.options s))) (History.start .json)
  (joined.step .default (.request creation)).step .default (.request change)

/-- The first delivery on a subject. -/
def arrival (x : History) (subject : String) : List HandOut :=
  (x.handed.find? fun h => h.delivery.subject = subject).toList

/-- Deliveries are processed one after the other. -/
def processAll (x : History) (hs : List HandOut) : History := hs.foldl (fun x h => x.step .default (.process h)) x

theorem followed_reachable : Reachable .default .json (Owned .default) followed := by
  refine .step (.step (.step (.step (.step .start ?_) ?_) ?_)
    (announced_of_isOk (fun _ _ _ _ => List.not_mem_nil) ?_)) (announced_of_isOk (fun _ _ _ h => nomatch h) ?_)
  · exact permitted_subscribe _ _ _
  · exact permitted_subscribe _ _ _
  · exact permitted_subscribe _ _ _
  · decide +kernel
  · decide +kernel

theorem mem_handed_of_arrival {subject : String} {h : HandOut} (hh : h ∈ arrival x subject) : h ∈ x.handed :=
  List.mem_of_find?_eq_some (Option.mem_toList.1 hh)

theorem processAll_reachable {hs : List HandOut} (h : Reachable .default codec (Owned .default) x)
    (hhs : ∀ g ∈ hs, g ∈ x.handed) : Reachable .default codec (Owned .default) (processAll x hs) := by
  induction hs generalizing x with
  | nil => exact h
  | cons g hs ih =>
    obtain ⟨hg, hrest⟩ := List.forall_mem_cons.1 hhs
    exact ih (.step h hg) fun g' hg' => List.mem_append_left _ (hrest g' hg')

/-- The creation is processed before the change. -/
def caughtUp : History :=
  processAll followed (arrival followed Subject.postCreated ++ arrival followed Subject.postUpdated)

/-- The change is processed before the creation. -/
def overtaken : History :=
  processAll followed (arrival followed Subject.postUpdated ++ arrival followed Subject.postCreated)

/-- All messages are acknowledged, and the update that was applied is the last one. -/
theorem caughtUp_outcome : Settled .default caughtUp ∧ (caughtUp.world.broker.map fun b =>
    decide (∀ e ∈ caughtUp.world.posts.table.rows.entries,
      Replica.lastChange e.1 (appliedEvents caughtUp) = Replica.lastChange e.1 (eventsIn .json b))) = some true := by
  decide +kernel

/-- In this order the replica shows the change. -/
theorem caughtUp_mirrored : Reachable .default .json (Owned .default) caughtUp ∧ Settled .default caughtUp ∧
    caughtUp.world.comments.replica.rows = caughtUp.world.posts.table.rows := by
  have hreach : Reachable .default .json (Owned .default) caughtUp := by
    refine processAll_reachable followed_reachable fun g hg => ?_
    rcases List.mem_append.1 hg with hg | hg
    · exact mem_handed_of_arrival hg
    · exact mem_handed_of_arrival hg
  obtain ⟨hsettled, hlast⟩ := caughtUp_outcome
  refine ⟨hreach, hsettled, ?_⟩
  obtain ⟨b, hb, -, -, hrows⟩ := replica_converges hreach hsettled
  rw [hb, Option.map_some, Option.some.injEq, decide_eq_true_eq] at hlast
  exact hrows fun key row hrow => hlast _ (Rows.mem_of_lookup hrow)

theorem overtaken_outcome : Settled .default overtaken ∧
    overtaken.world.comments.replica.rows ≠ overtaken.world.posts.table.rows := by
  decide +kernel

/-- The replica shows the post as it was created, although the change was acknowledged. -/
theorem overtaken_not_mirrored :
    ¬ ∀ (settings : SubscriberSettings) (codec : Codec) (x : History), Reachable settings codec (Owned settings) x →
      Settled settings x → x.world.comments.replica.rows = x.world.posts.table.rows := by
  intro h
  have hreach : Reachable .default .json (Owned .default) overtaken := by
    refine processAll_reachable followed_reachable fun g hg => ?_
    rcases List.mem_append.1 hg with hg | hg
    · exact mem_handed_of_arrival hg
    · exact mem_handed_of_arrival hg
  obtain ⟨hsettled, hrows⟩ := overtaken_outcome
  exact hrows (h .default .json overtaken hreach hsettled)

end Forum.Pipeline
