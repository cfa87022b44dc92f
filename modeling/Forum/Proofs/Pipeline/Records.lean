import Forum.Fixture
import Forum.Proofs.Pipeline.Run
import Forum.Proofs.Service.Comments

/-!
# The records of both services

A request to the posts service leaves the rows as they are and commits nothing, or it commits the milestone that it asks
for, also where that cannot be published then (`postRequest_result`). So in a run of both services the rows are what the
annals of the run make of no rows (`makes_run`): each post and each comment is sound, it was created by a request, and has
only been changed since, and as long as it is not removed it stays who it is (`records_kept`).
-/

namespace Forum.Pipeline

open Calendar Memory Replication Simulation

instance (s s' : Posts) : Decidable (Posts.Committed s s') :=
  decidable_of_iff (s.failCommit = false ∧ s'.journal.committed = s.journal.committed + 1)
    ⟨fun h => ⟨h.1, h.2⟩, fun h => ⟨h.allowed, h.counted⟩⟩

/-! ## Requests to the posts service -/

/-- What comes of a request to the posts service: the rows are kept and nothing is committed, or the milestone that it
asks for is made and committed. -/
inductive PostResult (before : Posts) (r : PostRequest) (after : Posts) : Prop
  | kept (hrows : after.table.rows = before.table.rows) (hcommit : ¬Posts.Committed before after)
  | made {m : String × Milestone Post} (h : r.milestone = some m)
      (hmade : MadePosts before.table.rows m after.table.rows) (hcommit : Posts.Committed before after)

section

variable {w w' : World} {r : PostRequest}

/-- A write is committed, whatever comes of publishing it. -/
theorem postResult_of_write {α : Type} {write : Action World α} (event : α → PostEvent) (answer : α → Answer)
    {may : Rows Post → α → Rows.Write Post → Prop} {result : Except Error α} {p : Posts}
    (hwrite : write w = (result, { w with posts := p })) (hres : Posts.WriteResult w.posts may (result, p))
    (hmay : ∀ x v, may w.posts.table.rows x v →
      ∃ m, r.milestone = some m ∧ MadePosts w.posts.table.rows m (w.posts.table.rows.write v)) :
    PostResult w.posts r ((do
      let x ← write
      (World.publisher w.codec).publish (event x)
      pure (answer x) : Action World Answer) w).2.posts := by
  cases hres with
  | failed _ hrows hcommit =>
    rw [Action.bind_of_error hwrite]
    exact .kept hrows hcommit
  | @written x s v hm hrows hcommit =>
    obtain ⟨m, hmilestone, hmade⟩ := hmay x v hm
    rw [← hrows] at hmade
    rw [Action.bind_of_ok hwrite]
    rcases World.publish_cases w.codec (event x) { w with posts := p } with
      ⟨-, e, -, hpub⟩ | ⟨payload, b, -, -, -, hpub⟩
    · rw [Action.bind_of_error hpub]
      exact .made hmilestone hmade hcommit
    · have hposts := (services_afterBroker { w with posts := p } (b.publish (event x).subject [] payload)).posts
      rw [Action.bind_of_ok hpub]
      show PostResult w.posts r (World.afterBroker { w with posts := p } _).posts
      rw [hposts]
      exact .made hmilestone hmade hcommit

theorem postResult_of_check {α : Type} {c : Except Error α} {rest : α → Action World Answer}
    (hrest : ∀ x, c = .ok x → PostResult w.posts r (rest x w).2.posts) :
    PostResult w.posts r ((liftM c >>= rest : Action World Answer) w).2.posts := by
  cases h : c with
  | error e =>
    rw [Action.bind_of_error (World.check_of_error rfl w)]
    exact .kept rfl (Posts.not_committed rfl)
  | ok x =>
    rw [Action.bind_of_ok (World.check_of_ok rfl w)]
    exact hrest x h

/-- A request that is no write tells of no event, and commits nothing. -/
theorem postResult_of_read {answer : Except Error Answer} (hr : r.isWrite = false)
    (h : World.RequestResult w r (answer, w')) : PostResult w.posts r w'.posts := by
  have hquiet (e : PostEvent) : ¬r.Tells e := by
    cases r with
    | create _ _ _ | update _ _ _ | delete _ => nomatch hr
    | _ => exact fun h => h
  cases h with
  | unchanged hrows _ _ hcommit => exact .kept hrows hcommit
  | unpublished htells _ _ _ _ | published htells _ _ _ _ _ => exact absurd htells (hquiet _)

end

theorem post_create (w : World) {id : PostId} (hid : Uuid.isUuidText id.text = true) (new : NewPost) (now : Instant) :
    PostResult w.posts (.create id new now) (ask (.create id new now) w).2.posts := by
  unfold ask PostRequest.run PostService.create
  simp only [map_eq_pure_bind, bind_assoc, pure_bind]
  refine postResult_of_check fun _ hvalid => ?_
  obtain ⟨result, p, hwrite, hres⟩ := World.atomically_cases (Posts.stages_create (new.toPost id now)) w
  refine postResult_of_write (fun _ => .created (new.toPost id now)) (fun _ => .post (new.toPost id now)) hwrite hres ?_
  rintro _ v ⟨hnew, rfl⟩
  exact ⟨_, rfl, .created hnew (new.sound_of_validate hvalid hid now)⟩

theorem post_update (w : World) (hk : w.posts.table.rows.Keyed) (text : String) (u : PostUpdate) (now : Instant) :
    PostResult w.posts (.update text u now) (ask (.update text u now) w).2.posts := by
  unfold ask PostRequest.run PostService.update PostService.amend
  simp only [map_eq_pure_bind, bind_assoc, pure_bind]
  refine postResult_of_check fun id hid => ?_
  refine postResult_of_check fun _ hvalid => ?_
  obtain rfl := World.read_eq_ok hid
  obtain ⟨result, p, hwrite, hres⟩ := World.atomically_cases (Posts.stages_amend ⟨text⟩ u now) w
  unfold Posts.amendWork at hwrite
  simp only [World.onTable_bind, World.onTable_pure] at hwrite
  refine postResult_of_write .updated .post hwrite hres ?_
  rintro post v ⟨row, hrow, rfl, rfl⟩
  have hid : (row.apply u now).id.text = text := hk text row hrow
  rw [hid]
  exact ⟨_, rfl, .changed hrow rfl rfl fun hsound => hsound.apply hvalid now⟩

theorem post_delete (w : World) (text : String) :
    PostResult w.posts (.delete text) (ask (.delete text) w).2.posts := by
  unfold ask PostRequest.run PostService.delete PostService.remove
  simp only [map_eq_pure_bind, bind_assoc]
  refine postResult_of_check fun id hid => ?_
  obtain rfl := World.read_eq_ok hid
  obtain ⟨result, p, hwrite, hres⟩ := World.atomically_cases (Posts.stages_remove ⟨text⟩) w
  unfold Posts.removeWork at hwrite
  simp only [World.onTable_bind, apply_ite World.onTable, World.onTable_throw, World.onTable_pure] at hwrite
  refine postResult_of_write (fun _ => .deleted ⟨text⟩) (fun _ => .done) hwrite hres ?_
  rintro _ v ⟨⟨row, hrow⟩, rfl⟩
  exact ⟨_, rfl, .removed hrow⟩

theorem postRequest_result (w : World) (hk : w.posts.table.rows.Keyed) (r : PostRequest)
    (hid : ∀ id ∈ r.drawn, Uuid.isUuidText id = true) : PostResult w.posts r (ask r w).2.posts := by
  cases r with
  | create id new now => exact post_create w (hid _ List.mem_cons_self) new now
  | update text u now => exact post_update w hk text u now
  | delete text => exact post_delete w text
  | page page => exact postResult_of_read rfl (World.request_result w hk (.page page))
  | find text => exact postResult_of_read rfl (World.request_result w hk (.find text))
  | ofUser text => exact postResult_of_read rfl (World.request_result w hk (.ofUser text))

/-! ## Runs of both services -/

/-- What happens next: a move of the pipeline, a request to the comments service, or the writes of a comment begin to
fail. -/
inductive Occurrence where
  | move (m : Move)
  | comment (r : CommentRequest)
  | failComment (key : String)

/-- What the comments service does. -/
def askComments (r : CommentRequest) (w : World) : Except Error Answer × World := r.run (w.backend.commentService none) w

namespace Occurrence

/-- The world after it. -/
def run (settings : SubscriberSettings) : Occurrence → World → World
  | move m, w => m.run settings w
  | comment r, w => (askComments r w).2
  | failComment key, w => World.commentTable.put (w.comments.table.fail key) w

/-- The identifiers that are drawn for new records. -/
def drawn : Occurrence → List String
  | move (.request r) => r.drawn
  | comment r => r.drawn
  | _ => []

/-- The milestone of a post that is committed, whether it is published or not. -/
def posts : Occurrence → World → Annals Post
  | move (.request r), w => if Posts.Committed w.posts (ask r w).2.posts then r.milestone.toList else []
  | _, _ => []

/-- The milestone of a comment that is committed. -/
def comments : Occurrence → World → Annals Comment
  | comment r, w => if (askComments r w).1.isOk then r.milestone.toList else []
  | _, _ => []

end Occurrence

/-- The world after what happens, one after the other. -/
def runOn (settings : SubscriberSettings) : List Occurrence → World → World
  | [], w => w
  | o :: os, w => runOn settings os (o.run settings w)

/-- The milestones of what happens, one after the other. -/
def annals {ρ : Type} (settings : SubscriberSettings) (of : Occurrence → World → Annals ρ) :
    List Occurrence → World → Annals ρ
  | [], _ => []
  | o :: os, w => of o w ++ annals settings of os (o.run settings w)

section

variable {settings : SubscriberSettings} {w : World}

theorem runOn_append (os more : List Occurrence) (w : World) :
    runOn settings (os ++ more) w = runOn settings more (runOn settings os w) := by
  induction os generalizing w with
  | nil => rfl
  | cons o os ih => exact ih (o.run settings w)

/-- A milestone is one that a request asked for which happened, if this is so of each thing that happens. -/
theorem asked_of_mem_annals {ρ Request : Type} {of : Occurrence → World → Annals ρ} {occurs : Request → Occurrence}
    {milestone : Request → Option (String × Milestone ρ)} {os : List Occurrence} {m : String × Milestone ρ}
    (hof : ∀ o w, m ∈ of o w → ∃ r, occurs r = o ∧ milestone r = some m) (h : m ∈ annals settings of os w) :
    ∃ r, occurs r ∈ os ∧ milestone r = some m := by
  induction os generalizing w with
  | nil => nomatch h
  | cons o os ih =>
    rcases List.mem_append.1 h with h | h
    · obtain ⟨r, rfl, hm⟩ := hof o w h
      exact ⟨r, List.mem_cons_self, hm⟩
    · obtain ⟨r, hr, hm⟩ := ih h
      exact ⟨r, List.mem_cons_of_mem _ hr, hm⟩

/-- A milestone of a post is one that a request to the posts service asked for. -/
theorem asked_of_mem_posts {os : List Occurrence} {m : String × Milestone Post}
    (h : m ∈ annals settings Occurrence.posts os w) :
    ∃ r : PostRequest, .move (.request r) ∈ os ∧ r.milestone = some m := by
  refine asked_of_mem_annals (fun o w' hof => ?_) h
  unfold Occurrence.posts at hof
  split at hof
  · exact ⟨_, rfl, Option.mem_toList.1 (List.mem_ite_nil_right.1 hof).2⟩
  · nomatch hof

/-- A milestone of a comment is one that a request to the comments service asked for. -/
theorem asked_of_mem_comments {os : List Occurrence} {m : String × Milestone Comment}
    (h : m ∈ annals settings Occurrence.comments os w) : ∃ r : CommentRequest, .comment r ∈ os ∧ r.milestone = some m := by
  refine asked_of_mem_annals (fun o w' hof => ?_) h
  unfold Occurrence.comments at hof
  split at hof
  · exact ⟨_, rfl, Option.mem_toList.1 (List.mem_ite_nil_right.1 hof).2⟩
  · nomatch hof

/-! ## One step -/

/-- No move changes the table of comments. -/
theorem commentTable_run (settings : SubscriberSettings) (hk : w.posts.table.rows.Keyed) (m : Move) :
    (m.run settings w).comments.table = w.comments.table := by
  have of_same {w' : World} (h : SameServices w w') : w'.comments.table = w.comments.table := by rw [h.comments]
  cases m with
  | request r =>
    have hres := run_request settings hk r
    generalize (ask r w).1 = answer, (Move.request r).run settings w = w' at hres
    cases hres with
    | unchanged _ _ => rfl
    | unpublished _ _ _ => rfl
    | @published _ p _ _ _ _ _ _ _ _ =>
      refine congrArg Comments.table ?_
      exact (services_afterBroker { w with posts := p } _).comments
  | publish subject headers payload => exact of_same (services_publish subject headers payload w)
  | subscribe subject options => exact of_same (services_subscribe subject options w)
  | expire h => exact of_same (services_expire w h.durable h.seq h.delivery.count)
  | process h =>
    have hres := process_result settings w h
    generalize (Move.process h).run settings w = w', application w h = done at hres
    cases hres with
    | @applied e hread =>
      rw [(services_settle h false (w.onReplica fun r => r.absorb e)).comments]
      rfl
    | left => rfl
    | forwarded _ _ => exact of_same ((services_afterBroker w _).trans (services_settle h true _))
  | _ => rfl

/-- All records are sound. -/
structure AllSound (w : World) : Prop where
  posts : ∀ k p, w.posts.table.rows.get? k = some p → p.Sound k
  comments : ∀ k c, w.comments.table.rows.get? k = some c → c.Sound k

theorem allSound_start (codec : Codec) : AllSound (.start codec) := ⟨fun _ _ h => (nomatch h), fun _ _ h => nomatch h⟩

/-- Whatever happens makes its milestones, and nothing else. -/
theorem makes_step (settings : SubscriberSettings) (h : AllSound w) {o : Occurrence}
    (hids : ∀ id ∈ o.drawn, Uuid.isUuidText id = true) :
    MakesPosts w.posts.table.rows (o.posts w) (o.run settings w).posts.table.rows ∧
      MakesComments w.comments.table.rows (o.comments w) (o.run settings w).comments.table.rows := by
  have hkeyed : w.posts.table.rows.Keyed := fun k p hp => (h.posts k p hp).key
  cases o with
  | move m =>
    have hcomments := congrArg Table.rows (commentTable_run settings hkeyed m)
    by_cases hm : ∃ r, m = .request r
    · obtain ⟨r, rfl⟩ := hm
      refine ⟨?_, .of_eq hcomments⟩
      show Makes _ _ _ _ (if Posts.Committed w.posts (ask r w).2.posts then r.milestone.toList else []) _
      cases postRequest_result w hkeyed r hids with
      | kept hrows hcommit =>
        rw [if_neg hcommit]
        exact .of_eq hrows
      | made hm hmade hcommit =>
        rw [if_pos hcommit, hm]
        exact .cons hmade .nil
    · have hnone : (Occurrence.move m).posts w = [] := by
        cases m with
        | request r => exact absurd ⟨r, rfl⟩ hm
        | _ => rfl
      rw [hnone]
      exact ⟨.of_eq (rows_run settings w m fun r h => hm ⟨r, h⟩).2, .of_eq hcomments⟩
  | comment r =>
    have hres := World.commentRequest_result w (fun k c hc => (h.comments k c hc).key) r hids
    show Makes _ _ _ _ _ (askComments r w).2.posts.table.rows ∧
      Makes _ _ _ _ (if (askComments r w).1.isOk then r.milestone.toList else []) (askComments r w).2.comments.table.rows
    unfold askComments
    generalize r.run (w.backend.commentService none) w = result at hres
    cases hres with
    | failed hrows => exact ⟨.nil, .of_eq hrows⟩
    | looked hm =>
      rw [hm]
      exact ⟨.nil, .nil⟩
    | made hm hmade =>
      rw [hm]
      exact ⟨.nil, .cons hmade .nil⟩
  | failComment key => exact ⟨.nil, .nil⟩

/-- What happens one after the other makes its annals, and all records stay sound. -/
theorem makes_run (settings : SubscriberSettings) {os : List Occurrence}
    (hids : ∀ o ∈ os, ∀ id ∈ o.drawn, Uuid.isUuidText id = true) (h : AllSound w) :
    AllSound (runOn settings os w) ∧
      MakesPosts w.posts.table.rows (annals settings Occurrence.posts os w) (runOn settings os w).posts.table.rows ∧
      MakesComments w.comments.table.rows (annals settings Occurrence.comments os w)
        (runOn settings os w).comments.table.rows := by
  induction os generalizing w with
  | nil => exact ⟨h, .nil, .nil⟩
  | cons o os ih =>
    obtain ⟨hposts, hcomments⟩ := makes_step settings h (hids o List.mem_cons_self)
    obtain ⟨hsound, hposts', hcomments'⟩ := ih (fun o' ho' => hids o' (List.mem_cons_of_mem _ ho'))
      ⟨hposts.sound_after h.posts, hcomments.sound_after h.comments⟩
    exact ⟨hsound, hposts.append hposts', hcomments.append hcomments'⟩

/-! ## All records -/

/-- The milestones of a post in what happens. -/
def postLife (settings : SubscriberSettings) (os : List Occurrence) (w : World) (key : String) : List (Milestone Post) :=
  Annals.life key (annals settings Occurrence.posts os w)

/-- The milestones of a comment in what happens. -/
def commentLife (settings : SubscriberSettings) (os : List Occurrence) (w : World) (key : String) :
    List (Milestone Comment) :=
  Annals.life key (annals settings Occurrence.comments os w)

/-- A post was created by a request, and has only been changed since. It is who it was then, and was changed last when
the last of these milestones was committed. -/
def PostOrigin (life : List (Milestone Post)) (p : Post) : Prop :=
  ∃ before new now, ∃ times : List Instant,
    life = before ++ .created (NewPost.toPost new p.id now) :: times.map .changed ∧
      p.user = ⟨new.user⟩ ∧ p.created = now ∧ p.updated = times.getLastD now

/-- A comment was created by a request, and has only been changed since. -/
def CommentOrigin (life : List (Milestone Comment)) (c : Comment) : Prop :=
  ∃ before new now, ∃ times : List Instant,
    life = before ++ .created (NewComment.toComment new c.id now) :: times.map .changed ∧
      c.post = ⟨new.post⟩ ∧ c.user = ⟨new.user⟩ ∧ c.created = now ∧ c.updated = times.getLastD now

variable {codec : Codec} {os more : List Occurrence}

theorem post_origin (hids : ∀ o ∈ os, ∀ id ∈ o.drawn, Uuid.isUuidText id = true) {key : String} {p : Post}
    (hp : (runOn settings os (.start codec)).posts.table.rows.get? key = some p) :
    PostOrigin (postLife settings os (.start codec) key) p := by
  obtain ⟨-, hmakes, -⟩ := makes_run settings hids (allSound_start codec)
  obtain ⟨before, first, times, hlife, hmem, hidentity, hupdated⟩ := Makes.origin hmakes hp
  obtain ⟨r, -, hasked⟩ := asked_of_mem_posts hmem
  obtain ⟨id, new, now, -, -, rfl⟩ := PostRequest.eq_create_of_milestone hasked
  obtain ⟨hid, hrest⟩ := Prod.mk.inj hidentity
  obtain ⟨huser, hcreated⟩ := Prod.mk.inj hrest
  refine ⟨before, new, now, times, ?_, huser, hcreated, hupdated⟩
  rw [hid]
  exact hlife

theorem comment_origin (hids : ∀ o ∈ os, ∀ id ∈ o.drawn, Uuid.isUuidText id = true) {key : String} {c : Comment}
    (hc : (runOn settings os (.start codec)).comments.table.rows.get? key = some c) :
    CommentOrigin (commentLife settings os (.start codec) key) c := by
  obtain ⟨-, -, hmakes⟩ := makes_run settings hids (allSound_start codec)
  obtain ⟨before, first, times, hlife, hmem, hidentity, hupdated⟩ := Makes.origin hmakes hc
  obtain ⟨r, -, hasked⟩ := asked_of_mem_comments hmem
  obtain ⟨id, new, now, -, -, rfl⟩ := CommentRequest.eq_create_of_milestone hasked
  obtain ⟨hid, hrest⟩ := Prod.mk.inj hidentity
  obtain ⟨hpost, hrest⟩ := Prod.mk.inj hrest
  obtain ⟨huser, hcreated⟩ := Prod.mk.inj hrest
  refine ⟨before, new, now, times, ?_, hpost, huser, hcreated, hupdated⟩
  rw [hid]
  exact hlife

/-- No comment is created whose identifier is not drawn. -/
theorem comment_not_created {key : String} (hfresh : ∀ o ∈ more, key ∉ o.drawn) (first : Comment) :
    .created first ∉ commentLife settings more w key := by
  intro hmem
  obtain ⟨r, hr, hasked⟩ := asked_of_mem_comments (Annals.mem_of_mem_life hmem)
  obtain ⟨id, new, now, rfl, rfl, -⟩ := CommentRequest.eq_create_of_milestone hasked
  exact hfresh _ hr List.mem_cons_self

/-- Whatever is asked of both services, and whichever of their calls fail on the way, every post and every comment is
sound, it is who it was when a request created it, and the time of its last change is that of the last request whose
write of it was committed. Whatever happens then, that stays so until the record is removed. -/
theorem records_kept (settings : SubscriberSettings) (codec : Codec)
    (hids : ∀ o ∈ os ++ more, ∀ id ∈ o.drawn, Uuid.isUuidText id = true) :
    (∀ key p, (runOn settings os (.start codec)).posts.table.rows.get? key = some p →
        p.Sound key ∧ PostOrigin (postLife settings os (.start codec) key) p ∧
        (.removed ∉ postLife settings more (runOn settings os (.start codec)) key →
          ∃ times : List Instant, ∃ p',
            postLife settings more (runOn settings os (.start codec)) key = times.map .changed ∧
            (runOn settings (os ++ more) (.start codec)).posts.table.rows.get? key = some p' ∧
            p'.id = p.id ∧ p'.user = p.user ∧ p'.created = p.created ∧ p'.updated = times.getLastD p.updated)) ∧
      ∀ key c, (runOn settings os (.start codec)).comments.table.rows.get? key = some c →
        c.Sound key ∧ CommentOrigin (commentLife settings os (.start codec) key) c ∧
        ((∀ o ∈ more, key ∉ o.drawn) → .removed ∉ commentLife settings more (runOn settings os (.start codec)) key →
          ∃ times : List Instant, ∃ c',
            commentLife settings more (runOn settings os (.start codec)) key = times.map .changed ∧
            (runOn settings (os ++ more) (.start codec)).comments.table.rows.get? key = some c' ∧
            c'.id = c.id ∧ c'.post = c.post ∧ c'.user = c.user ∧ c'.created = c.created ∧
            c'.updated = times.getLastD c.updated) := by
  have hfirst := fun o ho => hids o (List.mem_append_left more ho)
  have hmore := fun o ho => hids o (List.mem_append_right os ho)
  obtain ⟨hsound, -, -⟩ := makes_run settings hfirst (allSound_start codec)
  obtain ⟨-, hposts, hcomments⟩ := makes_run settings hmore hsound
  rw [runOn_append]
  refine ⟨fun key p hp => ⟨hsound.posts key p hp, post_origin hfirst hp, fun hremoved => ?_⟩,
    fun key c hc => ⟨hsound.comments key c hc, comment_origin hfirst hc, fun hfresh hremoved => ?_⟩⟩
  · obtain ⟨times, p', hlife, hp', hidentity, hupdated⟩ :=
      Makes.endures hposts hp (Makes.not_created hposts hp hremoved) hremoved
    obtain ⟨hid, hrest⟩ := Prod.mk.inj hidentity
    obtain ⟨huser, hcreated⟩ := Prod.mk.inj hrest
    exact ⟨times, p', hlife, hp', hid, huser, hcreated, hupdated⟩
  · obtain ⟨times, c', hlife, hc', hidentity, hupdated⟩ :=
      Makes.endures hcomments hc (comment_not_created hfresh) hremoved
    obtain ⟨hid, hrest⟩ := Prod.mk.inj hidentity
    obtain ⟨hpost, hrest⟩ := Prod.mk.inj hrest
    obtain ⟨huser, hcreated⟩ := Prod.mk.inj hrest
    exact ⟨times, c', hlife, hc', hid, hpost, huser, hcreated, hupdated⟩

end

/-! ## A change that is not published -/

/-- The day after the fixtures. -/
def nextDay : Instant := (Instant.of? ((Date.of? 2018 10 2).get (by decide)) 0 0).get (by decide)

/-- A post, and a comment on it. -/
def beginnings : List Occurrence :=
  [.move (.request (.create ⟨Fixture.user.text⟩ (Fixture.newPost "first") Fixture.date)),
    .comment (.create ⟨Fixture.user.text⟩ (Fixture.newComment Fixture.user.text "first") Fixture.date)]

/-- The post is changed where nothing can be published, and the comment is changed to a blank text. -/
def changes : List Occurrence :=
  [.move (.failPublishes true), .move (.request (.update Fixture.user.text ⟨some "second", none⟩ nextDay)),
    .comment (.update Fixture.user.text ⟨some " "⟩ nextDay)]

/-- The change of the post is the last one although it is not published, and the change of the comment is none. -/
theorem records_kept_unpublished :
    (∀ o ∈ beginnings ++ changes, ∀ id ∈ o.drawn, Uuid.isUuidText id = true) ∧
      (∃ p, (runOn .default (beginnings ++ changes) (.start .json)).posts.table.rows.get? Fixture.user.text = some p ∧
        p.created = Fixture.date ∧ p.updated = nextDay) ∧
      ∃ c, (runOn .default (beginnings ++ changes) (.start .json)).comments.table.rows.get? Fixture.user.text =
        some c ∧ c.created = Fixture.date ∧ c.updated = Fixture.date := by
  have hids : ∀ o ∈ beginnings ++ changes, ∀ id ∈ o.drawn, Uuid.isUuidText id = true := by decide +kernel
  obtain ⟨hposts, hcomments⟩ := records_kept .default .json hids
  refine ⟨hids, ?_, ?_⟩
  · have hrow : ((runOn .default beginnings (.start .json)).posts.table.rows.get? Fixture.user.text).map
        (fun p => p.created) = some Fixture.date := by decide +kernel
    have hlife : postLife .default changes (runOn .default beginnings (.start .json)) Fixture.user.text =
        [.changed nextDay] := by decide +kernel
    obtain ⟨p, hp, hdate⟩ := Option.map_eq_some_iff.1 hrow
    obtain ⟨-, -, hendures⟩ := hposts _ p hp
    rw [hlife] at hendures
    obtain ⟨times, p', htimes, hp', -, -, hcreated, hupdated⟩ := hendures (by decide)
    obtain ⟨now, rfl, hnow⟩ := List.map_eq_singleton_iff.1 htimes.symm
    obtain rfl := Milestone.changed.inj hnow
    exact ⟨p', hp', hcreated.trans hdate, hupdated⟩
  · have hrow : ((runOn .default beginnings (.start .json)).comments.table.rows.get? Fixture.user.text).map
        (fun c => (c.created, c.updated)) = some (Fixture.date, Fixture.date) := by decide +kernel
    have hlife : commentLife .default changes (runOn .default beginnings (.start .json)) Fixture.user.text = [] := by
      decide +kernel
    obtain ⟨c, hc, hdates⟩ := Option.map_eq_some_iff.1 hrow
    obtain ⟨-, -, hendures⟩ := hcomments _ c hc
    rw [hlife] at hendures
    obtain ⟨times, c', htimes, hc', -, -, -, hcreated, hupdated⟩ := hendures (by decide) (by decide)
    obtain rfl := List.map_eq_nil_iff.1 htimes.symm
    exact ⟨c', hc', hcreated.trans (congrArg Prod.fst hdates), hupdated.trans (congrArg Prod.snd hdates)⟩

end Forum.Pipeline
