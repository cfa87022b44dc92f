import Forum.Proofs.Replica.Cells
import Forum.Proofs.Service.Transaction
import Forum.Simulation.World

/-!
# What a request to the posts service does

A request that writes either fails and leaves the rows as they are, or it makes the one write that its event tells of
(`Written`), and then all that is left to do is to publish the event (`request_result`). A request that only reads leaves
the rows as they are.
-/

namespace Forum

open Memory Simulation

/-- Every row is kept under the identifier of its post. -/
def Memory.Rows.Keyed (rows : Rows Post) : Prop := ∀ k post, rows.get? k = some post → post.id.text = k

/-- The rows of the posts service before and after the write that an event tells of. A change keeps who wrote the post
and when. -/
inductive Written (rows : Rows Post) : PostEvent → Rows Post → Prop
  | created {post : Post} (hnew : rows.get? post.id.text = none) :
    Written rows (.created post) (rows.insert post.id.text post)
  | updated {row post : Post} (hrow : rows.get? post.id.text = some row) (huser : post.user = row.user)
      (hcreated : post.created = row.created) :
    Written rows (.updated post) (rows.insert post.id.text post)
  | deleted {row : Post} {id : PostId} (hrow : rows.get? id.text = some row) :
    Written rows (.deleted id) (rows.erase id.text)

/-- A row was there before a write, or the event of the write carries it. -/
theorem Written.row_cases {rows rows' : Rows Post} {e : PostEvent} (h : Written rows e rows') {key : String} {row : Post}
    (hrow : rows'.get? key = some row) :
    rows.get? key = some row ∨ ((e = .created row ∨ e = .updated row) ∧ row.id.text = key) := by
  cases h with
  | @created post _ =>
    rw [Rows.get?_insert] at hrow
    split at hrow
    · rename_i hkey
      obtain rfl := Option.some.inj hrow
      exact .inr ⟨.inl rfl, hkey.symm⟩
    · exact .inl hrow
  | @updated old post _ _ _ =>
    rw [Rows.get?_insert] at hrow
    split at hrow
    · rename_i hkey
      obtain rfl := Option.some.inj hrow
      exact .inr ⟨.inr rfl, hkey.symm⟩
    · exact .inl hrow
  | deleted _ =>
    rw [Rows.get?_erase] at hrow
    split at hrow
    · nomatch hrow
    · exact .inl hrow

/-- Rows stay under their identifiers. -/
theorem Written.keyed {rows rows' : Rows Post} {e : PostEvent} (h : Written rows e rows') (hk : rows.Keyed) :
    rows'.Keyed := by
  intro k post hget
  rcases h.row_cases hget with hold | ⟨-, hkey⟩
  · exact hk k post hold
  · exact hkey

/-- The post of a row had a row before a write, or the write creates it. -/
theorem Written.row_before {rows rows' : Rows Post} {e : PostEvent} (h : Written rows e rows') {key : String} {row : Post}
    (hrow : rows'.get? key = some row) :
    (∃ row, rows.get? key = some row) ∨ ∃ post, e = .created post ∧ post.id.text = key := by
  rcases h.row_cases hrow with hold | ⟨rfl | rfl, hkey⟩
  · exact .inl ⟨row, hold⟩
  · exact .inr ⟨row, rfl, hkey⟩
  · cases h with
    | @updated old _ hold _ _ => exact .inl ⟨old, hkey ▸ hold⟩

/-- A write that is no creation is one of a row that is there. -/
theorem Written.row_of_event {rows rows' : Rows Post} {e : PostEvent} (h : Written rows e rows') :
    (∃ row, rows.get? e.postId.text = some row) ∨ ∃ post, e = .created post := by
  cases h with
  | @created post _ => exact .inr ⟨post, rfl⟩
  | @updated row _ hrow _ _ => exact .inl ⟨row, hrow⟩
  | @deleted row _ hrow => exact .inl ⟨row, hrow⟩

/-! ## The work of each request -/

namespace Memory.Posts

/-- Work of a request on the table. -/
def createWork (post : Post) (tx : Option Handle) : Action (Table Post) Unit := Table.putNew tx post.id.text post

def findWork (id : PostId) (tx : Option Handle) : Action (Table Post) Post :=
  Table.ask tx fun r => (r.get? id.text).elim (.error (.postNotFound id)) .ok

def amendWork (id : PostId) (update : PostUpdate) (now : Calendar.Instant) (tx : Option Handle) :
    Action (Table Post) Post := do
  let post := (← findWork id tx).apply update now
  Table.put tx post.id.text post
  pure post

def removeWork (id : PostId) (tx : Option Handle) : Action (Table Post) Unit := do
  if !(← Table.remove tx id.text) then throw (.postNotFound id)

/-- A creation stages the post where there is none. -/
theorem stages_create (post : Post) : Stages (createWork post) fun rows _ w =>
    rows.get? post.id.text = none ∧ w = (post.id.text, some post) := by
  intro t tx h
  unfold createWork
  rcases Table.putNew_cases h post.id.text post with ⟨reason, hput⟩ | ⟨hnew, hput⟩
  · rw [hput]
    exact .failed rfl rfl
  · rw [hput]
    exact .staged ⟨Rows.contains_eq_false.1 hnew, rfl⟩ rfl (Table.staged_stage h _)

/-- A change stages the post that was found, with the change. -/
theorem stages_amend (id : PostId) (update : PostUpdate) (now : Calendar.Instant) :
    Stages (amendWork id update now) fun rows post w =>
      ∃ row, rows.get? id.text = some row ∧ post = row.apply update now ∧ w = (post.id.text, some post) := by
  intro t tx h
  unfold amendWork findWork
  have hask := Table.ask_of_staged h fun r => (r.get? id.text).elim (.error (.postNotFound id)) .ok
  cases hrow : t.rows.get? id.text with
  | none =>
    have hview : (t.rows.writeAll []).get? id.text = none := hrow
    rw [hview] at hask
    rw [Action.bind_of_error hask]
    exact .failed rfl rfl
  | some row =>
    have hview : (t.rows.writeAll []).get? id.text = some row := hrow
    rw [hview] at hask
    rw [Action.bind_of_ok hask]
    rcases Table.put_cases h (row.apply update now).id.text (row.apply update now) with ⟨reason, hput⟩ | hput
    · rw [Action.bind_of_error hput]
      exact .failed rfl rfl
    · rw [Action.bind_of_ok hput]
      exact .staged ⟨row, hrow, rfl, rfl⟩ rfl (Table.staged_stage h _)

/-- A removal stages that the post is gone, where there is one. -/
theorem stages_remove (id : PostId) : Stages (removeWork id) fun rows _ w =>
    (∃ row, rows.get? id.text = some row) ∧ w = (id.text, none) := by
  intro t tx h
  unfold removeWork
  rcases Table.remove_cases h id.text with ⟨reason, hremove⟩ | ⟨_, hremove⟩ | ⟨hrow, hremove⟩
  · rw [Action.bind_of_error hremove]
    exact .failed rfl rfl
  · rw [Action.bind_of_ok hremove]
    exact .failed rfl rfl
  · rw [Action.bind_of_ok hremove]
    exact .staged ⟨Option.isSome_iff_exists.1 hrow, rfl⟩ rfl (Table.staged_stage h _)

end Memory.Posts

/-! ## Publishing -/

namespace Simulation.World

/-- The publisher of a world. -/
def publisher (codec : Codec) : Publisher World := ⟨codec, publish⟩

/-- The event can be published: the codec writes it, and the broker is there and takes messages. -/
def Publishable (codec : Codec) (w : World) (e : PostEvent) : Prop :=
  (∃ payload, codec.encode e = .ok payload) ∧ w.failPublishes = false ∧ w.broker ≠ none

/-- An event that cannot be published is refused and changes nothing; else its payload goes to the broker. -/
theorem publish_cases (codec : Codec) (e : PostEvent) (w : World) :
    (¬Publishable codec w e ∧ ∃ error, isPublishError error = true ∧ (publisher codec).publish e w = (.error error, w)) ∨
      ∃ payload b, codec.encode e = .ok payload ∧ w.failPublishes = false ∧ w.broker = some b ∧
        (publisher codec).publish e w = (.ok (), w.afterBroker (b.publish e.subject [] payload)) := by
  unfold Publisher.publish publisher
  cases henc : codec.encode e with
  | error fault =>
    refine .inl ⟨?_, _, rfl, rfl⟩
    rintro ⟨⟨payload, h⟩, -⟩
    nomatch henc.symm.trans h
  | ok payload =>
    simp only [publish]
    cases hf : w.failPublishes with
    | true => exact .inl ⟨fun h => (nomatch hf.symm.trans h.2.1), _, rfl, rfl⟩
    | false =>
      cases hb : w.broker with
      | none => exact .inl ⟨fun h => h.2.2 hb, _, rfl, rfl⟩
      | some b => exact .inr ⟨payload, b, rfl, rfl, rfl, rfl⟩

/-! ## Requests -/

theorem postsPart_lawful : postsPart.Lawful := ⟨fun _ => rfl, fun _ _ => rfl, fun _ _ _ => rfl⟩

/-- Work on the table of posts within the world. -/
def onTable {α : Type} (a : Action (Table Post) α) : Action World α := postsPart.lift (Posts.rows.lift a)

/-- Work on the table, step by step. -/
theorem onTable_bind {α β : Type} (a : Action (Table Post) α) (f : α → Action (Table Post) β) :
    onTable (a >>= f) = onTable a >>= fun x => onTable (f x) := by
  unfold onTable
  rw [Part.lift_bind Posts.rows_lawful, Part.lift_bind postsPart_lawful]

theorem onTable_pure {α : Type} (x : α) : onTable (pure x) = pure x := by
  unfold onTable
  rw [Part.lift_pure Posts.rows_lawful, Part.lift_pure postsPart_lawful]

theorem onTable_throw {α : Type} (e : Error) : (onTable (throw e) : Action World α) = throw e := by
  unfold onTable
  rw [Part.lift_throw Posts.rows_lawful, Part.lift_throw postsPart_lawful]

/-- A transaction of work that stages one write, within the world. -/
theorem atomically_cases {α : Type} {work : Option Handle → Action (Table Post) α}
    {may : Rows Post → α → Rows.Write Post → Prop} (h : Stages work may) (w : World) :
    ∃ result p, postTransactions.atomically none (fun tx => onTable (work tx)) w = (result, { w with posts := p }) ∧
      Posts.WriteResult w.posts may (result, p) := Posts.atomically_result postsPart_lawful h now w

end Simulation.World

namespace PostRequest

/-- The request asks for a write. -/
def isWrite : PostRequest → Bool
  | create _ _ _ | update _ _ _ | delete _ => true
  | _ => false

/-- The event tells of what the request asks for. -/
def Tells : PostRequest → PostEvent → Prop
  | create id _ _, .created post => post.id = id
  | update id _ _, .updated post => post.id.text = id
  | delete id, .deleted post => post.text = id
  | _, _ => False

end PostRequest

namespace Simulation.World

/-- What comes of a request: nothing is committed, or one write is, and its event is published or not. -/
inductive RequestResult (w : World) (r : PostRequest) : Except Error Answer × World → Prop
  | unchanged {answer : Except Error Answer} {p : Posts} (hrows : p.table.rows = w.posts.table.rows)
      (hwrite : r.isWrite = true → ∃ e, answer = .error e)
      (herror : ∀ e, answer = .error e → isPublishError e = false) (hcommit : ¬Posts.Committed w.posts p) :
    RequestResult w r (answer, { w with posts := p })
  | unpublished {p : Posts} {event : PostEvent} {e : Error} (htells : r.Tells event)
      (hw : Written w.posts.table.rows event p.table.rows) (he : isPublishError e = true)
      (hcommit : Posts.Committed w.posts p) (hrefused : ¬Publishable w.codec w event) :
    RequestResult w r (.error e, { w with posts := p })
  | published {answer : Answer} {p : Posts} {event : PostEvent} {payload : Payload} {b : Broker} (htells : r.Tells event)
      (hw : Written w.posts.table.rows event p.table.rows) (henc : w.codec.encode event = .ok payload)
      (hf : w.failPublishes = false) (hb : w.broker = some b) (hcommit : Posts.Committed w.posts p) :
    RequestResult w r (.ok answer, afterBroker { w with posts := p } (b.publish event.subject [] payload))

/-- A write, and then its publication. -/
theorem request_of_write {α : Type} {w : World} {r : PostRequest} {write : Action World α} (event : α → PostEvent)
    (answer : α → Answer) {may : Rows Post → α → Rows.Write Post → Prop} {result : Except Error α} {p : Posts}
    (hwrite : write w = (result, { w with posts := p })) (hres : Posts.WriteResult w.posts may (result, p))
    (hmay : ∀ x v, may w.posts.table.rows x v →
      r.Tells (event x) ∧ Written w.posts.table.rows (event x) (w.posts.table.rows.write v)) :
    RequestResult w r ((do
      let x ← write
      (publisher w.codec).publish (event x)
      pure (answer x) : Action World Answer) w) := by
  cases hres with
  | @failed e _ he hrows hcommit =>
    rw [Action.bind_of_error hwrite]
    refine .unchanged hrows (fun _ => ⟨e, rfl⟩) ?_ hcommit
    rintro _ ⟨⟩
    exact he
  | @written x s v hm hrows hcommit =>
    obtain ⟨htells, hw⟩ := hmay x v hm
    rw [← hrows] at hw
    rw [Action.bind_of_ok hwrite]
    rcases publish_cases w.codec (event x) { w with posts := p } with
      ⟨hrefused, e, he, hpub⟩ | ⟨payload, b, henc, hf, hb, hpub⟩
    · rw [Action.bind_of_error hpub]
      exact .unpublished htells hw he hcommit hrefused
    · rw [Action.bind_of_ok hpub]
      exact .published htells hw henc hf hb hcommit

theorem read_eq_ok {text : String} {id : PostId} (h : PostId.read text = .ok id) : id = ⟨text⟩ := by
  unfold PostId.read PostId.parse? at h
  split at h
  · exact (Except.ok.inj h).symm
  · nomatch h

/-- A check that fails ends an operation before anything is done. -/
theorem check_of_error {σ α : Type} {c : Except Error α} {e : Error} (h : c = .error e) (s : σ) :
    (liftM c : Action σ α) s = (.error e, s) := by
  subst h
  rfl

/-- A check that passes changes nothing. -/
theorem check_of_ok {σ α : Type} {c : Except Error α} {x : α} (h : c = .ok x) (s : σ) :
    (liftM c : Action σ α) s = (.ok x, s) := by
  subst h
  rfl

/-- A check whose errors are none of publishing. -/
def Checks {α : Type} (c : Except Error α) : Prop := ∀ e, c = .error e → isPublishError e = false

/-- Checks one after the other. -/
theorem checks_bind {α β : Type} {c : Except Error α} {f : α → Except Error β} (hc : Checks c)
    (hf : ∀ x, Checks (f x)) : Checks (c >>= f) := by
  intro e h
  cases hx : c with
  | error e' =>
    rw [hx] at h
    obtain rfl := Except.error.inj h
    exact hc _ hx
  | ok x =>
    rw [hx] at h
    exact hf x e h

theorem checks_requireText (field value : String) : Checks (requireText field value) := by
  intro e h
  unfold requireText at h
  split at h
  · obtain rfl := Except.error.inj h
    rfl
  · nomatch h

theorem checks_requireTextIfGiven (field : String) (value : Option String) :
    Checks (requireTextIfGiven field value) := by
  cases value with
  | none => exact fun _ h => nomatch h
  | some value => exact checks_requireText field value

theorem checks_requireUuid (field value : String) : Checks (requireUuid field value) := by
  intro e h
  unfold requireUuid at h
  split at h
  · nomatch h
  · obtain rfl := Except.error.inj h
    rfl

theorem checks_newPost (new : NewPost) : Checks new.validate :=
  checks_bind (checks_requireText _ _) fun _ => checks_bind (checks_requireText _ _) fun _ => checks_requireUuid _ _

theorem checks_postUpdate (update : PostUpdate) : Checks update.validate :=
  checks_bind (checks_requireTextIfGiven _ _) fun _ => checks_requireTextIfGiven _ _

theorem checks_read (text : String) : Checks (PostId.read text) := by
  intro e h
  unfold PostId.read PostId.parse? at h
  split at h
  · nomatch h
  · obtain rfl := Except.error.inj h
    rfl

theorem checks_readUser (text : String) : Checks (UserId.read text) := by
  intro e h
  unfold UserId.read UserId.parse? at h
  split at h
  · nomatch h
  · obtain rfl := Except.error.inj h
    rfl

/-- A request whose check fails does nothing. -/
theorem request_of_check {α : Type} {w : World} {r : PostRequest} {c : Except Error α} (hc : Checks c)
    {rest : α → Action World Answer} (hrest : ∀ x, c = .ok x → RequestResult w r (rest x w)) :
    RequestResult w r ((liftM c >>= rest : Action World Answer) w) := by
  cases h : c with
  | error e =>
    rw [Action.bind_of_error (check_of_error rfl w)]
    refine .unchanged rfl (fun _ => ⟨e, rfl⟩) ?_ (Posts.not_committed rfl)
    rintro _ ⟨⟩
    exact hc e h
  | ok x =>
    rw [Action.bind_of_ok (check_of_ok rfl w)]
    exact hrest x h

/-- What comes of a request for a new post. -/
theorem request_create (w : World) (id : PostId) (new : NewPost) (now : Calendar.Instant) :
    RequestResult w (.create id new now) ((PostRequest.create id new now).run (w.backend.postService none) w) := by
  unfold PostRequest.run PostService.create
  simp only [map_eq_pure_bind, bind_assoc, pure_bind]
  refine request_of_check (checks_newPost new) fun _ _ => ?_
  obtain ⟨result, p, hwrite, hres⟩ := atomically_cases (Posts.stages_create (new.toPost id now)) w
  refine request_of_write (fun _ => .created (new.toPost id now)) (fun _ => .post (new.toPost id now)) hwrite hres ?_
  rintro _ v ⟨hnew, rfl⟩
  exact ⟨rfl, .created hnew⟩

/-- What comes of a request for a change. -/
theorem request_update (w : World) (hk : w.posts.table.rows.Keyed) (text : String) (u : PostUpdate)
    (now : Calendar.Instant) :
    RequestResult w (.update text u now) ((PostRequest.update text u now).run (w.backend.postService none) w) := by
  unfold PostRequest.run PostService.update PostService.amend
  simp only [map_eq_pure_bind, bind_assoc, pure_bind]
  refine request_of_check (checks_read text) fun id hid => ?_
  refine request_of_check (checks_postUpdate u) fun _ _ => ?_
  obtain rfl := read_eq_ok hid
  obtain ⟨result, p, hwrite, hres⟩ := atomically_cases (Posts.stages_amend ⟨text⟩ u now) w
  unfold Posts.amendWork at hwrite
  simp only [onTable_bind, onTable_pure] at hwrite
  refine request_of_write .updated .post hwrite hres ?_
  rintro post v ⟨row, hrow, rfl, rfl⟩
  have hid : (row.apply u now).id.text = text := hk text row hrow
  have hold : w.posts.table.rows.get? (row.apply u now).id.text = some row := by
    rw [hid]
    exact hrow
  exact ⟨hid, .updated hold rfl rfl⟩

/-- What comes of a request for a removal. -/
theorem request_delete (w : World) (text : String) :
    RequestResult w (.delete text) ((PostRequest.delete text).run (w.backend.postService none) w) := by
  unfold PostRequest.run PostService.delete PostService.remove
  simp only [map_eq_pure_bind, bind_assoc]
  refine request_of_check (checks_read text) fun id hid => ?_
  obtain rfl := read_eq_ok hid
  obtain ⟨result, p, hwrite, hres⟩ := atomically_cases (Posts.stages_remove ⟨text⟩) w
  unfold Posts.removeWork at hwrite
  simp only [onTable_bind, apply_ite onTable, onTable_throw, onTable_pure] at hwrite
  refine request_of_write (fun _ => .deleted ⟨text⟩) (fun _ => .done) hwrite hres ?_
  rintro _ v ⟨⟨row, hrow⟩, rfl⟩
  exact ⟨rfl, .deleted hrow⟩

/-- A request that reads leaves everything as it is. -/
theorem request_of_read {α : Type} {w : World} {r : PostRequest} (hr : r.isWrite = false)
    (f : Rows Post → Except Error α) (hf : ∀ rows, Checks (f rows)) (answer : α → Answer) :
    RequestResult w r ((answer <$> onTable (Table.ask none f) : Action World Answer) w) := by
  rw [map_eq_pure_bind]
  have hask : onTable (Table.ask none f) w = (f w.posts.table.rows, w) := rfl
  have hwrite {answer : Except Error Answer} (h : r.isWrite = true) : ∃ e, answer = .error e := by
    rw [hr] at h
    nomatch h
  cases hrows : f w.posts.table.rows with
  | error e =>
    rw [hrows] at hask
    rw [Action.bind_of_error hask]
    refine .unchanged rfl hwrite ?_ (Posts.not_committed rfl)
    rintro _ ⟨⟩
    exact hf _ e hrows
  | ok x =>
    rw [hrows] at hask
    rw [Action.bind_of_ok hask]
    exact .unchanged rfl hwrite (fun _ h => nomatch h) (Posts.not_committed rfl)

/-- To look for a post is no publication. -/
theorem checks_find (rows : Rows Post) (id : PostId) :
    Checks ((rows.get? id.text).elim (.error (.postNotFound id)) .ok : Except Error Post) := by
  intro e h
  cases hrow : rows.get? id.text with
  | none =>
    rw [hrow] at h
    obtain rfl := Except.error.inj h
    rfl
  | some row =>
    rw [hrow] at h
    nomatch h

/-- What comes of a request of any kind. -/
theorem request_result (w : World) (hk : w.posts.table.rows.Keyed) (r : PostRequest) :
    RequestResult w r (r.run (w.backend.postService none) w) := by
  cases r with
  | create id new now => exact request_create w id new now
  | update text u now => exact request_update w hk text u now
  | delete text => exact request_delete w text
  | page page =>
    exact request_of_read (r := .page page) rfl (fun rows => .ok (page.of (Posts.listed rows.values)))
      (fun _ _ h => nomatch h) .posts
  | find text =>
    unfold PostRequest.run PostService.find
    simp only [map_eq_pure_bind, bind_assoc]
    refine request_of_check (checks_read text) fun id _ => ?_
    rw [← map_eq_pure_bind]
    exact request_of_read (r := .find text) rfl
      (fun rows => (rows.get? id.text).elim (.error (.postNotFound id)) .ok) (fun rows => checks_find rows id) .post
  | ofUser text =>
    unfold PostRequest.run PostService.ofUser
    simp only [map_eq_pure_bind, bind_assoc]
    refine request_of_check (checks_readUser text) fun user _ => ?_
    rw [← map_eq_pure_bind]
    exact request_of_read (r := .ofUser text) rfl (fun rows => .ok (rows.values.filter fun p => p.user = user))
      (fun _ _ h => nomatch h) .posts

end Simulation.World

end Forum
