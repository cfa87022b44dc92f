import Forum.Proofs.Pipeline.Publication

/-!
# Committed, then told

A request that writes is committed first and told of then. `Turn.Faithful` says of one request what this comes to: the
log gains a message exactly if the write was committed, the codec writes its event and the broker takes messages; the
message holds what is stored; a failure to publish is answered exactly if the write was committed and nothing was
logged; any other failure leaves rows and log as they are. It holds of every request (`faithful_of_result`), and so of
all turns of a run, whose messages make up the log in their order (`committed_then_told`).
-/

namespace Forum

open Memory Replication Simulation

/-! ## What a request is to tell of -/

namespace PostRequest

/-- What a request tells of, given the rows that it leaves: the stored post, or of a deletion the identifier. -/
def event (rows : Rows Post) : PostRequest → Option PostEvent
  | create id _ _ => (rows.get? id.text).map .created
  | update text _ _ => (rows.get? text).map .updated
  | delete text => some (.deleted ⟨text⟩)
  | _ => none

/-- The event of a write holds what is stored. -/
theorem event_of_tells {r : PostRequest} {e : PostEvent} {rows rows' : Rows Post} (htells : r.Tells e)
    (hw : Written rows e rows') : r.event rows' = some e := by
  cases hw with
  | @created post _ =>
    cases r with
    | create id new now =>
      obtain rfl : post.id = id := htells
      simp [event]
    | _ => exact htells.elim
  | @updated row post _ _ _ =>
    cases r with
    | update text u now =>
      obtain rfl : post.id.text = text := htells
      simp [event]
    | _ => exact htells.elim
  | @deleted row id _ =>
    cases r with
    | delete text =>
      obtain rfl : id.text = text := htells
      rfl
    | _ => exact htells.elim

end PostRequest

theorem Memory.isPublishError_iff {e : Error} :
    isPublishError e = true ↔ ∃ subject reason, e = .publish subject reason := by
  constructor
  · intro h
    cases e with
    | publish subject reason => exact ⟨subject, reason, rfl⟩
    | _ => nomatch h
  · rintro ⟨subject, reason, rfl⟩
    rfl

namespace Pipeline

variable {codec : Codec} {settings : SubscriberSettings}

/-! ## One request -/

/-- A request with its answer, and the worlds before and after it. -/
structure Turn where
  request : PostRequest
  before : World
  answer : Except Error Answer
  after : World

namespace Turn

/-- The messages that the log gained. -/
def gained (t : Turn) : List StoredMessage := logged t.before t.after

/-- The request's transaction was committed. -/
def Commits (t : Turn) : Prop := Posts.Committed t.before.posts t.after.posts

/-- What the request is to tell of. -/
def event (t : Turn) : Option PostEvent := t.request.event t.after.posts.table.rows

/-- What is committed is told of, if that is possible, and nothing else is. -/
structure Faithful (codec : Codec) (t : Turn) : Prop where
  /-- The log only grows. -/
  log : ∃ b b', t.before.broker = some b ∧ t.after.broker = some b' ∧ b'.log = b.log ++ t.gained
  gains : t.gained ≠ [] ↔ t.Commits ∧ ∃ e, t.event = some e ∧ (∃ payload, codec.encode e = .ok payload) ∧
    t.before.failPublishes = false
  /-- There is at most one message. It is read as the event, unless it is beyond the limit. -/
  message : t.gained = [] ∨ ∃ m e, t.gained = [m] ∧ t.event = some e ∧ Carries codec m e ∧
    (codec = .binary → m.payload.length ≤ sizeLimit) ∧
    (Applier.read codec m.subject m.payload = .ok e ↔ m.payload.length ≤ sizeLimit)
  /-- What is committed is the write that the event tells of. -/
  writes : t.Commits → ∃ e, t.event = some e ∧ Written t.before.posts.table.rows e t.after.posts.table.rows
  /-- A write that is answered with success is committed and told of. -/
  succeeds : ∀ a, t.answer = .ok a → t.request.isWrite = true → t.Commits ∧ t.gained ≠ []
  /-- A failure to publish is answered exactly if something was committed and nothing was logged. -/
  untold : (∃ subject reason, t.answer = .error (.publish subject reason)) ↔ t.Commits ∧ t.gained = []
  /-- Any other failure leaves the rows and the log. -/
  fails : ∀ e, t.answer = .error e → (∀ subject reason, e ≠ .publish subject reason) →
    t.after.posts.table.rows = t.before.posts.table.rows ∧ t.gained = []

end Turn

theorem faithful_of_result {w w' : World} {r : PostRequest} {answer : Except Error Answer} {b : Broker}
    (hb : w.broker = some b) (h : World.RequestResult w r (answer, w')) : Turn.Faithful w.codec ⟨r, w, answer, w'⟩ := by
  cases h with
  | @unchanged _ p hrows hwrite herror hcommit =>
    have hgained : Turn.gained ⟨r, w, answer, { w with posts := p }⟩ = [] :=
      logged_of_append hb hb (List.append_nil _).symm
    have hpublish : ¬∃ subject reason, answer = .error (.publish subject reason) := by
      rintro ⟨subject, reason, rfl⟩
      nomatch herror _ rfl
    refine ⟨⟨b, b, hb, hb, ?_⟩, ?_, .inl hgained, fun h => absurd h hcommit, ?_, ?_, fun _ _ _ => ⟨hrows, hgained⟩⟩
    · rw [hgained, List.append_nil]
    · exact iff_of_false (fun h => h hgained) fun h => hcommit h.1
    · intro a ha hw
      obtain ⟨e, he⟩ := hwrite hw
      nomatch ha.symm.trans he
    · exact iff_of_false hpublish fun h => hcommit h.1
  | @unpublished p e error htells hw he hcommit hrefused =>
    have hgained : Turn.gained ⟨r, w, .error error, { w with posts := p }⟩ = [] :=
      logged_of_append hb hb (List.append_nil _).symm
    have hevent := PostRequest.event_of_tells htells hw
    obtain ⟨subject, reason, rfl⟩ := isPublishError_iff.1 he
    refine ⟨⟨b, b, hb, hb, ?_⟩, ?_, .inl hgained, fun _ => ⟨e, hevent, hw⟩, fun _ h => (nomatch h),
      iff_of_true ⟨subject, reason, rfl⟩ ⟨hcommit, hgained⟩, ?_⟩
    · rw [hgained, List.append_nil]
    · refine iff_of_false (fun h => h hgained) ?_
      rintro ⟨-, e', hevent', hpayload, hf⟩
      obtain rfl := Option.some.inj (hevent.symm.trans hevent')
      exact hrefused ⟨hpayload, hf, Option.ne_none_iff_exists'.2 ⟨b, hb⟩⟩
    · intro e' he' hother
      obtain rfl := Except.error.inj he'
      exact absurd rfl (hother subject reason)
  | @published answer p e payload b' htells hw henc hf hb' hcommit =>
    obtain rfl := Option.some.inj (hb.symm.trans hb')
    have hposts : (World.afterBroker { w with posts := p } (b.publish e.subject [] payload)).posts = p :=
      (services_afterBroker { w with posts := p } _).posts
    have hlog := Broker.log_publish b e.subject [] payload
    have hafter := broker_afterBroker { w with posts := p } (b.publish e.subject [] payload)
    generalize World.afterBroker { w with posts := p } (b.publish e.subject [] payload) = w' at hposts hafter
    subst hposts
    have hgained : Turn.gained ⟨r, w, .ok answer, w'⟩ = [⟨b.log.length + 1, e.subject, [], payload⟩] :=
      logged_of_append hb hafter hlog
    have hgains : Turn.gained ⟨r, w, .ok answer, w'⟩ ≠ [] := hgained ▸ List.cons_ne_nil _ _
    have hevent := PostRequest.event_of_tells htells hw
    have hcarries : Carries w.codec ⟨b.log.length + 1, e.subject, [], payload⟩ e := ⟨rfl, henc⟩
    refine ⟨⟨b, _, hb, hafter, hgained ▸ hlog⟩, iff_of_true hgains ⟨hcommit, e, hevent, ⟨payload, henc⟩, hf⟩,
      .inr ⟨_, e, hgained, hevent, hcarries, fun hcodec => Codec.length_binary (hcodec ▸ henc), hcarries.read_iff⟩,
      fun _ => ⟨e, hevent, hw⟩, fun _ _ _ => ⟨hcommit, hgains⟩, ?_, fun _ h => nomatch h⟩
    exact iff_of_false (fun ⟨_, _, h⟩ => nomatch h) fun h => hgains h.2

/-! ## Runs -/

namespace Move

/-- A request to the posts service, or a fault of the calls that it makes. -/
def OfService : Move → Prop
  | request _ | failPublishes _ | failWrites _ | failBegin _ | failCommit _ | failRollback _ => True
  | _ => False

/-- The turn of a move, if it is a request. -/
def turn : Move → World → List Turn
  | request r, w => [⟨r, w, (ask r w).1, (ask r w).2⟩]
  | _, _ => []

end Move

/-- The world after moves, one after the other. -/
def runAll (settings : SubscriberSettings) : List Move → World → World
  | [], w => w
  | m :: ms, w => runAll settings ms (m.run settings w)

/-- The turns among moves, in their order. -/
def turns (settings : SubscriberSettings) : List Move → World → List Turn
  | [], _ => []
  | m :: ms, w => m.turn w ++ turns settings ms (m.run settings w)

/-- A move adds to the log what its turn gains. -/
theorem log_step (settings : SubscriberSettings) {m : Move} (hm : m.OfService) {w : World} {b : Broker}
    (hk : w.posts.table.rows.Keyed) (hb : w.broker = some b) :
    ∃ b', (m.run settings w).broker = some b' ∧ b'.log = b.log ++ (m.turn w).flatMap Turn.gained ∧
      ∀ t ∈ m.turn w, t.Faithful w.codec := by
  have quiet {w' : World} (h : w'.broker = w.broker) : ∃ b', w'.broker = some b' ∧
      b'.log = b.log ++ ([] : List Turn).flatMap Turn.gained ∧ ∀ t ∈ ([] : List Turn), t.Faithful w.codec :=
    ⟨b, h.trans hb, (List.append_nil _).symm, fun _ ht => nomatch ht⟩
  cases m with
  | request r =>
    have hfaithful := faithful_of_result hb (run_request settings hk r)
    obtain ⟨b₀, b', hb₀, hb', hlog⟩ := hfaithful.log
    obtain rfl := Option.some.inj (hb.symm.trans hb₀)
    refine ⟨b', hb', ?_, fun t ht => ?_⟩
    · rw [hlog]
      exact congrArg (b.log ++ ·) (List.append_nil _).symm
    · obtain rfl := List.mem_singleton.1 ht
      exact hfaithful
  | failPublishes on => exact quiet rfl
  | failWrites id => exact quiet rfl
  | failBegin on => exact quiet rfl
  | failCommit on => exact quiet rfl
  | failRollback on => exact quiet rfl
  | _ => exact hm.elim

/-- Moves add to the log what their turns gain, in the order of the turns. -/
theorem log_runAll (settings : SubscriberSettings) {ms : List Move} (h : ∀ m ∈ ms, m.OfService) {w : World} {b : Broker}
    (hk : w.posts.table.rows.Keyed) (hb : w.broker = some b) :
    ∃ b', (runAll settings ms w).broker = some b' ∧ b'.log = b.log ++ (turns settings ms w).flatMap Turn.gained ∧
      ∀ t ∈ turns settings ms w, t.Faithful w.codec := by
  induction ms generalizing w b with
  | nil => exact ⟨b, hb, (List.append_nil _).symm, fun _ ht => nomatch ht⟩
  | cons m ms ih =>
    obtain ⟨b₁, hb₁, hlog₁, hfaithful₁⟩ := log_step settings (h m List.mem_cons_self) hk hb
    obtain ⟨hcodec, hk₁⟩ := keyed_run settings hk m
    obtain ⟨b', hb', hlog, hfaithful⟩ := ih (fun n hn => h n (List.mem_cons_of_mem _ hn)) hk₁ hb₁
    refine ⟨b', hb', ?_, fun t ht => ?_⟩
    · rw [hlog, hlog₁, turns, List.flatMap_append, List.append_assoc]
    · rcases List.mem_append.1 ht with ht | ht
      · exact hfaithful₁ t ht
      · exact hcodec ▸ hfaithful t ht

/-- Whatever is asked of the posts service, and whichever of its calls fail on the way, each request commits first and
tells of what it committed then (`Turn.Faithful`), and the log holds the messages of the requests in their order. -/
theorem committed_then_told {ms : List Move} (h : ∀ m ∈ ms, m.OfService) :
    ∃ b, (runAll settings ms (.start codec)).broker = some b ∧
      b.log = (turns settings ms (.start codec)).flatMap Turn.gained ∧
      ∀ t ∈ turns settings ms (.start codec), t.Faithful codec := by
  obtain ⟨b, hb, hlog, hfaithful⟩ := log_runAll settings (w := .start codec) h (fun _ _ h => nomatch h) rfl
  exact ⟨b, hb, hlog, hfaithful⟩

/-! ## A change that is committed and not told of -/

/-- A post is created, and then changed while publications fail. -/
def untoldChange : List Move := [.request creation, .failPublishes true, .request change]

theorem untoldChange_told : (∀ m ∈ untoldChange, m.OfService) ∧
    ((turns .default untoldChange (.start .json)).map fun t => (t.answer.isOk, t.gained.length)) =
      [(true, 1), (false, 0)] ∧
    ∃ b, (runAll .default untoldChange (.start .json)).broker = some b ∧
      b.log = (turns .default untoldChange (.start .json)).flatMap Turn.gained ∧
      ∀ t ∈ turns .default untoldChange (.start .json), t.Faithful .json := by
  have hservice : ∀ m ∈ untoldChange, m.OfService := by simp [untoldChange, Move.OfService]
  exact ⟨hservice, by decide +kernel, committed_then_told hservice⟩

/-! ## A post beyond the limit -/

/-- A post that is too long to be read is to be created. -/
def oversizeCreation : PostRequest := .create ⟨Fixture.user.text⟩ longPost Fixture.date

/-- The first post that keeps the rules is stored and, as text, told of. -/
theorem ask_create {new : NewPost} (h : new.validate = .ok ()) (id : PostId) (now : Calendar.Instant) :
    ∃ p, ask (.create id new now) (.start .json) = (.ok (.post (new.toPost id now)),
      World.afterBroker { World.start .json with posts := p }
        (Broker.empty.publish Subject.postCreated [] (Json.encode (.created (new.toPost id now))))) := by
  unfold ask PostRequest.run PostService.create
  simp only [map_eq_pure_bind, bind_assoc, pure_bind]
  rw [Action.bind_of_ok (World.check_of_ok h _)]
  have hstore : ∃ p, World.postTransactions.atomically none (fun tx => World.postStore.create tx (new.toPost id now))
      (World.start .json) = (.ok (), { World.start .json with posts := p }) := ⟨_, rfl⟩
  obtain ⟨p, hstore⟩ := hstore
  have henc : Codec.json.encode (.created (new.toPost id now)) = .ok (Json.encode (.created (new.toPost id now))) := rfl
  have hpub := publish_of_encode (w := { World.start .json with posts := p }) henc rfl rfl
  exact ⟨p, (Action.bind_of_ok hstore _).trans (Action.bind_of_ok hpub _)⟩

theorem validate_longPost : longPost.validate = .ok () := by
  have hblank : Text.isBlankText longText = false := by
    rw [Text.isBlankText, longText, String.toList_ofList, List.replicate_succ, List.all_cons]
    rfl
  have hdescription : requireText "description" longText = .ok () := by
    rw [requireText, hblank]
    rfl
  show (do
    requireText "title" "first"
    requireText "description" longText
    requireUuid "user_id" Fixture.user.text : Except Error Unit) = .ok ()
  rw [hdescription]
  decide

/-- The message of the creation is logged, and no replica reads it. -/
theorem oversizeCreation_unread :
    ¬ ∀ (codec : Codec) (ms : List Move), (∀ m ∈ ms, m.OfService) → ∀ t ∈ turns .default ms (.start codec),
      ∀ m ∈ t.gained, ∃ e, t.event = some e ∧ Applier.read codec m.subject m.payload = .ok e := by
  intro h
  obtain ⟨p, hask⟩ := ask_create validate_longPost ⟨Fixture.user.text⟩ Fixture.date
  have hservice : ∀ m ∈ [Move.request oversizeCreation], m.OfService := by simp [Move.OfService]
  have hturn := h .json _ hservice ⟨oversizeCreation, .start .json, _, _⟩ List.mem_cons_self
  have hgained : Turn.gained ⟨oversizeCreation, .start .json, (ask oversizeCreation (.start .json)).1,
      (ask oversizeCreation (.start .json)).2⟩ = [⟨1, Subject.postCreated, [],
        Json.encode (.created (longPost.toPost ⟨Fixture.user.text⟩ Fixture.date))⟩] := by
    rw [oversizeCreation, hask]
    exact logged_of_append rfl (broker_afterBroker _ _) (Broker.log_publish .empty _ _ _)
  have hlarge := Applier.read_tooLarge .json (.created (longPost.toPost ⟨Fixture.user.text⟩ Fixture.date))
    (sizeLimit_lt_longPost ⟨Fixture.user.text⟩ Fixture.date)
  rw [hgained] at hturn
  -- The payload is never computed: only its length matters.
  generalize Json.encode (.created (longPost.toPost ⟨Fixture.user.text⟩ Fixture.date)) = payload at hturn hlarge
  obtain ⟨e, -, hread⟩ := hturn _ (List.mem_singleton.2 rfl)
  nomatch hlarge.symm.trans hread

end Pipeline

end Forum
