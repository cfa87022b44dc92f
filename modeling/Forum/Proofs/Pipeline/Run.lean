import Forum.Proofs.Broker.Coverage
import Forum.Proofs.Replica.Cells
import Forum.Proofs.Service.Posts

/-!
# Runs of the replication pipeline

A run starts with a new world and makes moves in any order: messages are published, the posts service is asked for
something, members subscribe and are lost, deliveries are processed or expire, and all sorts of calls start or cease to
fail. A `History` is a world with a record of what happened on the way. `Reachable` histories are those of runs whose
moves are all allowed; which moves are is a parameter.
-/

namespace Forum.Pipeline

open Memory Replication Simulation

/-- What happens next. -/
inductive Move where
  | publish (subject : String) (headers : Headers) (payload : Payload)
  | request (request : PostRequest)
  | subscribe (subject : String) (options : SubscriptionOptions)
  /-- The broker parts from all members. -/
  | disconnect
  /-- The stream of a member is let go. -/
  | drop (member : Nat)
  /-- A subscriber processes a delivery that was handed out at some time, settled or not. -/
  | process (handOut : HandOut)
  /-- The time of a delivery that was handed out at some time is over. -/
  | expire (handOut : HandOut)
  | failReplica (id : PostId)
  | healReplica
  | failPublishes (on : Bool)
  | failWrites (id : String)
  | failBegin (on : Bool)
  | failCommit (on : Bool)
  | failRollback (on : Bool)

/-- A world with a record of what happened on the way. -/
structure History where
  world : World
  /-- What was in the inbox of a stream at some time. -/
  handed : List HandOut
  /-- The deliveries that were applied to the replica, with the events that they brought, in this order. -/
  applied : List (HandOut × PostEvent)
  /-- The deliveries that were forwarded, with the messages that were logged for them. -/
  forwarded : List (HandOut × StoredMessage)
  /-- The rows of the posts service right after each write that was committed and told of. -/
  commits : List (Rows Post)
  /-- The identifiers for which posts were to be created. -/
  drawn : List PostId

/-- What is in the inboxes of the streams. -/
def inboxes (w : World) : List HandOut := w.streams.flatMap Stream.inbox

/-- What the posts service does. -/
def ask (r : PostRequest) (w : World) : Except Error Answer × World := r.run (w.backend.postService none) w

/-- The delivery with its event, if processing it applies the event. -/
def application (w : World) (h : HandOut) : List (HandOut × PostEvent) :=
  match Applier.read w.codec h.delivery.subject h.delivery.payload,
      (w.applier.apply h.delivery.subject h.delivery.payload w).1 with
  | .ok e, .ok _ => [(h, e)]
  | _, _ => []

/-- The messages that were logged between two worlds. -/
def logged (w w' : World) : List StoredMessage :=
  match w.broker, w'.broker with
  | some b, some b' => b'.log.drop b.log.length
  | _, _ => []

namespace Move

variable (settings : SubscriberSettings)

/-- The world after a move. -/
def run : Move → World → World
  | publish subject headers payload, w => (World.publish subject headers payload w).2
  | request r, w => (ask r w).2
  | subscribe subject options, w => (World.subscribe subject options w).2
  | disconnect, w => w.disconnect
  | drop member, w => w.dropStream member
  | process h, w => ((w.subscriber settings).process h.delivery (World.settlement h) w).2
  | expire h, w => w.expire h.durable h.seq h.delivery.count
  | failReplica id, w => w.onReplica fun r => r.fail id
  | healReplica, w => w.onReplica Replica.heal
  | failPublishes on, w => { w with failPublishes := on }
  | failWrites id, w => w.failWrites id
  | failBegin on, w => w.failBegin on
  | failCommit on, w => w.failCommit on
  | failRollback on, w => w.failRollback on

/-- What a move in a world adds to the record. -/
def applied : Move → World → List (HandOut × PostEvent)
  | process h, w => application w h
  | _, _ => []

def forwarded : Move → World → List (HandOut × StoredMessage)
  | process h, w => (logged w ((process h).run settings w)).map fun m => (h, m)
  | _, _ => []

def commits : Move → World → List (Rows Post)
  | request r, w => if r.isWrite && (ask r w).1.isOk then [(ask r w).2.posts.table.rows] else []
  | _, _ => []

def drawn : Move → List PostId
  | request (.create id _ _) => [id]
  | _ => []

end Move

namespace History

/-- Nothing has happened yet. -/
def start (codec : Codec) : History := ⟨.start codec, [], [], [], [], []⟩

/-- A move, with its record. -/
def step (settings : SubscriberSettings) (x : History) (m : Move) : History where
  world := m.run settings x.world
  handed := x.handed ++ inboxes (m.run settings x.world)
  applied := x.applied ++ m.applied x.world
  forwarded := x.forwarded ++ m.forwarded settings x.world
  commits := x.commits ++ m.commits x.world
  drawn := x.drawn ++ m.drawn

end History

/-- The histories of runs whose moves are all allowed. -/
inductive Reachable (settings : SubscriberSettings) (codec : Codec) (may : History → Move → Prop) : History → Prop
  | start : Reachable settings codec may (.start codec)
  | step {x : History} {m : Move} (h : Reachable settings codec may x) (hm : may x m) :
    Reachable settings codec may (x.step settings m)

variable {settings : SubscriberSettings} {codec : Codec} {may may' : History → Move → Prop} {x : History}

/-- Where more is allowed, more is reachable. -/
theorem Reachable.mono (h : Reachable settings codec may x) (hm : ∀ x m, may x m → may' x m) :
    Reachable settings codec may' x := by
  induction h with
  | start => exact .start
  | step _ hmay ih => exact .step ih (hm _ _ hmay)

/-! ## What requests to the broker change -/

section Broker

variable (w : World) (answer : Broker × List HandOut)

theorem mem_inboxes_receive {w : World} {g h : HandOut} (hg : g ∈ inboxes (w.receive h)) :
    g ∈ inboxes w ∨ g = h := by
  obtain ⟨s, hs, hmem⟩ := List.mem_flatMap.1 hg
  obtain ⟨s', hs', rfl⟩ := List.mem_map.1 hs
  split at hmem
  · rcases List.mem_append.1 hmem with hmem | hmem
    · exact .inl (List.mem_flatMap.2 ⟨s', hs', hmem⟩)
    · exact .inr (List.mem_singleton.1 hmem)
  · exact .inl (List.mem_flatMap.2 ⟨s', hs', hmem⟩)

/-- The parts of a world that the broker has nothing to do with. -/
structure SameServices (w w' : World) : Prop where
  codec : w'.codec = w.codec
  posts : w'.posts = w.posts
  comments : w'.comments = w.comments

theorem SameServices.refl (w : World) : SameServices w w := ⟨rfl, rfl, rfl⟩

theorem SameServices.trans {u v w : World} (h : SameServices u v) (h' : SameServices v w) : SameServices u w :=
  ⟨h'.codec.trans h.codec, h'.posts.trans h.posts, h'.comments.trans h.comments⟩

/-- Hand-outs reach inboxes and timers, and nothing else. -/
theorem receive_all (hs : List HandOut) (w : World) :
    SameServices w (hs.foldl World.receive w) ∧ (hs.foldl World.receive w).broker = w.broker ∧
      (hs.foldl World.receive w).failPublishes = w.failPublishes ∧
      ∀ g ∈ inboxes (hs.foldl World.receive w), g ∈ inboxes w ∨ g ∈ hs := by
  induction hs generalizing w with
  | nil => exact ⟨.refl w, rfl, rfl, fun _ hg => .inl hg⟩
  | cons h hs ih =>
    obtain ⟨hsame, hbroker, hfail, hin⟩ := ih (w.receive h)
    refine ⟨⟨hsame.codec, hsame.posts, hsame.comments⟩, hbroker, hfail, fun g hg => ?_⟩
    rcases hin g hg with hg | hg
    · rcases mem_inboxes_receive hg with hg | rfl
      · exact .inl hg
      · exact .inr List.mem_cons_self
    · exact .inr (List.mem_cons_of_mem _ hg)

theorem services_afterBroker : SameServices w (w.afterBroker answer) :=
  ⟨(receive_all answer.2 _).1.codec, (receive_all answer.2 _).1.posts, (receive_all answer.2 _).1.comments⟩

@[simp] theorem broker_afterBroker : (w.afterBroker answer).broker = some answer.1 := (receive_all answer.2 _).2.1

theorem inboxes_afterBroker : ∀ g ∈ inboxes (w.afterBroker answer), g ∈ inboxes w ∨ g ∈ answer.2 :=
  (receive_all answer.2 _).2.2.2

end Broker

/-- A member is turned away, or it joins with a stream of its own. -/
theorem subscribe_cases (subject : String) (options : SubscriptionOptions) (w : World) :
    (∃ attempts, (World.subscribe subject options w).2 = { w with attempts := attempts }) ∨
      ∃ b member answer attempts, w.broker = some b ∧ b.subscribe subject options = .ok (member, answer) ∧
        (World.subscribe subject options w).2 =
          World.afterBroker
            { w with attempts := attempts, streams := w.streams ++ [⟨member, subject, [], []⟩] } answer := by
  unfold World.subscribe
  simp only []
  split
  · exact .inl ⟨_, rfl⟩
  · split
    · exact .inl ⟨_, rfl⟩
    · rename_i b hb
      split
      · exact .inl ⟨_, rfl⟩
      · rename_i member answer hsub
        exact .inr ⟨b, member, answer, _, hb, hsub, rfl⟩

/-- Settling leaves the log as it is. -/
theorem broker_settle {w : World} (h : HandOut) (giveUp : Bool) {b : Broker} (hb : w.broker = some b) :
    ∃ b', (World.settle h giveUp w).2.broker = some b' ∧ b'.log = b.log := by
  unfold World.settle
  rw [hb]
  simp only []
  cases hset : b.settle h.durable h.seq giveUp with
  | error e => exact ⟨b, hb, rfl⟩
  | ok b' => exact ⟨b', rfl, Broker.log_settle hset⟩

/-- A message that is published before a delivery is settled is the last one in the log. -/
theorem broker_publish_settle (w : World) (b : Broker) (subject : String) (headers : Headers) (payload : Payload)
    (h : HandOut) (giveUp : Bool) :
    ∃ b', (World.settle h giveUp (w.afterBroker (b.publish subject headers payload))).2.broker = some b' ∧
      b'.log = b.log ++ [⟨b.log.length + 1, subject, headers, payload⟩] := by
  obtain ⟨b', hb', hlog⟩ := broker_settle h giveUp (broker_afterBroker w (b.publish subject headers payload))
  rw [Broker.log_publish] at hlog
  exact ⟨b', hb', hlog⟩

/-- What was added to the log was logged. -/
theorem logged_of_append {w w' : World} {b b' : Broker} {ms : List StoredMessage} (hb : w.broker = some b)
    (hb' : w'.broker = some b') (h : b'.log = b.log ++ ms) : logged w w' = ms := by
  unfold logged
  rw [hb, hb']
  show b'.log.drop b.log.length = ms
  rw [h]
  exact List.drop_left

/-! ## What moves leave alone -/

theorem services_publish (subject : String) (headers : Headers) (payload : Payload) (w : World) :
    SameServices w (World.publish subject headers payload w).2 := by
  unfold World.publish
  split
  · exact .refl w
  · split
    · exact .refl w
    · exact services_afterBroker w _

theorem services_settle (h : HandOut) (giveUp : Bool) (w : World) : SameServices w (World.settle h giveUp w).2 := by
  unfold World.settle
  split
  · exact .refl w
  · split
    · exact .refl w
    · exact ⟨rfl, rfl, rfl⟩

theorem services_expire (w : World) (durable : String) (seq count : Nat) :
    SameServices w (w.expire durable seq count) := by
  unfold World.expire
  split
  · exact .refl w
  · exact services_afterBroker w _

theorem services_subscribe (subject : String) (options : SubscriptionOptions) (w : World) :
    SameServices w (World.subscribe subject options w).2 := by
  rcases subscribe_cases subject options w with ⟨attempts, h⟩ | ⟨b, member, answer, attempts, -, -, h⟩
  · rw [h]
    exact ⟨rfl, rfl, rfl⟩
  · rw [h]
    have hafter := services_afterBroker
      { w with attempts := attempts, streams := w.streams ++ [⟨member, subject, [], []⟩] } answer
    exact ⟨hafter.codec, hafter.posts, hafter.comments⟩

/-! ## Applying events in the world -/

theorem applyEvent_lift {ω σ : Type} (p : Part ω σ) (replica : ReplicaStore σ) (codec : Codec) (e : PostEvent) (w : ω) :
    (⟨p.replica replica, codec⟩ : Applier ω).applyEvent e w =
      (((⟨replica, codec⟩ : Applier σ).applyEvent e (p.get w)).1,
        p.put ((⟨replica, codec⟩ : Applier σ).applyEvent e (p.get w)).2 w) := by
  have hw : (⟨p.replica replica, codec⟩ : Applier ω).write e = p.lift ((⟨replica, codec⟩ : Applier σ).write e) := by
    cases e <;> rfl
  unfold Applier.applyEvent
  rw [hw]
  rcases hr : (⟨replica, codec⟩ : Applier σ).write e (p.get w) with ⟨_ | _, s⟩
  · rw [Part.lift_of_eq hr]
  · rw [Part.lift_of_eq hr]

/-- An event is applied to the replica of the world. -/
theorem applyEvent_world (w : World) (e : PostEvent) :
    w.applier.applyEvent e w =
      (((Replica.applier w.codec).applyEvent e w.comments.replica).1,
        w.onReplica fun _ => ((Replica.applier w.codec).applyEvent e w.comments.replica).2) := by
  have hworld := applyEvent_lift World.commentsPart (Comments.posts.replica Replica.store) w.codec e w
  rw [applyEvent_lift Comments.posts Replica.store w.codec e (World.commentsPart.get w)] at hworld
  exact hworld

/-- What comes of applying what arrived: nothing, or its event is absorbed. -/
inductive ApplyResult (w : World) (subject : String) (payload : Payload) :
    Except ApplyError Applied × World → Prop
  | failed (error : ApplyError) : ApplyResult w subject payload (.error error, w)
  | applied {e : PostEvent} (done : Applied) (hread : Applier.read w.codec subject payload = .ok e) :
    ApplyResult w subject payload (.ok done, w.onReplica fun r => r.absorb e)

theorem apply_result (w : World) (subject : String) (payload : Payload) :
    ApplyResult w subject payload (w.applier.apply subject payload w) := by
  have hcodec : w.applier.codec = w.codec := rfl
  unfold Applier.apply
  rw [hcodec]
  cases hread : Applier.read w.codec subject payload with
  | error e => exact .failed e
  | ok e =>
    simp only [applyEvent_world]
    cases hf : w.comments.replica.failing.contains e.postId.text with
    | true =>
      obtain ⟨err, he⟩ := Replica.applyEvent_of_failing hf w.codec
      rw [he]
      exact .failed err
    | false =>
      obtain ⟨done, he⟩ := Replica.applyEvent_of_not_failing hf w.codec
      rw [he]
      exact .applied done hread

/-! ## Processing a delivery -/

/-- What comes of processing a delivery, with what is recorded as applied: its event is absorbed and the delivery is
acknowledged, it is left alone, or it is forwarded and given up. -/
inductive ProcessResult (settings : SubscriberSettings) (w : World) (h : HandOut) :
    World → List (HandOut × PostEvent) → Prop
  | applied {e : PostEvent} (hread : Applier.read w.codec h.delivery.subject h.delivery.payload = .ok e) :
    ProcessResult settings w h (World.settle h false (w.onReplica fun r => r.absorb e)).2 [(h, e)]
  | left : ProcessResult settings w h w []
  | forwarded {b : Broker} (hcount : settings.maxDeliver ≤ h.delivery.count) (hb : w.broker = some b) :
    ProcessResult settings w h
      (World.settle h true (w.afterBroker (b.publish settings.deadLetter [(Subject.originHeader, h.delivery.subject)]
        h.delivery.payload))).2 []

theorem process_result (settings : SubscriberSettings) (w : World) (h : HandOut) :
    ProcessResult settings w h ((Move.process h).run settings w) (application w h) := by
  have hres := apply_result w h.delivery.subject h.delivery.payload
  have hrun : (Move.process h).run settings w =
      ((w.subscriber settings).process h.delivery (World.settlement h) w).2 := rfl
  rw [hrun]
  have happlier : (w.subscriber settings).applier = w.applier := rfl
  unfold Subscriber.process application
  rw [happlier]
  generalize w.applier.apply h.delivery.subject h.delivery.payload w = answer at hres
  cases hres with
  | @applied e done hread =>
    rw [hread]
    have hack : ProcessResult settings w h (World.settle h false (w.onReplica fun r => r.absorb e)).2 [(h, e)] :=
      .applied hread
    have hsettle : (World.settlement h).ack = World.settle h false := rfl
    simp only [hsettle]
    rcases hs : World.settle h false (w.onReplica fun r => r.absorb e) with ⟨_ | _, w'⟩
    · rw [hs] at hack
      exact hack
    · rw [hs] at hack
      exact hack
  | failed error =>
    have hnone : (match Applier.read w.codec h.delivery.subject h.delivery.payload,
        ((.error error, w) : Except ApplyError Applied × World).1 with
      | .ok e, .ok _ => [(h, e)]
      | _, _ => []) = [] := by
      cases Applier.read w.codec h.delivery.subject h.delivery.payload <;> rfl
    rw [hnone]
    simp only []
    split
    · exact .left
    · rename_i hcount
      have hsend : (w.subscriber settings).send = World.publish := rfl
      have hsettings : (w.subscriber settings).settings = settings := rfl
      unfold Subscriber.forward
      rw [hsend, hsettings]
      unfold World.publish
      cases w.failPublishes with
      | true => exact .left
      | false =>
        cases hb : w.broker with
        | none => exact .left
        | some b => exact .forwarded (Nat.not_lt.1 hcount) hb

/-! ## The posts of the posts service -/

/-- Only requests change the rows of the posts service, and nothing changes the codec. -/
theorem rows_run (settings : SubscriberSettings) (w : World) (m : Move) (hm : ∀ r, m ≠ .request r) :
    (m.run settings w).codec = w.codec ∧ (m.run settings w).posts.table.rows = w.posts.table.rows := by
  have of_same {w' : World} (h : SameServices w w') : w'.codec = w.codec ∧ w'.posts.table.rows = w.posts.table.rows :=
    ⟨h.codec, by rw [h.posts]⟩
  cases m with
  | request r => exact absurd rfl (hm r)
  | publish subject headers payload => exact of_same (services_publish subject headers payload w)
  | subscribe subject options => exact of_same (services_subscribe subject options w)
  | expire h => exact of_same (services_expire w h.durable h.seq h.delivery.count)
  | process h =>
    have hres := process_result settings w h
    generalize (Move.process h).run settings w = w', application w h = done at hres
    cases hres with
    | @applied e hread =>
      have hsettle := services_settle h false (w.onReplica fun r => r.absorb e)
      exact ⟨hsettle.codec, by rw [hsettle.posts]; rfl⟩
    | left => exact ⟨rfl, rfl⟩
    | forwarded _ _ => exact of_same ((services_afterBroker w _).trans (services_settle h true _))
  | _ => exact ⟨rfl, rfl⟩

/-- What comes of a request, as a move. -/
theorem run_request (settings : SubscriberSettings) {w : World} (hk : w.posts.table.rows.Keyed) (r : PostRequest) :
    World.RequestResult w r ((ask r w).1, (Move.request r).run settings w) := World.request_result w hk r

/-- Every move keeps the codec, and the rows under the identifiers of their posts. -/
theorem keyed_run (settings : SubscriberSettings) {w : World} (hk : w.posts.table.rows.Keyed) (m : Move) :
    (m.run settings w).codec = w.codec ∧ (m.run settings w).posts.table.rows.Keyed := by
  by_cases hm : ∃ r, m = .request r
  · obtain ⟨r, rfl⟩ := hm
    have hres := run_request settings hk r
    generalize (ask r w).1 = answer, (Move.request r).run settings w = w' at hres
    cases hres with
    | unchanged hrows _ => exact ⟨rfl, hrows ▸ hk⟩
    | unpublished _ hw _ => exact ⟨rfl, hw.keyed hk⟩
    | @published _ p _ _ _ _ hw _ _ _ =>
      have hsame := services_afterBroker { w with posts := p }
      exact ⟨(hsame _).codec, by rw [(hsame _).posts]; exact hw.keyed hk⟩
  · obtain ⟨hcodec, hrows⟩ := rows_run settings w m fun r h => hm ⟨r, h⟩
    exact ⟨hcodec, hrows ▸ hk⟩

end Forum.Pipeline
