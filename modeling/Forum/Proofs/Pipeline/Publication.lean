import Forum.Fixture
import Forum.Proofs.Codec
import Forum.Proofs.Pipeline.Chronicle

/-!
# What the publisher accepts

The publisher takes what the codec writes (`publish_of_encode`), and an event that was published is the last message in
the log (`publish_eq_ok`). An applier with the same codec applies such a message exactly if its payload keeps the limit
(`Carries.apply`), which every message of the binary codec does (`published_applies`).
-/

namespace Forum.Pipeline

open Memory Replication Simulation

variable {codec : Codec} {e : PostEvent} {m : StoredMessage} {w w' : World}

/-- An event that was published is the last message in the log. -/
theorem publish_eq_ok (h : (World.publisher codec).publish e w = (.ok (), w')) :
    ∃ b b' m, w.broker = some b ∧ w'.broker = some b' ∧ b'.log = b.log ++ [m] ∧ Carries codec m e := by
  rcases World.publish_cases codec e w with ⟨-, error, -, hfail⟩ | ⟨payload, b, henc, -, hb, hpub⟩
  · rw [hfail] at h
    nomatch h
  · rw [hpub] at h
    obtain ⟨-, rfl⟩ := Prod.mk.inj h
    exact ⟨b, _, _, hb, broker_afterBroker w _, Broker.log_publish b e.subject [] payload, rfl, henc⟩

/-- An event that the codec writes is published, unless publications are made to fail. -/
theorem publish_of_encode {payload : Payload} {b : Broker} (henc : codec.encode e = .ok payload)
    (hf : w.failPublishes = false) (hb : w.broker = some b) :
    (World.publisher codec).publish e w = (.ok (), w.afterBroker (b.publish e.subject [] payload)) := by
  rcases World.publish_cases codec e w with ⟨hnot, -⟩ | ⟨payload', b', henc', -, hb', hpub⟩
  · exact absurd ⟨⟨payload, henc⟩, hf, Option.ne_none_iff_exists'.2 ⟨b, hb⟩⟩ hnot
  · obtain rfl := Except.ok.inj (henc.symm.trans henc')
    obtain rfl := Option.some.inj (hb.symm.trans hb')
    exact hpub

/-- A message of the binary codec keeps the limit. -/
theorem Carries.length_binary (h : Carries .binary m e) : m.payload.length ≤ sizeLimit := Codec.length_binary h.2

/-- A message that carries an event is read as the event exactly if it keeps the limit. -/
theorem Carries.read_iff (h : Carries codec m e) :
    Applier.read codec m.subject m.payload = .ok e ↔ m.payload.length ≤ sizeLimit := by
  rw [h.1]
  constructor
  · intro hread
    refine Nat.not_lt.1 fun hlen => ?_
    rw [Applier.read_tooLarge codec e hlen] at hread
    nomatch hread
  · exact Applier.read_encode h.2

/-- A message that carries an event is applied as the event if it keeps the limit, and otherwise it is not read. -/
theorem Carries.apply {σ : Type} {a : Applier σ} {s t : σ} {write : ReplicaWrite} (h : Carries a.codec m e)
    (hwrite : a.write e s = (.ok write, t)) :
    a.apply m.subject m.payload s =
      if m.payload.length ≤ sizeLimit then (.ok ⟨e.kind, e.postId, write⟩, t)
      else (.error (.decode e.subject (.tooLarge m.payload.length)), s) := by
  unfold Applier.apply
  rw [h.1]
  by_cases hlen : m.payload.length ≤ sizeLimit
  · rw [if_pos hlen, Applier.read_encode h.2 hlen]
    simp only [Applier.applyEvent, hwrite]
  · rw [if_neg hlen, Applier.read_tooLarge a.codec e (Nat.not_le.1 hlen)]

/-- What was published is in the log, and every replica that takes the event's write applies it from there with the
event's kind and post, unless its payload is beyond the limit; the binary codec publishes no such payload. -/
theorem published_applies (h : (World.publisher codec).publish e w = (.ok (), w')) :
    ∃ b b' m, w.broker = some b ∧ w'.broker = some b' ∧ b'.log = b.log ++ [m] ∧ Carries codec m e ∧
      (codec = .binary → m.payload.length ≤ sizeLimit) ∧
      ∀ (σ : Type) (replica : ReplicaStore σ) (s t : σ) (write : ReplicaWrite),
        (⟨replica, codec⟩ : Applier σ).write e s = (.ok write, t) →
          (⟨replica, codec⟩ : Applier σ).apply m.subject m.payload s =
            if m.payload.length ≤ sizeLimit then (.ok ⟨e.kind, e.postId, write⟩, t)
            else (.error (.decode e.subject (.tooLarge m.payload.length)), s) := by
  obtain ⟨b, b', m, hb, hb', hlog, hm⟩ := publish_eq_ok h
  refine ⟨b, b', m, hb, hb', hlog, hm, ?_, fun σ replica s t write hwrite => Carries.apply hm hwrite⟩
  rintro rfl
  exact hm.length_binary

/-- A new post is published in the binary form, and applied to a replica that has no row of it. -/
theorem new_post_applies :
    ∃ w' b' m, (World.publisher .binary).publish (.created (Fixture.post "p" "first")) (.start .binary) = (.ok (), w') ∧
      w'.broker = some b' ∧ b'.log = [m] ∧
      (Replica.applier .binary).apply m.subject m.payload .empty =
        (.ok ⟨.created, ⟨"p"⟩, .applied⟩, Replica.empty.absorb (.created (Fixture.post "p" "first"))) := by
  obtain ⟨payload, henc⟩ : ∃ payload, Codec.binary.encode (.created (Fixture.post "p" "first")) = .ok payload := by
    have hok : (Codec.binary.encode (.created (Fixture.post "p" "first"))).isOk = true := by decide +kernel
    revert hok
    generalize Codec.binary.encode (.created (Fixture.post "p" "first")) = result
    cases result with
    | error fault => exact fun h => nomatch h
    | ok payload => exact fun _ => ⟨payload, rfl⟩
  have hpub := publish_of_encode (w := .start .binary) henc rfl rfl
  obtain ⟨b, b', m, hb, hb', hlog, -, hlen, happly⟩ := published_applies hpub
  obtain rfl := Option.some.inj hb
  refine ⟨_, b', m, hpub, hb', hlog, ?_⟩
  have hwrite : (Replica.applier .binary).write (.created (Fixture.post "p" "first")) .empty =
      (.ok .applied, Replica.empty.absorb (.created (Fixture.post "p" "first"))) := rfl
  have happlied := happly Replica Replica.store _ _ _ hwrite
  rw [if_pos (hlen rfl)] at happlied
  exact happlied

/-! ## A post beyond the limit -/

/-- A text that is longer than payloads may be. -/
def longText : String := String.ofList (.replicate (sizeLimit + 1) 'a')

/-- What is asked for to get a post that is too long to be read. -/
def longPost : NewPost := { Fixture.newPost "first" with description := longText }

theorem sizeLimit_lt_longPost (id : PostId) (now : Calendar.Instant) :
    sizeLimit < (Json.encode (.created (longPost.toPost id now))).length := by
  have hlen : longText.length = sizeLimit + 1 := by
    rw [longText, String.length_ofList, List.length_replicate]
  exact Nat.lt_of_lt_of_le (hlen ▸ Nat.lt_succ_self sizeLimit) (Json.length_description_le (longPost.toPost id now))

/-- The creation of such a post. -/
def oversize : PostEvent := .created (longPost.toPost ⟨"p"⟩ Fixture.date)

/-- It is published as text, and no replica reads it. -/
theorem oversize_published_unread :
    ¬ ∀ (codec : Codec) (e : PostEvent) (w w' : World) (b b' : Broker) (m : StoredMessage) (r : Replica),
      (World.publisher codec).publish e w = (.ok (), w') → w.broker = some b → w'.broker = some b' →
        b'.log = b.log ++ [m] → r.failing = [] →
          ∃ write t, (Replica.applier codec).apply m.subject m.payload r = (.ok ⟨e.kind, e.postId, write⟩, t) := by
  intro h
  have henc : Codec.json.encode oversize = .ok (Json.encode oversize) := rfl
  have hpub := publish_of_encode (w := .start .json) henc rfl rfl
  obtain ⟨b, b', m, hb, hb', hlog, hm⟩ := publish_eq_ok hpub
  obtain ⟨write, t, happly⟩ := h .json oversize _ _ b b' m .empty hpub hb hb' hlog rfl
  have hwrite : (Replica.applier .json).write oversize .empty = (.ok .applied, Replica.empty.absorb oversize) := rfl
  have hlarge : ¬m.payload.length ≤ sizeLimit := by
    have hpayload : Json.encode oversize = m.payload := Except.ok.inj hm.2
    rw [← hpayload]
    exact Nat.not_le.2 (sizeLimit_lt_longPost _ _)
  rw [Carries.apply hm hwrite, if_neg hlarge] at happly
  nomatch happly

end Forum.Pipeline
