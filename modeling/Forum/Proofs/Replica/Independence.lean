import Forum.Fixture
import Forum.Proofs.Replica.Cells

/-!
# Posts do not interfere

While events arrive at a replica, writes of posts can be made to fail and to succeed again (`Turn`). Such a turn acts on
the spot of one post: its cell, and whether its writes fail (`turn_of_concerns`); of another post it changes nothing and
reports nothing (`turn_of_not_concerns`). So what a run reports of a post, and leaves of it, is a run of the turns of the
post alone (`run_spot`), in whatever way they are interleaved with those of other posts, and whatever fails there
(`posts_independent`).
-/

namespace Forum.Memory.Replica

open Replication

/-! ## Runs -/

/-- What can happen to a replica. -/
inductive Turn where
  | arrives (e : PostEvent)
  /-- Writes of the post fail from now on. -/
  | fails (id : PostId)
  /-- All writes succeed again. -/
  | heals
deriving DecidableEq

/-- What became of an event that arrived. -/
structure Report where
  event : PostEvent
  result : Except ApplyError Applied
deriving DecidableEq

/-- A state taken through turns, with the reports on the way. -/
def play {σ : Type} (step : σ → Turn → List Report × σ) (s : σ) : List Turn → List Report × σ
  | [] => ([], s)
  | t :: ts => ((step s t).1 ++ (play step (step s t).2 ts).1, (play step (step s t).2 ts).2)

/-- One turn of a replica. -/
def turn (codec : Codec) (r : Replica) : Turn → List Report × Replica
  | .arrives e => ([⟨e, ((applier codec).applyEvent e r).1⟩], ((applier codec).applyEvent e r).2)
  | .fails id => ([], r.fail id)
  | .heals => ([], r.heal)

/-- A replica after turns, with the reports on the way. -/
def run (codec : Codec) (r : Replica) (ts : List Turn) : List Report × Replica := play (turn codec) r ts

/-! ## The turns of a post -/

/-- The post that a turn is about, unless it is about all of them. -/
def Turn.key? : Turn → Option String
  | .arrives e => some e.postId.text
  | .fails id => some id.text
  | .heals => none

/-- The turn is about the post, among others or alone. -/
def Turn.Concerns (key : String) (t : Turn) : Prop := t.key? = none ∨ t.key? = some key

instance (key : String) : DecidablePred (Turn.Concerns key) := fun t =>
  inferInstanceAs (Decidable (t.key? = none ∨ t.key? = some key))

/-- The turns that are about a post. -/
def turnsOf (key : String) (ts : List Turn) : List Turn := ts.filter fun t => t.Concerns key

/-- The turns without those that are about one post alone. -/
def without (key : String) (ts : List Turn) : List Turn := ts.filter fun t => t.key? ≠ some key

/-- What is reported of a post. -/
def reportsOf (key : String) (reports : List Report) : List Report :=
  reports.filter fun report => report.event.postId.text = key

/-- Events that arrive one after the other are turns of their posts. -/
theorem turnsOf_arrives (key : String) (es : List PostEvent) :
    turnsOf key (es.map .arrives) = (eventsOf key es).map .arrives := by
  rw [turnsOf, eventsOf, List.filter_map]
  congr 2
  funext e
  simp [Turn.Concerns, Turn.key?]

/-- The turns of one post are there without those of another. -/
theorem turnsOf_without {key other : String} (h : other ≠ key) (ts : List Turn) :
    turnsOf other (without key ts) = turnsOf other ts := by
  rw [turnsOf, without, List.filter_filter]
  refine List.filter_congr fun t _ => ?_
  simp only [Bool.and_eq_left_iff_imp, decide_eq_true_eq]
  rintro (hnone | hother) hkey
  · nomatch hnone.symm.trans hkey
  · exact h (Option.some.inj (hother.symm.trans hkey))

/-! ## The spot of a post -/

/-- What a replica holds of a post, and whether writes of the post fail. -/
structure Spot where
  cell : Cell
  failing : Bool

/-- The spot of a post in a replica. -/
def spot (r : Replica) (key : String) : Spot := ⟨r.cell key, r.failing.contains key⟩

namespace Spot

/-- What becomes of an event of the post. -/
def result (s : Spot) (e : PostEvent) : Except ApplyError Applied :=
  if s.failing then .error (.store e.subject (failure e.postId)) else .ok ⟨e.kind, e.postId, s.cell.outcome e⟩

/-- One turn of the post. -/
def turn (s : Spot) : Turn → List Report × Spot
  | .arrives e => ([⟨e, s.result e⟩], if s.failing then s else { s with cell := s.cell.absorb e })
  | .fails _ => ([], { s with failing := true })
  | .heals => ([], { s with failing := false })

end Spot

section Turns

variable {key : String} {t : Turn}

/-- An event that was absorbed is absorbed in the spot of its post and leaves the others. -/
theorem spot_absorb (r : Replica) (e : PostEvent) (key : String) :
    (r.absorb e).spot key =
      if key = e.postId.text then ⟨(r.cell key).absorb e, r.failing.contains key⟩ else r.spot key := by
  rw [spot, cell_absorb, failing_absorb]
  split <;> rfl

theorem spot_fail (r : Replica) (id : PostId) (key : String) :
    (r.fail id).spot key = ⟨r.cell key, key == id.text || r.failing.contains key⟩ := by
  rw [spot, fail, List.contains_cons]
  rfl

/-- An event finds its result in the spot of its post, and acts there. -/
theorem applyEvent_spot (codec : Codec) (e : PostEvent) (r : Replica) :
    ((applier codec).applyEvent e r).1 = (r.spot e.postId.text).result e ∧
      ((applier codec).applyEvent e r).2.spot e.postId.text = ((r.spot e.postId.text).turn (.arrives e)).2 := by
  rw [applyEvent_eq]
  cases hf : r.failing.contains e.postId.text with
  | true =>
    have hspot : r.spot e.postId.text = ⟨r.cell e.postId.text, true⟩ := by rw [spot, hf]
    rw [hspot]
    exact ⟨rfl, hspot⟩
  | false =>
    have hspot : r.spot e.postId.text = ⟨r.cell e.postId.text, false⟩ := by rw [spot, hf]
    have hafter := spot_absorb r e e.postId.text
    rw [if_pos rfl, hf] at hafter
    rw [hspot]
    exact ⟨rfl, hafter⟩

/-- An event leaves the spots of the other posts. -/
theorem applyEvent_other (codec : Codec) {e : PostEvent} (h : e.postId.text ≠ key) (r : Replica) :
    ((applier codec).applyEvent e r).2.spot key = r.spot key := by
  rw [applyEvent_eq]
  split
  · rfl
  · exact (spot_absorb r e key).trans (if_neg (Ne.symm h))

/-- A turn that is about a post acts on its spot, and reports what it finds there. -/
theorem turn_of_concerns (codec : Codec) (h : t.Concerns key) (r : Replica) :
    reportsOf key (turn codec r t).1 = ((r.spot key).turn t).1 ∧
      (turn codec r t).2.spot key = ((r.spot key).turn t).2 := by
  cases t with
  | arrives e =>
    obtain rfl : e.postId.text = key := by simpa [Turn.Concerns, Turn.key?] using h
    obtain ⟨hresult, hspot⟩ := applyEvent_spot codec e r
    refine ⟨?_, hspot⟩
    rw [turn, hresult]
    simp [reportsOf, Spot.turn]
  | fails id =>
    obtain rfl : id.text = key := by simpa [Turn.Concerns, Turn.key?] using h
    refine ⟨rfl, (spot_fail r id id.text).trans ?_⟩
    rw [beq_self_eq_true, Bool.true_or]
    rfl
  | heals => exact ⟨rfl, rfl⟩

/-- A turn that is not about a post leaves its spot, and reports nothing of it. -/
theorem turn_of_not_concerns (codec : Codec) (h : ¬t.Concerns key) (r : Replica) :
    reportsOf key (turn codec r t).1 = [] ∧ (turn codec r t).2.spot key = r.spot key := by
  cases t with
  | arrives e =>
    have hne : e.postId.text ≠ key := by simpa [Turn.Concerns, Turn.key?] using h
    refine ⟨?_, applyEvent_other codec hne r⟩
    simp [turn, reportsOf, hne]
  | fails id =>
    have hne : id.text ≠ key := by simpa [Turn.Concerns, Turn.key?] using h
    refine ⟨rfl, (spot_fail r id key).trans ?_⟩
    rw [beq_false_of_ne (Ne.symm hne), Bool.false_or]
    rfl
  | heals => exact absurd (.inl rfl) h

/-- What a run reports of a post, and leaves of it, is a run of the turns of the post. -/
theorem run_spot (codec : Codec) (key : String) (r : Replica) (ts : List Turn) :
    reportsOf key (run codec r ts).1 = (play Spot.turn (r.spot key) (turnsOf key ts)).1 ∧
      (run codec r ts).2.spot key = (play Spot.turn (r.spot key) (turnsOf key ts)).2 := by
  -- by induction on the turns: one of another post drops out on the right, and changes nothing on the left
  induction ts generalizing r with
  | nil => exact ⟨rfl, rfl⟩
  | cons t ts ih =>
    obtain ⟨hreports, hspot⟩ := ih (turn codec r t).2
    have happend : reportsOf key (run codec r (t :: ts)).1 =
        reportsOf key (turn codec r t).1 ++ reportsOf key (run codec (turn codec r t).2 ts).1 := List.filter_append ..
    have hafter : (run codec r (t :: ts)).2 = (run codec (turn codec r t).2 ts).2 := rfl
    rw [happend, hafter, hreports, hspot]
    by_cases h : t.Concerns key
    · obtain ⟨hreport, hturn⟩ := turn_of_concerns codec h r
      have hturns : turnsOf key (t :: ts) = t :: turnsOf key ts := List.filter_cons_of_pos (by simpa using h)
      rw [hturns, hreport, hturn]
      exact ⟨rfl, rfl⟩
    · obtain ⟨hreport, hturn⟩ := turn_of_not_concerns codec h r
      have hturns : turnsOf key (t :: ts) = turnsOf key ts := List.filter_cons_of_neg (by simpa using h)
      rw [hturns, hreport, hturn]
      exact ⟨rfl, rfl⟩

end Turns

/-! ## Failing posts -/

/-- While writes of a post fail, its events report the failure and its spot stays as it is. -/
theorem play_failing {s : Spot} (hs : s.failing = true) {ts : List Turn} (hts : .heals ∉ ts) :
    (play Spot.turn s ts).2 = s ∧ ∀ report ∈ (play Spot.turn s ts).1,
      report.result = .error (.store report.event.subject (failure report.event.postId)) := by
  induction ts with
  | nil => exact ⟨rfl, fun _ h => nomatch h⟩
  | cons t ts ih =>
    obtain ⟨ht, hts⟩ := not_or.1 (List.mem_cons.not.1 hts)
    obtain ⟨hspot, hreports⟩ := ih hts
    have hstays : (s.turn t).2 = s := by
      obtain ⟨cell, failing⟩ := s
      obtain rfl : failing = true := hs
      cases t with
      | arrives e => rfl
      | fails id => rfl
      | heals => exact absurd rfl ht
    have hreport : ∀ report ∈ (s.turn t).1,
        report.result = .error (.store report.event.subject (failure report.event.postId)) := by
      cases t with
      | arrives e =>
        intro report hmem
        obtain rfl := List.mem_singleton.1 hmem
        exact if_pos hs
      | fails id => exact fun _ h => nomatch h
      | heals => exact absurd rfl ht
    rw [play, hstays]
    exact ⟨hspot, List.forall_mem_append.2 ⟨hreport, hreports⟩⟩

/-! ## Independence -/

/-- Two runs from one replica, with failures injected on the way. Where the turns of every post are the same in both, in
whatever way they are interleaved, the rows and the marks of deleted posts are the same in the end, and the events of
every post report the same. The events of a post whose writes fail report the failure and change nothing of it, and what
the others report, and what is held of them, is the same without them. -/
theorem posts_independent (codec : Codec) (r : Replica) (ts us : List Turn) :
    ((∀ key, turnsOf key ts = turnsOf key us) →
        (run codec r ts).2.rows = (run codec r us).2.rows ∧
        (run codec r ts).2.tombstones = (run codec r us).2.tombstones ∧
        ∀ key, reportsOf key (run codec r ts).1 = reportsOf key (run codec r us).1) ∧
      (∀ key, r.failing.contains key = true → .heals ∉ ts →
        (run codec r ts).2.cell key = r.cell key ∧
        ∀ report ∈ reportsOf key (run codec r ts).1,
          report.result = .error (.store report.event.subject (failure report.event.postId))) ∧
      ∀ key other, other ≠ key →
        (run codec r ts).2.cell other = (run codec r (without key ts)).2.cell other ∧
        reportsOf other (run codec r ts).1 = reportsOf other (run codec r (without key ts)).1 := by
  have hsame {key : String} {vs : List Turn} (h : turnsOf key ts = turnsOf key vs) :
      (run codec r ts).2.cell key = (run codec r vs).2.cell key ∧
        reportsOf key (run codec r ts).1 = reportsOf key (run codec r vs).1 := by
    obtain ⟨hreports, hspot⟩ := run_spot codec key r ts
    obtain ⟨hreports', hspot'⟩ := run_spot codec key r vs
    rw [h] at hreports hspot
    exact ⟨congrArg Spot.cell (hspot.trans hspot'.symm), hreports.trans hreports'.symm⟩
  refine ⟨fun h => ?_, fun key hfailing hheals => ?_, fun key other hne => hsame (turnsOf_without hne ts).symm⟩
  · obtain ⟨hrows, htombstones⟩ := held_eq fun key => (hsame (h key)).1
    exact ⟨hrows, htombstones, fun key => (hsame (h key)).2⟩
  · obtain ⟨hreports, hspot⟩ := run_spot codec key r ts
    have hnone : .heals ∉ turnsOf key ts := fun h => hheals (List.mem_filter.1 h).1
    obtain ⟨hstays, hfailures⟩ := play_failing (s := r.spot key) hfailing hnone
    rw [hstays] at hspot
    rw [hreports]
    exact ⟨congrArg Spot.cell hspot, hfailures⟩

/-- Events of three posts, mixed. -/
def mixed : List PostEvent :=
  [.created (Fixture.post "p" "first"), .created (Fixture.post "q" "other"), .created (Fixture.post "s" "third"),
    .updated (Fixture.post "p" "second"), .deleted ⟨"s"⟩]

/-- The same events, one post after the other. -/
def grouped : List PostEvent :=
  [.created (Fixture.post "q" "other"), .created (Fixture.post "s" "third"), .deleted ⟨"s"⟩,
    .created (Fixture.post "p" "first"), .updated (Fixture.post "p" "second")]

theorem eventsOf_mixed (key : String) : eventsOf key mixed = eventsOf key grouped := by
  by_cases hkey : key ∈ ["p", "q", "s"]
  · have hposts : ∀ key ∈ ["p", "q", "s"], eventsOf key mixed = eventsOf key grouped := by decide
    exact hposts key hkey
  · have hnone {es : List PostEvent} (hes : ∀ e ∈ es, e.postId.text ∈ ["p", "q", "s"]) : eventsOf key es = [] :=
      List.filter_eq_nil_iff.2 fun e he h => hkey (of_decide_eq_true h ▸ hes e he)
    rw [hnone (by decide : ∀ e ∈ mixed, _), hnone (by decide : ∀ e ∈ grouped, _)]

/-- Whether they are mixed or not, they leave the row of one post, while the writes of another one fail. -/
theorem mixed_as_grouped :
    (∀ key, turnsOf key (mixed.map .arrives) = turnsOf key (grouped.map .arrives)) ∧
      (run .json (empty.fail ⟨"q"⟩) (mixed.map .arrives)).2.rows =
        (run .json (empty.fail ⟨"q"⟩) (grouped.map .arrives)).2.rows ∧
      (run .json (empty.fail ⟨"q"⟩) (grouped.map .arrives)).2.rows.values = [Fixture.post "p" "second"] ∧
      (run .json (empty.fail ⟨"q"⟩) (mixed.map .arrives)).2.cell "q" = ⟨none, false⟩ ∧
      (run .json (empty.fail ⟨"q"⟩) (mixed.map .arrives)).2.cell "s" =
        (run .json (empty.fail ⟨"q"⟩) (without "q" (mixed.map .arrives))).2.cell "s" := by
  have hturns (key : String) : turnsOf key (mixed.map .arrives) = turnsOf key (grouped.map .arrives) := by
    rw [turnsOf_arrives, turnsOf_arrives, eventsOf_mixed]
  obtain ⟨hsame, hfailing, hothers⟩ :=
    posts_independent .json (empty.fail ⟨"q"⟩) (mixed.map .arrives) (grouped.map .arrives)
  exact ⟨hturns, (hsame hturns).1, by decide, (hfailing "q" (by decide) (by decide)).1, (hothers "q" "s" (by decide)).1⟩

end Forum.Memory.Replica
