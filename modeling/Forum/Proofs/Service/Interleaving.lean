import Mathlib.Data.List.Nodup
import Forum.Fixture
import Forum.Proofs.Service.Amendment

/-!
# Two changes of a post at the same time

Two units of work change one post, and take their steps in any order (`Duo.run`). A transaction sees the rows as they
are committed when it looks, nothing is locked and no version is compared. So each of them writes the whole post as it
found it, with its own change (`Story`), and the one that commits last wins (`last_commit_wins`): if it looked after the
other one had committed, the rows are those after both changes, one after the other; if it looked before, the other
change is overwritten (`overlapping_change_lost`). A unit looks and commits only once (`Onward`), so it is one or the
other (`informed_or_blind`).
-/

namespace Forum.Memory.Posts

/-! ## Two units of work -/

/-- The two sides of a contest for one post. -/
inductive Side where
  | left
  | right
deriving DecidableEq, Repr

namespace Side

def other : Side → Side
  | left => right
  | right => left

theorem other_ne (side : Side) : side.other ≠ side := by cases side <;> decide

@[simp] theorem other_other (side : Side) : side.other.other = side := by cases side <;> rfl

theorem eq_or_eq_other (side t : Side) : t = side ∨ t = side.other := by cases side <;> cases t <;> decide

end Side

/-- Two units of work on one store: how far each has come, and what they came to, one step after the other. -/
structure Duo where
  store : Posts
  progress : Side → Progress
  trace : List (Side × Progress)

namespace Duo

/-- Neither has begun. -/
def start (s : Posts) : Duo := ⟨s, fun _ => .idle, []⟩

/-- One of them has come further. -/
def moved (d : Duo) (side : Side) (result : Progress × Posts) : Duo :=
  ⟨result.2, fun t => if t = side then result.1 else d.progress t, d.trace ++ [(side, result.1)]⟩

/-- One of them takes its next step, if it has one. -/
def step (work : Side → Amendment) (d : Duo) (side : Side) : Duo :=
  if (d.progress side).isOver then d else d.moved side ((work side).step (d.progress side) d.store)

/-- They take their steps as a schedule says. -/
def run (work : Side → Amendment) (s : Posts) (schedule : List Side) : Duo := schedule.foldl (step work) (start s)

/-- One event of the trace comes before another one. -/
def Before (d : Duo) (x y : Side × Progress) : Prop := [x, y].Sublist d.trace

end Duo

/-- What a unit of work is about to write rests on a post that it has found, and that it found at a certain time. -/
def Progress.Rests (a : Amendment) (q : Post) (time : Handle → Prop) : Progress → Prop
  | .found tx post => post = q ∧ time tx
  | .staged tx post => post = a.of q ∧ time tx
  | .committed _ => False
  | _ => True

/-- How many of its steps a unit of work has behind it, those that it leaves out after a failure included. -/
def Progress.rank : Progress → Nat
  | .idle => 0
  | .begun _ => 1
  | .found _ _ => 2
  | .staged _ _ | .broken _ _ => 3
  | .committed _ | .failed _ => 4

/-- Each step of a unit of work brings it further. -/
theorem rank_lt_step (a : Amendment) {q : Progress} (hq : q.isOver = false) (s : Posts) :
    q.rank < (a.step q s).1.rank := by
  cases q with
  | committed => nomatch hq
  | failed => nomatch hq
  | _ =>
    simp only [Amendment.step]
    split <;> simp [Progress.rank]

/-- The time of the look may be said less exactly. -/
theorem Progress.Rests.mono {a : Amendment} {q : Post} {time time' : Handle → Prop} {p : Progress}
    (h : p.Rests a q time) (ht : ∀ tx, time tx → time' tx) : p.Rests a q time' := by
  cases p with
  | found tx post => exact ⟨h.1, ht tx h.2⟩
  | staged tx post => exact ⟨h.1, ht tx h.2⟩
  | committed post => exact h
  | _ => trivial

namespace Duo

variable {work : Side → Amendment} {s : Posts} {p row : Post} {d : Duo} {side : Side} {result : Progress × Posts}

/-- The side that moves has come to its result. -/
theorem progress_moved_self (d : Duo) (side : Side) (result : Progress × Posts) :
    (d.moved side result).progress side = result.1 := if_pos rfl

/-- The other side is where it was. -/
theorem progress_moved_other (d : Duo) (side : Side) (result : Progress × Posts) :
    (d.moved side result).progress side.other = d.progress side.other := if_neg side.other_ne

theorem progress_moved_of_other (d : Duo) (first : Side) (result : Progress × Posts) :
    (d.moved first.other result).progress first = d.progress first := if_neg fun h => first.other_ne h.symm

/-- What is in the trace stays there. -/
theorem mem_trace_moved {x : Side × Progress} (h : x ∈ d.trace) : x ∈ (d.moved side result).trace :=
  List.mem_append_left _ h

/-- What came before something else did so. -/
theorem Before.moved {x y : Side × Progress} (h : d.Before x y) : (d.moved side result).Before x y :=
  h.trans (List.sublist_append_left _ _)

/-- What a unit comes to now comes after all that is in the trace. -/
theorem before_moved {x : Side × Progress} (h : x ∈ d.trace) : (d.moved side result).Before x (side, result.1) :=
  (List.singleton_sublist.2 h).append (.refl [(side, result.1)])

/-- What holds at the start, and is kept by each step of a unit that is not over, holds after any schedule. -/
theorem run_induction {P : Duo → Prop} (hstart : P (start s))
    (hstep : ∀ d side, (d.progress side).isOver = false → P d →
      P (d.moved side ((work side).step (d.progress side) d.store)))
    (schedule : List Side) : P (run work s schedule) := by
  have hall : ∀ d, P d → P (schedule.foldl (step work) d) := by
    induction schedule with
    | nil => exact fun _ h => h
    | cons side schedule ih =>
      intro d h
      refine ih _ ?_
      unfold Duo.step
      split
      · exact h
      · rename_i hover
        exact hstep d side (Bool.eq_false_iff.2 hover) h
  exact hall _ hstart

/-! ## The story of the row -/

/-- Which row the post has, and why. -/
inductive Story (work : Side → Amendment) (p : Post) (d : Duo) : Post → Prop
  /-- Nobody has committed, and nobody has found another post than the one that was there. -/
  | untouched (hrests : ∀ side, (d.progress side).Rests (work side) p fun tx => (side, .found tx p) ∈ d.trace) :
    Story work p d p
  /-- One has committed. The other one found the post before that, or after that, or has not looked yet. -/
  | once (first : Side) (hfirst : d.progress first = .committed ((work first).of p))
      (htrace : (first, .committed ((work first).of p)) ∈ d.trace)
      (hlast : ((d.progress first.other).Rests (work first.other) p fun tx =>
          d.Before (first.other, .found tx p) (first, .committed ((work first).of p))) ∨
        (d.progress first.other).Rests (work first.other) ((work first).of p) fun tx =>
          d.Before (first, .committed ((work first).of p)) (first.other, .found tx ((work first).of p))) :
    Story work p d ((work first).of p)
  /-- Both have committed. -/
  | twice (first : Side) (q : Post) (hfirst : d.progress first = .committed ((work first).of p))
      (hlast : d.progress first.other = .committed ((work first.other).of q))
      (horder : d.Before (first, .committed ((work first).of p)) (first.other, .committed ((work first.other).of q)))
      (hlook : ∃ tx, (q = p ∧ d.Before (first.other, .found tx p) (first, .committed ((work first).of p))) ∨
        (q = (work first).of p ∧
          d.Before (first, .committed ((work first).of p)) (first.other, .found tx ((work first).of p)))) :
    Story work p d ((work first.other).of q)

/-- Where one has committed and the other one is not over, it is the other one that moves. -/
theorem eq_other_of_committed {first : Side} {post : Post} (hfirst : d.progress first = .committed post)
    (hside : (d.progress side).isOver = false) : side = first.other := by
  rcases Side.eq_or_eq_other first side with rfl | rfl
  · rw [hfirst] at hside
    nomatch hside
  · rfl

/-- Where both have committed, both are over. -/
theorem over_of_committed {first : Side} {post post' : Post} (hfirst : d.progress first = .committed post)
    (hlast : d.progress first.other = .committed post') : (d.progress side).isOver ≠ false := by
  rcases Side.eq_or_eq_other first side with rfl | rfl
  · rw [hfirst]
    exact Bool.noConfusion
  · rw [hlast]
    exact Bool.noConfusion

/-- What a unit that is not over is about to write rests on some state of the post. -/
theorem Story.rests (h : Story work p d row) (hside : (d.progress side).isOver = false) :
    ∃ q time, q.id = p.id ∧ (d.progress side).Rests (work side) q time := by
  cases h with
  | untouched hall => exact ⟨p, _, rfl, hall side⟩
  | once first hfirst _ hlast =>
    obtain rfl := eq_other_of_committed hfirst hside
    rcases hlast with hearly | hlate
    · exact ⟨p, _, rfl, hearly⟩
    · exact ⟨(work first).of p, _, rfl, hlate⟩
  | twice first q hfirst hlast _ _ =>
    exact absurd hside (over_of_committed hfirst hlast)

/-- A step that finds nothing and commits nothing leaves the story as it is. -/
theorem Story.keep (h : Story work p d row) (hside : (d.progress side).isOver = false)
    (hrests : ∀ q time, (d.progress side).Rests (work side) q time → result.1.Rests (work side) q time) :
    Story work p (d.moved side result) row := by
  cases h with
  | untouched hall =>
    refine .untouched fun t => ?_
    rcases Side.eq_or_eq_other side t with rfl | rfl
    · rw [progress_moved_self]
      exact (hrests _ _ (hall t)).mono fun tx => mem_trace_moved
    · rw [progress_moved_other]
      exact (hall side.other).mono fun tx => mem_trace_moved
  | once first hfirst htrace hlast =>
    obtain rfl := eq_other_of_committed hfirst hside
    refine .once first ((progress_moved_of_other _ _ _).trans hfirst) (mem_trace_moved htrace) ?_
    rw [progress_moved_self]
    rcases hlast with hearly | hlate
    · exact .inl ((hrests _ _ hearly).mono fun tx => Before.moved)
    · exact .inr ((hrests _ _ hlate).mono fun tx => Before.moved)
  | twice first q hfirst hlast _ _ =>
    exact absurd hside (over_of_committed hfirst hlast)

/-- A unit finds the row that is there. -/
theorem Story.find (h : Story work p d row) {tx : Handle} (hp : d.progress side = .begun tx) (s : Posts) :
    Story work p (d.moved side (.found tx row, s)) row := by
  have hside : (d.progress side).isOver = false := by rw [hp]; rfl
  cases h with
  | untouched hall =>
    refine .untouched fun t => ?_
    rcases Side.eq_or_eq_other side t with rfl | rfl
    · rw [progress_moved_self]
      exact ⟨rfl, List.mem_append_right _ (List.mem_singleton.2 rfl)⟩
    · rw [progress_moved_other]
      exact (hall side.other).mono fun tx => mem_trace_moved
  | once first hfirst htrace hlast =>
    obtain rfl := eq_other_of_committed hfirst hside
    refine .once first ((progress_moved_of_other _ _ _).trans hfirst) (mem_trace_moved htrace) (.inr ?_)
    rw [progress_moved_self]
    exact ⟨rfl, before_moved htrace⟩
  | twice first q hfirst hlast _ _ =>
    exact absurd hside (over_of_committed hfirst hlast)

/-- A unit commits what it has staged. -/
theorem Story.commit (h : Story work p d row) {tx : Handle} {post : Post} (hp : d.progress side = .staged tx post)
    (s : Posts) : Story work p (d.moved side (.committed post, s)) post := by
  have hside : (d.progress side).isOver = false := by rw [hp]; rfl
  cases h with
  | untouched hall =>
    have hmine := hall side
    rw [hp] at hmine
    obtain ⟨rfl, -⟩ := hmine
    refine .once side (progress_moved_self _ _ _) (List.mem_append_right _ (List.mem_singleton.2 rfl)) (.inl ?_)
    rw [progress_moved_other]
    exact (hall side.other).mono fun tx hmem => before_moved hmem
  | once first hfirst htrace hlast =>
    obtain rfl := eq_other_of_committed hfirst hside
    rw [hp] at hlast
    have hfirst' := (progress_moved_of_other d first (.committed post, s)).trans hfirst
    rcases hlast with ⟨rfl, hearly⟩ | ⟨rfl, hlate⟩
    · exact .twice first p hfirst' (progress_moved_self _ _ _) (before_moved htrace) ⟨tx, .inl ⟨rfl, hearly.moved⟩⟩
    · exact .twice first _ hfirst' (progress_moved_self _ _ _) (before_moved htrace) ⟨tx, .inr ⟨rfl, hlate.moved⟩⟩
  | twice first q hfirst hlast _ _ =>
    exact absurd hside (over_of_committed hfirst hlast)

/-! ## What holds at any time -/

/-- Nothing kept a unit of work from coming as far as it has. -/
def Allowed (s : Posts) (key : String) : Progress → Prop
  | .idle | .failed _ => True
  | .begun _ | .found _ _ | .broken _ _ => s.failBegin = false
  | .staged _ _ => s.failBegin = false ∧ s.table.failing.contains key = false
  | .committed _ => s.failBegin = false ∧ s.table.failing.contains key = false ∧ s.failCommit = false

/-- What holds at any time when two units of work amend a post of a store. -/
structure Fair (work : Side → Amendment) (s : Posts) (p : Post) (d : Duo) : Prop where
  failing : d.store.table.failing = s.table.failing
  failBegin : d.store.failBegin = s.failBegin
  failCommit : d.store.failCommit = s.failCommit
  allowed : ∀ side, Allowed s p.id.text (d.progress side)
  holds : ∀ side, Holds d.store (d.progress side)
  handle_lt : ∀ side tx, (d.progress side).handle? = some tx → tx < d.store.table.staged.length
  apart : ∀ t u tx, t ≠ u → (d.progress t).handle? = some tx → (d.progress u).handle? ≠ some tx
  story : ∃ row, Story work p d row ∧ d.store.table.rows = s.table.rows.insert p.id.text row

/-- One of them comes further. What its step does to the settings, the transactions and the row has to be shown. -/
theorem Fair.moved (h : Fair work s p d) (hfailing : result.2.table.failing = d.store.table.failing)
    (hbegin : result.2.failBegin = d.store.failBegin) (hcommit : result.2.failCommit = d.store.failCommit)
    (hallowed : Allowed s p.id.text result.1) (hholds : Holds result.2 result.1)
    (hlength : d.store.table.staged.length ≤ result.2.table.staged.length)
    (hothers : ∀ tx, tx < d.store.table.staged.length → (d.progress side).handle? ≠ some tx →
      ∀ ws, d.store.table.staged[tx]? = some ws → result.2.table.staged[tx]? = some ws)
    (hhandle : ∀ tx, result.1.handle? = some tx → (d.progress side).handle? = some tx ∨
      tx = d.store.table.staged.length ∧ tx < result.2.table.staged.length)
    (hstory : ∃ row, Story work p (d.moved side result) row ∧ result.2.table.rows = s.table.rows.insert p.id.text row) :
    Fair work s p (d.moved side result) := by
  have hnew : ∀ tx, result.1.handle? = some tx → (d.progress side.other).handle? ≠ some tx := by
    intro tx htx hother
    rcases hhandle tx htx with hold | ⟨rfl, -⟩
    · exact h.apart side side.other tx (Ne.symm side.other_ne) hold hother
    · exact Nat.lt_irrefl _ (h.handle_lt side.other _ hother)
  refine ⟨hfailing.trans h.failing, hbegin.trans h.failBegin, hcommit.trans h.failCommit, ?_, ?_, ?_, ?_, hstory⟩
  · intro t
    rcases Side.eq_or_eq_other side t with rfl | rfl
    · rw [progress_moved_self]
      exact hallowed
    · rw [progress_moved_other]
      exact h.allowed side.other
  · intro t
    rcases Side.eq_or_eq_other side t with rfl | rfl
    · rw [progress_moved_self]
      exact hholds
    · rw [progress_moved_other]
      refine (h.holds side.other).mono fun tx htx => hothers tx (h.handle_lt _ tx htx) fun hmine => ?_
      exact h.apart side side.other tx (Ne.symm side.other_ne) hmine htx
  · intro t tx htx
    rcases Side.eq_or_eq_other side t with rfl | rfl
    · rw [progress_moved_self] at htx
      rcases hhandle tx htx with hold | ⟨-, hlt⟩
      · exact Nat.lt_of_lt_of_le (h.handle_lt t tx hold) hlength
      · exact hlt
    · rw [progress_moved_other] at htx
      exact Nat.lt_of_lt_of_le (h.handle_lt side.other tx htx) hlength
  · intro t u tx hne ht hu
    rcases Side.eq_or_eq_other side t with rfl | rfl
    · rcases Side.eq_or_eq_other t u with rfl | rfl
      · exact hne rfl
      · rw [progress_moved_self] at ht
        rw [progress_moved_other] at hu
        exact hnew tx ht hu
    · rcases Side.eq_or_eq_other side u with rfl | rfl
      · rw [progress_moved_other] at ht
        rw [progress_moved_self] at hu
        exact hnew tx hu ht
      · exact hne rfl

/-- An open transaction was allowed to begin. -/
theorem Allowed.failBegin {key : String} {q : Progress} {tx : Handle} (h : Allowed s key q)
    (hq : q.handle? = some tx) : s.failBegin = false := by
  cases q with
  | begun _ => exact h
  | found _ _ => exact h
  | broken _ _ => exact h
  | staged _ _ => exact h.1
  | _ => nomatch hq

/-- Steps that find nothing and commit nothing leave the row. -/
theorem Fair.kept (h : Fair work s p d) (hside : (d.progress side).isOver = false)
    (hrests : ∀ q time, (d.progress side).Rests (work side) q time → result.1.Rests (work side) q time)
    (hrows : result.2.table.rows = d.store.table.rows) :
    ∃ row, Story work p (d.moved side result) row ∧ result.2.table.rows = s.table.rows.insert p.id.text row := by
  obtain ⟨row, hstory, hrow⟩ := h.story
  exact ⟨row, hstory.keep hside hrests, hrows.trans hrow⟩

/-- Where one transaction is set, the others stay. -/
theorem staged_set_other {tx : Handle} (hp : (d.progress side).handle? = some tx)
    (x : Option (List (Rows.Write Post))) :
    ∀ tx', (d.progress side).handle? ≠ some tx' → ∀ ws, d.store.table.staged[tx']? = some ws →
      (d.store.table.staged.set tx x)[tx']? = some ws := by
  intro tx' hne ws hws
  have hne' : tx ≠ tx' := fun heq => hne (hp.trans (congrArg some heq))
  exact (List.getElem?_set_ne hne').trans hws

/-- A unit begins its transaction. -/
theorem Fair.begun (h : Fair work s p d) (hp : d.progress side = .idle) (hbegin : d.store.failBegin = false) :
    Fair work s p (d.moved side (.begun d.store.table.begin.1, d.store.opened)) := by
  have hside : (d.progress side).isOver = false := by rw [hp]; rfl
  refine h.moved rfl rfl rfl (h.failBegin.symm.trans hbegin) (staged_opened d.store) ?_ ?_ ?_
    (h.kept hside (fun _ _ _ => trivial) rfl)
  · rw [length_opened]
    exact Nat.le_succ _
  · intro tx hlt _ ws hws
    exact (List.getElem?_append_left hlt).trans hws
  · rintro tx ⟨⟩
    exact .inr ⟨rfl, (length_opened d.store).symm ▸ Nat.lt_succ_self _⟩

/-- The post is in the row, so what a unit finds is what the story says. -/
theorem Fair.found (h : Fair work s p d) (hid : (work side).id = p.id) {tx : Handle} {post : Post}
    (hp : d.progress side = .begun tx) (hrow : d.store.table.rows.get? (work side).id.text = some post) :
    Fair work s p (d.moved side (.found tx post, d.store)) := by
  obtain ⟨row, hstory, hrows⟩ := h.story
  rw [hid, hrows, Rows.get?_insert, if_pos rfl] at hrow
  obtain rfl := Option.some.inj hrow
  have hallowed := h.allowed side
  have hholds := h.holds side
  rw [hp] at hallowed hholds
  exact h.moved rfl rfl rfl hallowed hholds (Nat.le_refl _) (fun _ _ _ _ hws => hws) (fun _ htx => .inl (hp ▸ htx))
    ⟨row, hstory.find hp _, hrows⟩

/-- What a unit has found and is about to write has the id of the post. -/
theorem Fair.rests (h : Fair work s p d) (hside : (d.progress side).isOver = false) :
    ∃ q time, q.id = p.id ∧ (d.progress side).Rests (work side) q time := by
  obtain ⟨row, hstory, -⟩ := h.story
  exact hstory.rests hside

/-- A unit stages the post that it has found, with its change. -/
theorem Fair.staged (h : Fair work s p d) {tx : Handle} {post : Post} (hp : d.progress side = .found tx post)
    (hkey : d.store.table.failing.contains ((work side).of post).id.text = false) :
    Fair work s p (d.moved side (.staged tx ((work side).of post),
      { d.store with
        table := d.store.table.stage tx [(((work side).of post).id.text, some ((work side).of post))] })) := by
  have hside : (d.progress side).isOver = false := by rw [hp]; rfl
  have htx : (d.progress side).handle? = some tx := by rw [hp]; rfl
  have hallowed := h.allowed side
  have hholds := h.holds side
  obtain ⟨q, time, hqid, hrests⟩ := h.rests hside
  rw [hp] at hallowed hholds hrests
  obtain ⟨rfl, -⟩ := hrests
  have hkey' : s.table.failing.contains p.id.text = false := by
    rw [← h.failing, ← hqid]
    exact hkey
  have hkept : ∀ q time, (d.progress side).Rests (work side) q time →
      Progress.Rests (work side) q time (.staged tx ((work side).of post)) := fun q time hr => by
    rw [hp] at hr
    exact ⟨congrArg _ hr.1, hr.2⟩
  refine h.moved rfl rfl rfl ⟨hallowed, hkey'⟩ (Table.staged_stage hholds _) ?_
    (fun tx' _ => staged_set_other htx _ tx') (fun _ htx' => .inl (htx.trans htx')) (h.kept hside hkept rfl)
  simp [Table.stage]

/-- A unit commits the post that it has staged. -/
theorem Fair.committed (h : Fair work s p d) {tx : Handle} {post : Post} (hp : d.progress side = .staged tx post)
    (hcommit : d.store.failCommit = false) :
    Fair work s p (d.moved side (.committed post, d.store.closed tx [(post.id.text, some post)])) := by
  have hside : (d.progress side).isOver = false := by rw [hp]; rfl
  have htx : (d.progress side).handle? = some tx := by rw [hp]; rfl
  have hallowed := h.allowed side
  obtain ⟨q, time, hqid, hrests⟩ := h.rests hside
  rw [hp] at hallowed hrests
  obtain ⟨rfl, -⟩ := hrests
  obtain ⟨row, hstory, hrows⟩ := h.story
  have hinsert : d.store.table.rows.insert ((work side).of q).id.text ((work side).of q) =
      s.table.rows.insert p.id.text ((work side).of q) := by
    show d.store.table.rows.insert q.id.text ((work side).of q) = _
    rw [hrows, hqid]
    exact Rows.insert_insert _ _ _ _
  refine h.moved rfl rfl rfl ⟨hallowed.1, hallowed.2, h.failCommit.symm.trans hcommit⟩ trivial ?_
    (fun tx' _ => staged_set_other htx _ tx') ?_ ⟨_, hstory.commit hp _, hinsert⟩
  · simp [closed]
  · rintro tx' ⟨⟩

/-- A step of a unit fails, and its transaction is still open. -/
theorem Fair.broken (h : Fair work s p d) {tx : Handle} {e : Error} (htx : (d.progress side).handle? = some tx)
    (hside : (d.progress side).isOver = false) : Fair work s p (d.moved side (.broken tx e, d.store)) :=
  h.moved rfl rfl rfl ((h.allowed side).failBegin htx) trivial (Nat.le_refl _) (fun _ _ _ _ hws => hws)
    (fun _ htx' => .inl (htx.trans htx')) (h.kept hside (fun _ _ _ => trivial) rfl)

/-- A unit has failed and leaves nothing. -/
theorem Fair.failed (h : Fair work s p d) {s' : Posts} {e : Error} (hs : SameBut (d.progress side).handle? d.store s')
    (hside : (d.progress side).isOver = false) : Fair work s p (d.moved side (.failed e, s')) := by
  refine h.moved hs.failing hs.failBegin hs.failCommit trivial trivial hs.length_le
    (fun tx _ hne ws hws => hs.staged tx hne ws hws) ?_ (h.kept hside (fun _ _ _ => trivial) hs.rows)
  rintro tx ⟨⟩

/-- Whatever step a unit takes, the same holds after it. -/
theorem Fair.step (h : Fair work s p d) (hid : (work side).id = p.id) (hside : (d.progress side).isOver = false) :
    Fair work s p (d.moved side ((work side).step (d.progress side) d.store)) := by
  have hres := step_result (a := work side) hside (h.holds side)
  generalize (work side).step (d.progress side) d.store = result at hres
  generalize hp : d.progress side = now at hres
  cases hres with
  | begun hbegin => exact h.begun hp hbegin
  | found hrow => exact h.found hid hp hrow
  | staged hkey => exact h.staged hp hkey
  | committed hcommit => exact h.committed hp hcommit
  | broken htx => exact h.broken (hp ▸ htx) hside
  | failed hs => exact h.failed (hp ▸ hs) hside

theorem fair_start (hrow : s.table.rows.get? p.id.text = some p) : Fair work s p (start s) := by
  exact ⟨rfl, rfl, rfl, fun _ => trivial, fun _ => trivial, (fun _ _ h => nomatch h), (fun _ _ _ _ h => nomatch h), p,
    .untouched fun _ => trivial, (Rows.insert_of_get? hrow).symm⟩

/-- Whatever the schedule, this holds at any time of a run. -/
theorem fair_run (hrow : s.table.rows.get? p.id.text = some p) (hid : ∀ side, (work side).id = p.id)
    (schedule : List Side) : Fair work s p (run work s schedule) :=
  run_induction (fair_start hrow) (fun _ side hside h => h.step (hid side) hside) schedule

/-! ## One look, one commit -/

/-- What a unit of work came to later is further, and nothing in the trace is further than the unit is now. -/
structure Onward (d : Duo) : Prop where
  reached : ∀ x ∈ d.trace, x.2.rank ≤ (d.progress x.1).rank
  apart : d.trace.Pairwise fun x y => x.1 = y.1 → x.2.rank < y.2.rank

/-- A unit comes further. -/
theorem Onward.moved (h : d.Onward) (hrank : (d.progress side).rank < result.1.rank) : (d.moved side result).Onward := by
  have hnow : (d.progress side).rank ≤ ((d.moved side result).progress side).rank := by
    rw [progress_moved_self]
    exact Nat.le_of_lt hrank
  refine ⟨fun x hx => ?_, List.pairwise_append.2 ⟨h.apart, List.pairwise_singleton _ _, fun x hx y hy heq => ?_⟩⟩
  · rcases List.mem_append.1 hx with hold | hnew
    · refine Nat.le_trans (h.reached x hold) ?_
      rcases Side.eq_or_eq_other side x.1 with heq | heq
      · rw [heq]
        exact hnow
      · exact Nat.le_of_eq (by rw [heq, progress_moved_other])
    · obtain rfl := List.mem_singleton.1 hnew
      exact Nat.le_of_eq (congrArg Progress.rank (progress_moved_self d side result)).symm
  · obtain rfl := List.mem_singleton.1 hy
    have hbefore := h.reached x hx
    rw [heq] at hbefore
    exact Nat.lt_of_le_of_lt hbefore hrank

/-- Whatever the schedule, both units only come further. -/
theorem onward_run (work : Side → Amendment) (s : Posts) (schedule : List Side) : (run work s schedule).Onward :=
  run_induction ⟨fun _ h => (nomatch h), .nil⟩ (fun d side hside h => h.moved (rank_lt_step (work side) hside d.store))
    schedule

/-- A unit of work comes to each step only once. -/
theorem Onward.nodup_ranks (h : d.Onward) : (d.trace.map fun x => (x.1, x.2.rank)).Nodup := by
  refine List.pairwise_map.2 (h.apart.imp fun {x y} hlt heq => ?_)
  obtain ⟨hside, hrank⟩ := Prod.mk.inj heq
  exact Nat.ne_of_lt (hlt hside) hrank

/-- No event is twice in the trace. -/
theorem Onward.nodup (h : d.Onward) : d.trace.Nodup := .of_map _ h.nodup_ranks

/-- Two events of one unit after as many steps are the same. -/
theorem Onward.eq_of_rank_eq (h : d.Onward) {q q' : Progress} (hq : (side, q) ∈ d.trace) (hq' : (side, q') ∈ d.trace)
    (hrank : q.rank = q'.rank) : q = q' :=
  (Prod.mk.inj (List.inj_on_of_nodup_map h.nodup_ranks hq hq' (congrArg (side, ·) hrank))).2

/-- A unit of work looks for the post only once. -/
theorem looks_once (work : Side → Amendment) (s : Posts) (schedule : List Side) {tx tx' : Handle} {post post' : Post}
    (h : (side, .found tx post) ∈ (run work s schedule).trace)
    (h' : (side, .found tx' post') ∈ (run work s schedule).trace) : tx = tx' ∧ post = post' :=
  Progress.found.inj ((onward_run work s schedule).eq_of_rank_eq h h' rfl)

/-- Of two different events of a list, only one comes before the other. -/
theorem not_sublist_swap {α : Type} {x y : α} {l : List α} (hnodup : l.Nodup) (h : [x, y].Sublist l) :
    ¬[y, x].Sublist l := by
  induction l with
  | nil => nomatch h
  | cons z l ih =>
    obtain ⟨hz, hnodup⟩ := List.nodup_cons.1 hnodup
    intro h'
    cases h with
    | cons _ h =>
      cases h' with
      | cons _ h' => exact ih hnodup h h'
      | cons_cons _ h' => exact hz (h.subset (by simp))
    | cons_cons _ h =>
      cases h' with
      | cons _ h' => exact hz (h'.subset (by simp))
      | cons_cons _ h' => exact hz (h.subset (by simp))

/-- Two events are not each before the other. -/
theorem Onward.not_before_swap (h : d.Onward) {x y : Side × Progress} (hxy : d.Before x y) : ¬d.Before y x :=
  not_sublist_swap h.nodup hxy

theorem Before.left_mem {x y : Side × Progress} (h : d.Before x y) : x ∈ d.trace := h.subset List.mem_cons_self

theorem Before.right_mem {x y : Side × Progress} (h : d.Before x y) : y ∈ d.trace :=
  h.subset (List.mem_cons_of_mem _ List.mem_cons_self)

/-! ## The last commit -/

/-- Both have committed, and the last commit decides which rows there are. Only one of the cases holds
(`informed_or_blind`). -/
inductive LastWins (publisher : Publisher Posts) (work : Side → Amendment) (s : Posts) (p : Post) (d : Duo) : Prop
  /-- The last one looked for the post after the first commit: the rows are those after both changes in that order. If
  one of them changes only the title and the other one only the description, then both changes are there. -/
  | informed (first : Side) (tx : Handle) (post row : Post)
    (horder : d.Before (first, .committed post) (first.other, .committed row))
    (hlook : d.Before (first, .committed post) (first.other, .found tx post))
    (hrow : d.store.table.rows.get? p.id.text = some row)
    (hrows : ∃ s', amendAll publisher [work first, work first.other] s = (.ok (), s') ∧
      d.store.table.rows = s'.table.rows)
    (hfields : ∀ side title description, (work side).update = ⟨some title, none⟩ →
      (work side.other).update = ⟨none, some description⟩ → row.title = title ∧ row.description = description)
  /-- The last one looked before the first commit: the rows are those after the last change alone. -/
  | blind (first : Side) (tx : Handle) (post row : Post)
    (horder : d.Before (first, .committed post) (first.other, .committed row))
    (hlook : d.Before (first.other, .found tx p) (first, .committed post))
    (hrow : d.store.table.rows.get? p.id.text = some row)
    (hrows : ∃ s', amendAll publisher [work first.other] s = (.ok (), s') ∧ d.store.table.rows = s'.table.rows)

/-- Where both have committed, the one that was last did not look before the first commit as well as after it. -/
theorem informed_or_blind (work : Side → Amendment) (s : Posts) (schedule : List Side) {first first' : Side}
    {tx tx' : Handle} {post row post' row' q q' : Post}
    (horder : (run work s schedule).Before (first, .committed post) (first.other, .committed row))
    (hlook : (run work s schedule).Before (first, .committed post) (first.other, .found tx q))
    (horder' : (run work s schedule).Before (first', .committed post') (first'.other, .committed row')) :
    ¬(run work s schedule).Before (first'.other, .found tx' q') (first', .committed post') := by
  have honward := onward_run work s schedule
  intro hlook'
  rcases Side.eq_or_eq_other first first' with rfl | rfl
  · -- the same commit is first, and there is only one look of the other unit
    obtain ⟨rfl, rfl⟩ := looks_once work s schedule hlook.right_mem hlook'.left_mem
    obtain rfl := Progress.committed.inj (honward.eq_of_rank_eq horder.left_mem horder'.left_mem rfl)
    exact honward.not_before_swap hlook hlook'
  · -- each unit would have committed before the other one
    rw [Side.other_other] at horder'
    obtain rfl := Progress.committed.inj (honward.eq_of_rank_eq horder.left_mem horder'.right_mem rfl)
    obtain rfl := Progress.committed.inj (honward.eq_of_rank_eq horder.right_mem horder'.left_mem rfl)
    exact honward.not_before_swap horder horder'

/-- Whatever the schedule, once both changes of a post have committed, the last commit decides. -/
theorem last_commit_wins (publisher : Publisher Posts) {work : Side → Amendment} {s : Posts} {p : Post}
    (hrow : s.table.rows.get? p.id.text = some p) (hid : ∀ side, (work side).id = p.id) (schedule : List Side)
    (hboth : ∀ side, ∃ post, (run work s schedule).progress side = .committed post) :
    LastWins publisher work s p (run work s schedule) := by
  have hfair := fair_run hrow hid schedule
  generalize run work s schedule = d at hboth hfair ⊢
  obtain ⟨row, hstory, hrows⟩ := hfair.story
  have hsame : s.table.rows = s.table.rows.insert p.id.text p := (Rows.insert_of_get? hrow).symm
  have hget : d.store.table.rows.get? p.id.text = some row := by rw [hrows, Rows.get?_insert, if_pos rfl]
  cases hstory with
  | untouched hrests =>
    obtain ⟨post, hleft⟩ := hboth .left
    have hnone := hrests .left
    rw [hleft] at hnone
    exact hnone.elim
  | once first _ _ hlast =>
    obtain ⟨post, hother⟩ := hboth first.other
    rw [hother] at hlast
    exact (hlast.elim id id).elim
  | twice first q hfirst hlast horder hlook =>
    have hallowed := hfair.allowed first
    rw [hfirst] at hallowed
    obtain ⟨hbegin, hkey, hcommit⟩ := hallowed
    obtain ⟨tx, ⟨rfl, hearly⟩ | ⟨rfl, hlate⟩⟩ := hlook
    · obtain ⟨s', hamend, hrows'⟩ := amendAll_of_allowed publisher [work first.other]
        (by simpa using hid first.other) hsame hbegin hkey hcommit
      exact .blind first tx _ _ horder hearly hget ⟨s', hamend, hrows.trans hrows'.symm⟩
    · obtain ⟨s', hamend, hrows'⟩ := amendAll_of_allowed publisher [work first, work first.other]
        (by simpa using ⟨hid first, hid first.other⟩) hsame hbegin hkey hcommit
      refine .informed first tx _ _ horder hlate hget ⟨s', hamend, hrows.trans hrows'.symm⟩ ?_
      intro side title description htitle hdescription
      rcases Side.eq_or_eq_other side first with rfl | rfl
      · simp [Amendment.of, Post.apply, htitle, hdescription]
      · simp [Amendment.of, Post.apply, htitle, hdescription]

/-- A change of the title on one side, and of the description on the other. -/
def rivals : Side → Amendment
  | .left => ⟨⟨"p"⟩, ⟨some "second", none⟩, Fixture.date⟩
  | .right => ⟨⟨"p"⟩, ⟨none, some "new description"⟩, Fixture.date⟩

/-- A store with a post. -/
def stocked : Posts :=
  { empty with table := { Posts.empty.table with rows := Rows.empty.insert "p" (Fixture.post "p" "first") } }

/-- A publisher that takes everything. -/
def quiet : Publisher Posts := ⟨.json, fun _ _ _ => pure ()⟩

/-- Both begin at once, and one of them is over before the other one looks for the post. -/
def patient : List Side := [.left, .right, .left, .left, .left, .right, .right, .right]

/-- They take their steps in turn. -/
def hasty : List Side := [.left, .right, .left, .right, .left, .right, .left, .right]

theorem stocked_row : stocked.table.rows.get? "p" = some (Fixture.post "p" "first") := by decide +kernel

theorem rivals_id (side : Side) : (rivals side).id = ⟨"p"⟩ := by cases side <;> rfl

/-- The side that waits has both changes in its post. -/
theorem patient_last_wins :
    (∀ side, ∃ post, (run rivals stocked patient).progress side = .committed post) ∧
      LastWins quiet rivals stocked (Fixture.post "p" "first") (run rivals stocked patient) := by
  have hleft : (run rivals stocked patient).progress .left =
      .committed ⟨⟨"p"⟩, "second", "first description", Fixture.user, Fixture.date, Fixture.date⟩ := by decide +kernel
  have hright : (run rivals stocked patient).progress .right =
      .committed ⟨⟨"p"⟩, "second", "new description", Fixture.user, Fixture.date, Fixture.date⟩ := by decide +kernel
  have hboth : ∀ side, ∃ post, (run rivals stocked patient).progress side = .committed post := by
    rintro (_ | _)
    · exact ⟨_, hleft⟩
    · exact ⟨_, hright⟩
  exact ⟨hboth, last_commit_wins quiet stocked_row rivals_id patient hboth⟩

/-- Where both look before either commits, the new title is lost, and neither order of the two changes does that. -/
theorem overlapping_change_lost :
    ¬ ∀ (publisher : Publisher Posts) (work : Side → Amendment) (s : Posts) (p : Post) (schedule : List Side),
      s.table.rows.get? p.id.text = some p → (∀ side, (work side).id = p.id) →
      (∀ side, ∃ post, (run work s schedule).progress side = .committed post) →
      ∃ first s', amendAll publisher [work first, work first.other] s = (.ok (), s') ∧
        (run work s schedule).store.table.rows.get? p.id.text = s'.table.rows.get? p.id.text := by
  intro h
  have hleft : (run rivals stocked hasty).progress .left =
      .committed ⟨⟨"p"⟩, "second", "first description", Fixture.user, Fixture.date, Fixture.date⟩ := by decide +kernel
  have hright : (run rivals stocked hasty).progress .right =
      .committed ⟨⟨"p"⟩, "first", "new description", Fixture.user, Fixture.date, Fixture.date⟩ := by decide +kernel
  have hboth : ∀ side, ∃ post, (run rivals stocked hasty).progress side = .committed post := by
    rintro (_ | _)
    · exact ⟨_, hleft⟩
    · exact ⟨_, hright⟩
  obtain ⟨first, s', hamend, hget⟩ :=
    h quiet rivals stocked (Fixture.post "p" "first") hasty stocked_row rivals_id hboth
  have hlost : (run rivals stocked hasty).store.table.rows.get? "p" =
      some ⟨⟨"p"⟩, "first", "new description", Fixture.user, Fixture.date, Fixture.date⟩ := by decide +kernel
  have hkept : (amendAll quiet [rivals first, rivals first.other] stocked).2.table.rows.get? "p" =
      some ⟨⟨"p"⟩, "second", "new description", Fixture.user, Fixture.date, Fixture.date⟩ := by
    cases first <;> decide +kernel
  rw [hamend] at hkept
  exact absurd (hlost.symm.trans (hget.trans hkept)) (by decide)

end Duo

end Forum.Memory.Posts
