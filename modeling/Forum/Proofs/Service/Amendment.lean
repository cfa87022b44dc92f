import Forum.Proofs.Service.Transaction
import Forum.Service.Posts

/-!
# A change of a post, step by step

A change of a post is a unit of work of four steps: its transaction begins, it looks for the post, it stages the post
with the change, and it commits (`Amendment.step`; `amend_eq_steps` says that the four steps are what the service does).
A step comes further, or the unit has failed and its transaction has to be rolled back (`StepResult`, `step_result`).
Changes that nothing keeps from being made, one after the other, put the post with all of them into its row
(`amendAll_of_allowed`).
-/

namespace Forum.Memory.Posts

open Calendar

/-! ## The steps of one change -/

/-- A change of a post that the service is asked for. -/
structure Amendment where
  id : PostId
  update : PostUpdate
  now : Instant
deriving DecidableEq, Repr

/-- How far the unit of work of a change has come. -/
inductive Progress where
  | idle
  | begun (tx : Handle)
  /-- It has found the post. -/
  | found (tx : Handle) (post : Post)
  /-- It has staged the post with the change. -/
  | staged (tx : Handle) (post : Post)
  /-- A step has failed, and the transaction is not rolled back yet. -/
  | broken (tx : Handle) (error : Error)
  | committed (post : Post)
  | failed (error : Error)
deriving DecidableEq, Repr

namespace Progress

/-- The transaction that is open. -/
def handle? : Progress → Option Handle
  | begun tx | found tx _ | staged tx _ | broken tx _ => some tx
  | _ => none

/-- There are no more steps. -/
def isOver : Progress → Bool
  | committed _ | failed _ => true
  | _ => false

/-- What the unit of work answers, once it is over. -/
def answer? : Progress → Option (Except Error Post)
  | committed post => some (.ok post)
  | failed e => some (.error e)
  | _ => none

end Progress

namespace Amendment

/-- The post with the change. -/
def of (a : Amendment) (post : Post) : Post := post.apply a.update a.now

/-- The next step of the unit of work, on the store. -/
def step (a : Amendment) : Progress → Posts → Progress × Posts
  | .idle, s =>
    match transactions.begin s with
    | (.ok tx, s) => (.begun tx, s)
    | (.error e, s) => (.failed e, s)
  | .begun tx, s =>
    match store.find (some tx) a.id s with
    | (.ok post, s) => (.found tx post, s)
    | (.error e, s) => (.broken tx e, s)
  | .found tx post, s =>
    match store.update (some tx) (a.of post) s with
    | (.ok _, s) => (.staged tx (a.of post), s)
    | (.error e, s) => (.broken tx e, s)
  | .staged tx post, s =>
    match transactions.finish tx post s with
    | (.ok post, s) => (.committed post, s)
    | (.error e, s) => (.failed e, s)
  | .broken tx e, s =>
    match transactions.abandon tx e s with
    | (.ok post, s) => (.committed post, s)
    | (.error e, s) => (.failed e, s)
  | p, s => (p, s)

/-- Steps of the unit of work, with nothing between them. -/
def steps (a : Amendment) : Nat → Progress → Posts → Progress × Posts
  | 0, p, s => (p, s)
  | n + 1, p, s => a.steps n (a.step p s).1 (a.step p s).2

/-- What the service does about the change. -/
def amend (publisher : Publisher Posts) (a : Amendment) : Action Posts Post :=
  (⟨store, transactions, none, publisher⟩ : PostService Posts).amend a.id a.update a.now

end Amendment

/-- The work of a change on an open transaction. -/
def Amendment.work (a : Amendment) (tx : Option Handle) : Action Posts Post := do
  let post ← store.find tx a.id
  store.update tx (a.of post)
  pure (a.of post)

theorem amend_eq_atomically (publisher : Publisher Posts) (a : Amendment) :
    a.amend publisher = transactions.atomically none a.work := rfl

/-- The four steps, with nothing between them, are what the service does. -/
theorem amend_eq_steps (publisher : Publisher Posts) (a : Amendment) (s : Posts) :
    ((a.steps 4 .idle s).1.answer?, (a.steps 4 .idle s).2) =
      (some (a.amend publisher s).1, (a.amend publisher s).2) := by
  rw [amend_eq_atomically]
  rcases hbegin : transactions.begin s with ⟨e | tx, s₁⟩
  · simp [Amendment.steps, Amendment.step, Transactions.atomically, Transactions.run, hbegin, Progress.answer?]
  · rw [Transactions.atomically_of_begin hbegin]
    unfold Amendment.work
    rcases hfind : store.find (some tx) a.id s₁ with ⟨e | post, s₂⟩
    · rw [Action.bind_of_error hfind]
      rcases habandon : transactions.abandon (α := Post) tx e s₂ with ⟨_ | _, s₃⟩ <;>
        simp [Amendment.steps, Amendment.step, hbegin, hfind, habandon, Progress.answer?]
    · rw [Action.bind_of_ok hfind]
      rcases hupdate : store.update (some tx) (a.of post) s₂ with ⟨e | _, s₃⟩
      · rw [Action.bind_of_error hupdate]
        rcases habandon : transactions.abandon (α := Post) tx e s₃ with ⟨_ | _, s₄⟩ <;>
          simp [Amendment.steps, Amendment.step, hbegin, hfind, hupdate, habandon, Progress.answer?]
      · rw [Action.bind_of_ok hupdate]
        have hpure : (pure (a.of post) : Action Posts Post) s₃ = (.ok (a.of post), s₃) := rfl
        rw [hpure]
        rcases hfinish : transactions.finish tx (a.of post) s₃ with ⟨_ | _, s₄⟩ <;>
          simp [Amendment.steps, Amendment.step, hbegin, hfind, hupdate, hfinish, Progress.answer?]

/-! ## What one step does -/

section

variable {s s' : Posts} {tx : Handle} {a : Amendment} {p p' : Progress}

/-- The store when a transaction was committed. -/
def closed (s : Posts) (tx : Handle) (ws : List (Rows.Write Post)) : Posts :=
  { s with
    journal := { s.journal with committed := s.journal.committed + 1 }
    table := { s.table with rows := s.table.rows.writeAll ws, staged := s.table.staged.set tx none } }

theorem length_opened (s : Posts) : s.opened.table.staged.length = s.table.staged.length + 1 := List.length_append

/-- The transaction of a unit of work is open and has staged what the unit has come to. -/
def Holds (s : Posts) : Progress → Prop
  | .begun tx | .found tx _ => s.table.staged[tx]? = some (some [])
  | .staged tx post => s.table.staged[tx]? = some (some [(post.id.text, some post)])
  | _ => True

/-- An open transaction stays as it is when another one moves. -/
theorem Holds.mono (h : Holds s p)
    (hs : ∀ tx, p.handle? = some tx → ∀ ws, s.table.staged[tx]? = some ws → s'.table.staged[tx]? = some ws) :
    Holds s' p := by
  cases p with
  | begun tx => exact hs tx rfl _ h
  | found tx post => exact hs tx rfl _ h
  | staged tx post => exact hs tx rfl _ h
  | _ => trivial

/-- The rows and the faults are the same, and what all transactions but one have staged. -/
structure SameBut (tx : Option Handle) (s s' : Posts) : Prop where
  rows : s'.table.rows = s.table.rows
  failing : s'.table.failing = s.table.failing
  failBegin : s'.failBegin = s.failBegin
  failCommit : s'.failCommit = s.failCommit
  length_le : s.table.staged.length ≤ s'.table.staged.length
  staged : ∀ tx', tx ≠ some tx' → ∀ ws, s.table.staged[tx']? = some ws → s'.table.staged[tx']? = some ws

/-- What comes of a step: the unit comes further, or it has failed and changes nothing. -/
inductive StepResult (a : Amendment) (s : Posts) : Progress → Progress × Posts → Prop
  | begun (hbegin : s.failBegin = false) : StepResult a s .idle (.begun s.table.begin.1, s.opened)
  | found {tx : Handle} {post : Post} (hrow : s.table.rows.get? a.id.text = some post) :
    StepResult a s (.begun tx) (.found tx post, s)
  | staged {tx : Handle} {post : Post} (hkey : s.table.failing.contains (a.of post).id.text = false) :
    StepResult a s (.found tx post) (.staged tx (a.of post),
      { s with table := s.table.stage tx [((a.of post).id.text, some (a.of post))] })
  | committed {tx : Handle} {post : Post} (hcommit : s.failCommit = false) :
    StepResult a s (.staged tx post) (.committed post, s.closed tx [(post.id.text, some post)])
  | broken {p : Progress} {tx : Handle} {e : Error} (hp : p.handle? = some tx) : StepResult a s p (.broken tx e, s)
  | failed {p : Progress} {s' : Posts} {e : Error} (hs : SameBut p.handle? s s') : StepResult a s p (.failed e, s')

theorem sameBut_journal (s : Posts) (journal : Journal) (tx : Option Handle) :
    SameBut tx s { s with journal := journal } :=
  ⟨rfl, rfl, rfl, rfl, Nat.le_refl _, fun _ _ _ h => h⟩

theorem begin_of_free (h : s.failBegin = false) : transactions.begin s = (.ok s.table.begin.1, s.opened) :=
  orFail_of_false h _ _ _

theorem find_of_open (h : s.table.staged[tx]? = some (some [])) (id : PostId) :
    store.find (some tx) id s = ((s.table.rows.get? id.text).elim (.error (.postNotFound id)) .ok, s) :=
  Part.lift_of_eq (Table.ask_of_staged h _)

theorem update_of_open (h : s.table.staged[tx]? = some (some [])) {post : Post}
    (hkey : s.table.failing.contains post.id.text = false) :
    store.update (some tx) post s = (.ok (), { s with table := s.table.stage tx [(post.id.text, some post)] }) := by
  have hwrite : s.table.write (some tx) (post.id.text, some post) =
      .ok (s.table.stage tx [(post.id.text, some post)]) := by
    rw [Table.write, if_neg (Bool.eq_false_iff.1 hkey)]
    simp [Table.stagedBy_of_getElem? h, Except.map, Table.stage]
  exact Part.lift_of_eq (p := rows) (Table.change_of_ok hwrite)

theorem finish_of_open {ws : List (Rows.Write Post)} (h : s.table.staged[tx]? = some (some ws))
    (hcommit : s.failCommit = false) (post : Post) :
    transactions.finish tx post s = (.ok post, s.closed tx ws) := by
  have htable : s.table.commit tx =
      .ok { s.table with rows := s.table.rows.writeAll ws, staged := s.table.staged.set tx none } := by
    simp [Table.commit, Table.stagedBy_of_getElem? h, Except.map]
  have hdone : transactions.commit tx s = (.ok (), s.closed tx ws) :=
    (orFail_of_false hcommit _ _ _).trans (Part.lift_of_eq (Table.change_of_ok htable))
  unfold Transactions.finish
  simp only [hdone]

/-- A rollback leaves the rows, and what other transactions have staged. -/
theorem rollback_sameBut (tx : Handle) (s : Posts) : SameBut (some tx) s (transactions.rollback tx s).2 := by
  cases hfail : s.failRollback with
  | true =>
    have hrollback : transactions.rollback tx s = (.error (.transaction "injected rollback failure"),
        { s with journal := { s.journal with rolledBack := s.journal.rolledBack + 1 } }) := orFail_of_true hfail _ _ _
    rw [hrollback]
    exact sameBut_journal _ _ _
  | false =>
    have hrollback : (transactions.rollback tx s).2 =
        { s with
          journal := { s.journal with rolledBack := s.journal.rolledBack + 1 }
          table := (Table.change (fun t => t.rollback tx) s.table).2 } :=
      congrArg Prod.snd (orFail_of_false hfail _ _ _)
    rw [hrollback]
    cases htable : s.table.rollback tx with
    | error e =>
      rw [Table.change_of_error htable]
      exact sameBut_journal _ _ _
    | ok t =>
      rw [Table.change_of_ok htable]
      unfold Table.rollback at htable
      cases hstaged : s.table.stagedBy tx with
      | error e => simp [hstaged, Except.map] at htable
      | ok ws =>
        simp only [hstaged, Except.map, Except.ok.injEq] at htable
        subst htable
        refine ⟨rfl, rfl, rfl, rfl, by simp, fun tx' hne ws' h => ?_⟩
        have hne' : tx ≠ tx' := fun heq => hne (congrArg some heq)
        simpa [List.getElem?_set_ne hne'] using h

theorem step_idle (a : Amendment) (s : Posts) : StepResult a s .idle (a.step .idle s) := by
  unfold Amendment.step
  cases hfail : s.failBegin with
  | true =>
    have hbegin : transactions.begin s = (.error (.transaction "injected begin failure"),
        { s with journal := { s.journal with begun := s.journal.begun + 1 } }) := orFail_of_true hfail _ _ _
    simp only [hbegin]
    exact .failed (sameBut_journal _ _ _)
  | false =>
    simp only [begin_of_free hfail]
    exact .begun hfail

theorem step_begun (hs : Holds s (.begun tx)) : StepResult a s (.begun tx) (a.step (.begun tx) s) := by
  unfold Amendment.step
  simp only [find_of_open hs]
  cases hrow : s.table.rows.get? a.id.text with
  | none => exact .broken rfl
  | some row => exact .found hrow

theorem step_found {post : Post} (hs : Holds s (.found tx post)) :
    StepResult a s (.found tx post) (a.step (.found tx post) s) := by
  unfold Amendment.step
  cases hkey : s.table.failing.contains (a.of post).id.text with
  | true =>
    have hwrite : s.table.write (some tx) ((a.of post).id.text, some (a.of post)) =
        .error (.infrastructure s!"injected write failure for {(a.of post).id.text}") := if_pos hkey
    have hupdate : store.update (some tx) (a.of post) s = (.error _, s) :=
      Part.lift_of_eq (p := rows) (Table.change_of_error hwrite)
    simp only [hupdate]
    exact .broken rfl
  | false =>
    simp only [update_of_open hs hkey]
    exact .staged hkey

theorem step_staged {post : Post} (hs : Holds s (.staged tx post)) :
    StepResult a s (.staged tx post) (a.step (.staged tx post) s) := by
  unfold Amendment.step
  cases hfail : s.failCommit with
  | true =>
    have hcommit : transactions.commit tx s = (.error (.transaction "injected commit failure"),
        { s with journal := { s.journal with committed := s.journal.committed + 1 } }) := orFail_of_true hfail _ _ _
    simp only [Transactions.finish, hcommit]
    exact .failed (sameBut_journal _ _ _)
  | false =>
    simp only [finish_of_open hs hfail]
    exact .committed hfail

theorem step_broken (a : Amendment) (s : Posts) (tx : Handle) (e : Error) :
    StepResult a s (.broken tx e) (a.step (.broken tx e) s) := by
  have hsame : SameBut (Progress.broken tx e).handle? s (transactions.rollback tx s).2 := rollback_sameBut tx s
  unfold Amendment.step
  rcases hrollback : transactions.rollback tx s with ⟨_ | _, s'⟩
  · rw [hrollback] at hsame
    simp only [Transactions.abandon, hrollback]
    exact .failed hsame
  · rw [hrollback] at hsame
    simp only [Transactions.abandon, hrollback]
    exact .failed hsame

/-- A unit of work that is not over takes one of its steps. -/
theorem step_result (hp : p.isOver = false) (hs : Holds s p) : StepResult a s p (a.step p s) := by
  cases p with
  | idle => exact step_idle a s
  | begun tx => exact step_begun hs
  | found tx post => exact step_found hs
  | staged tx post => exact step_staged hs
  | broken tx e => exact step_broken a s tx e
  | committed post => cases hp
  | failed e => cases hp

end

/-! ## One after the other -/

/-- The rows after a change that nothing keeps from being made. -/
theorem amend_of_allowed (publisher : Publisher Posts) {a : Amendment} {s : Posts} {row : Post} (hid : a.id = row.id)
    (hrow : s.table.rows.get? row.id.text = some row) (hbegin : s.failBegin = false)
    (hkey : s.table.failing.contains row.id.text = false) (hcommit : s.failCommit = false) :
    ∃ s', a.amend publisher s = (.ok (a.of row), s') ∧ s'.table.rows = s.table.rows.insert row.id.text (a.of row) ∧
      s'.table.failing = s.table.failing ∧ s'.failBegin = s.failBegin ∧ s'.failCommit = s.failCommit := by
  have hopen := staged_opened s
  have hfind : store.find (some s.table.begin.1) a.id s.opened = (.ok row, s.opened) := by
    have hget : s.opened.table.rows.get? a.id.text = some row := hid ▸ hrow
    rw [find_of_open hopen, hget]
    rfl
  have hstage : s.opened.table.failing.contains (a.of row).id.text = false := hkey
  have hupdate := update_of_open hopen hstage
  have hfinish := finish_of_open (Table.staged_stage hopen [((a.of row).id.text, some (a.of row))])
    (s := { s.opened with table := s.opened.table.stage s.table.begin.1 [((a.of row).id.text, some (a.of row))] })
    hcommit (a.of row)
  rw [amend_eq_atomically, Transactions.atomically_of_begin (begin_of_free hbegin), Amendment.work, Action.bind_of_ok hfind,
    Action.bind_of_ok hupdate]
  exact ⟨_, hfinish, rfl, rfl, rfl, rfl⟩

/-- Changes that are made one after the other. -/
def amendAll (publisher : Publisher Posts) : List Amendment → Action Posts Unit
  | [] => pure ()
  | a :: as => do
    let _ ← a.amend publisher
    amendAll publisher as

/-- Changes of one post are made one after the other. -/
theorem amendAll_of_allowed (publisher : Publisher Posts) (as : List Amendment) {s : Posts} {row : Post}
    (hid : ∀ a ∈ as, a.id = row.id) (hrow : s.table.rows = s.table.rows.insert row.id.text row)
    (hbegin : s.failBegin = false) (hkey : s.table.failing.contains row.id.text = false)
    (hcommit : s.failCommit = false) :
    ∃ s', amendAll publisher as s = (.ok (), s') ∧
      s'.table.rows = s.table.rows.insert row.id.text (as.foldl (fun q a => a.of q) row) := by
  induction as generalizing s row with
  | nil => exact ⟨s, rfl, hrow⟩
  | cons a as ih =>
    have hget : s.table.rows.get? row.id.text = some row := by
      rw [hrow, Rows.get?_insert, if_pos rfl]
    obtain ⟨s₁, hamend, hrows, hfailing, hbegin₁, hcommit₁⟩ :=
      amend_of_allowed publisher (hid a List.mem_cons_self) hget hbegin hkey hcommit
    have hsame : s₁.table.rows = s₁.table.rows.insert (a.of row).id.text (a.of row) := by
      rw [hrows]
      exact (Rows.insert_insert _ _ _ _).symm
    have htail : ∀ b ∈ as, b.id = (a.of row).id := fun b hb => hid b (List.mem_cons_of_mem _ hb)
    obtain ⟨s₂, hall, hrows₂⟩ := ih htail hsame (hbegin₁.trans hbegin) (hfailing ▸ hkey) (hcommit₁.trans hcommit)
    refine ⟨s₂, ?_, ?_⟩
    · rw [amendAll, Action.bind_of_ok hamend]
      exact hall
    · rw [hrows₂, hrows]
      exact Rows.insert_insert _ _ _ _

end Forum.Memory.Posts
