import Forum.Memory.Posts
import Forum.Proofs.Service.Part

/-!
# Transactions of the posts in memory

What becomes of work in a transaction of its own is one of four things (`Posts.run_result`), whichever calls are made to
fail: nothing is begun, the work ends early, the commit is refused, or the writes that were staged are made. Work that
stages a single write (`Stages`) so either fails and leaves the rows as they are, with nothing committed, or succeeds,
and then its write is committed (`Posts.atomically_result`).
-/

namespace Forum

namespace Memory

/-! ## Writes that a transaction stages -/

namespace Table

variable {ν : Type} {t : Table ν} {tx : Handle} {ws : List (Rows.Write ν)}

theorem stagedBy_of_getElem? (h : t.staged[tx]? = some (some ws)) : t.stagedBy tx = .ok ws := by
  unfold stagedBy
  rw [h]

theorem stagedBy_of_not_open (h : ∀ ws, t.staged[tx]? ≠ some (some ws)) : t.stagedBy tx = .error .completed := by
  unfold stagedBy
  split
  · rename_i ws hws
    exact absurd hws (h ws)
  · rfl

theorem view_of_getElem? (h : t.staged[tx]? = some (some ws)) : t.view (some tx) = .ok (t.rows.writeAll ws) := by
  simp [view, stagedBy_of_getElem? h, Except.map]

theorem change_of_ok {f : Table ν → Except Error (Table ν)} {t' : Table ν} (h : f t = .ok t') :
    change f t = (.ok (), t') := by
  unfold change
  rw [h]

theorem change_of_error {f : Table ν → Except Error (Table ν)} {e : Error} (h : f t = .error e) :
    change f t = (.error e, t) := by
  unfold change
  rw [h]

/-- The table when a transaction has staged writes. -/
def stage (t : Table ν) (tx : Handle) (ws : List (Rows.Write ν)) : Table ν :=
  { t with staged := t.staged.set tx (some ws) }

theorem staged_stage (h : t.staged[tx]? = some (some ws)) (ws' : List (Rows.Write ν)) :
    (t.stage tx ws').staged[tx]? = some (some ws') :=
  List.getElem?_set_self (List.getElem?_eq_some_iff.1 h).1

/-- A transaction stages a write, unless writes of its key fail. -/
theorem write_cases (h : t.staged[tx]? = some (some ws)) (w : Rows.Write ν) :
    (∃ reason, t.write (some tx) w = .error (.infrastructure reason)) ∨
      t.write (some tx) w = .ok (t.stage tx (ws ++ [w])) := by
  unfold write
  split
  · exact .inl ⟨_, rfl⟩
  · exact .inr (by simp [stagedBy_of_getElem? h, Except.map, stage])

theorem put_cases (h : t.staged[tx]? = some (some ws)) (key : String) (row : ν) :
    (∃ reason, put (some tx) key row t = (.error (.infrastructure reason), t)) ∨
      put (some tx) key row t = (.ok (), t.stage tx (ws ++ [(key, some row)])) := by
  rcases write_cases h (key, some row) with ⟨reason, hw⟩ | hw
  · exact .inl ⟨reason, change_of_error hw⟩
  · exact .inr (change_of_ok hw)

theorem putNew_cases (h : t.staged[tx]? = some (some ws)) (key : String) (row : ν) :
    (∃ reason, putNew (some tx) key row t = (.error (.infrastructure reason), t)) ∨
      ((t.rows.writeAll ws).contains key = false ∧
        putNew (some tx) key row t = (.ok (), t.stage tx (ws ++ [(key, some row)]))) := by
  cases hc : (t.rows.writeAll ws).contains key with
  | true =>
    refine .inl ⟨s!"duplicate key value violates unique constraint: {key}", change_of_error ?_⟩
    simp [view_of_getElem? h, hc, bind, Except.bind]
  | false =>
    rcases write_cases h (key, some row) with ⟨reason, hw⟩ | hw
    · exact .inl ⟨reason, change_of_error (by simp [view_of_getElem? h, hc, bind, Except.bind, hw])⟩
    · exact .inr ⟨rfl, change_of_ok (by simp [view_of_getElem? h, hc, bind, Except.bind, hw])⟩

theorem remove_cases (h : t.staged[tx]? = some (some ws)) (key : String) :
    (∃ reason, remove (some tx) key t = (.error (.infrastructure reason), t)) ∨
      ((t.rows.writeAll ws).contains key = false ∧ remove (some tx) key t = (.ok false, t)) ∨
      ((t.rows.writeAll ws).contains key = true ∧
        remove (some tx) key t = (.ok true, t.stage tx (ws ++ [(key, none)]))) := by
  unfold remove
  rw [view_of_getElem? h]
  simp only [Except.map]
  cases hc : (t.rows.writeAll ws).contains key with
  | false => exact .inr (.inl ⟨rfl, rfl⟩)
  | true =>
    rcases write_cases h (key, none) with ⟨reason, hw⟩ | hw
    · exact .inl ⟨reason, by simp only [hw]⟩
    · exact .inr (.inr ⟨rfl, by simp only [hw]⟩)

theorem ask_of_staged {α : Type} (h : t.staged[tx]? = some (some ws)) (f : Rows ν → Except Error α) :
    ask (some tx) f t = (f (t.rows.writeAll ws), t) := by
  unfold ask
  rw [view_of_getElem? h]
  rfl

end Table

/-- The error tells of a failed publication. -/
def isPublishError : Error → Bool
  | .publish _ _ => true
  | _ => false

/-- What becomes of the rows that a transaction sees: nothing, when work fails, or one write is staged. -/
inductive StageResult {α : Type} (t : Table Post) (tx : Handle) (may : Rows Post → α → Rows.Write Post → Prop) :
    Except Error α × Table Post → Prop
  | failed {e : Error} {t' : Table Post} (he : isPublishError e = false) (hrows : t'.rows = t.rows) :
    StageResult t tx may (.error e, t')
  | staged {answer : α} {t' : Table Post} {w : Rows.Write Post} (hmay : may t.rows answer w) (hrows : t'.rows = t.rows)
      (hstaged : t'.staged[tx]? = some (some [w])) :
    StageResult t tx may (.ok answer, t')

/-- Work that, in a transaction that has staged nothing, fails or stages one write that is as it may be. -/
def Stages {α : Type} (work : Option Handle → Action (Table Post) α) (may : Rows Post → α → Rows.Write Post → Prop) :
    Prop :=
  ∀ t tx, t.staged[tx]? = some (some []) → StageResult t tx may (work (some tx) t)

namespace Posts

/-- One more transaction was committed. A commit that is made to fail is counted as well. -/
structure Committed (s s' : Posts) : Prop where
  allowed : s.failCommit = false
  counted : s'.journal.committed = s.journal.committed + 1

/-- Where nothing more is counted, nothing was committed. -/
theorem not_committed {s s' : Posts} (h : s'.journal.committed = s.journal.committed) : ¬Committed s s' := by
  rintro ⟨-, hcounted⟩
  omega

/-- The store when a transaction has begun. -/
def opened (s : Posts) : Posts :=
  { s with journal := { s.journal with begun := s.journal.begun + 1 }, table := s.table.begin.2 }

/-- Where the work of the next transaction runs. -/
def scope (s : Posts) (now : Nat) : Scope := ⟨some s.table.begin.1, s.limit.map (now + ·)⟩

theorem rows_lawful : rows.Lawful := ⟨fun _ => rfl, fun _ _ => rfl, fun _ _ _ => rfl⟩

theorem staged_opened (s : Posts) : s.opened.table.staged[s.table.begin.1]? = some (some []) :=
  List.getElem?_concat_length

section

variable {α : Type}

theorem orFail_of_true {fails : Bool} (h : fails = true) (reason : String) (a : Action Posts α) (s : Posts) :
    orFail fails reason a s = (.error (.transaction reason), s) := by
  subst h
  rfl

theorem orFail_of_false {fails : Bool} (h : fails = false) (reason : String) (a : Action Posts α) (s : Posts) :
    orFail fails reason a s = a s := by
  subst h
  rfl

end

/-- A transaction is not begun, or the table has one more, which has staged nothing. -/
theorem begin_cases (s : Posts) :
    (s.failBegin = true ∧ ∃ reason s', transactions.begin s = (.error (.transaction reason), s') ∧
      s'.table = s.table ∧ s'.journal.committed = s.journal.committed) ∨
      s.failBegin = false ∧ transactions.begin s = (.ok s.table.begin.1, s.opened) := by
  cases hf : s.failBegin with
  | true => exact .inl ⟨rfl, _, _, orFail_of_true hf _ _ _, rfl, rfl⟩
  | false => exact .inr ⟨rfl, orFail_of_false hf _ _ _⟩

/-- A rollback never changes the rows. -/
theorem rollback_cases (tx : Handle) (s : Posts) :
    ∃ result s', transactions.rollback tx s = (result, s') ∧ s'.table.rows = s.table.rows ∧
      s'.journal.committed = s.journal.committed := by
  cases hf : s.failRollback with
  | true => exact ⟨_, _, orFail_of_true hf _ _ _, rfl, rfl⟩
  | false =>
    cases hr : s.table.rollback tx with
    | error e =>
      exact ⟨_, _, (orFail_of_false hf _ _ _).trans (Part.lift_of_eq (Table.change_of_error hr)), rfl, rfl⟩
    | ok t =>
      have hrows : t.rows = s.table.rows := by
        unfold Table.rollback at hr
        cases hs : s.table.stagedBy tx with
        | error e => simp [hs, Except.map] at hr
        | ok ws =>
          simp only [hs, Except.map, Except.ok.injEq] at hr
          rw [← hr]
      exact ⟨_, _, (orFail_of_false hf _ _ _).trans (Part.lift_of_eq (Table.change_of_ok hr)), hrows, rfl⟩

/-- A commit fails and leaves the table, or makes the writes that are staged. Of an open transaction it fails only where
it is made to. -/
theorem commit_cases (tx : Handle) (s : Posts) :
    (∃ e s', transactions.commit tx s = (.error e, s') ∧ isPublishError e = false ∧ s'.table = s.table ∧
      (s.failCommit = true ∨ ∀ ws, s.table.staged[tx]? ≠ some (some ws))) ∨
      ∃ ws s', transactions.commit tx s = (.ok (), s') ∧ s.failCommit = false ∧
        s.table.staged[tx]? = some (some ws) ∧ s'.table.rows = s.table.rows.writeAll ws ∧
        s'.journal.committed = s.journal.committed + 1 := by
  cases hf : s.failCommit with
  | true => exact .inl ⟨_, _, orFail_of_true hf _ _ _, rfl, rfl, .inl rfl⟩
  | false =>
    by_cases hopen : ∃ ws, s.table.staged[tx]? = some (some ws)
    · obtain ⟨ws, hws⟩ := hopen
      have hcommit : s.table.commit tx = .ok
          { s.table with rows := s.table.rows.writeAll ws, staged := s.table.staged.set tx none } := by
        simp [Table.commit, Table.stagedBy_of_getElem? hws, Except.map]
      exact .inr ⟨ws, _, (orFail_of_false hf _ _ _).trans (Part.lift_of_eq (Table.change_of_ok hcommit)), rfl, hws, rfl,
        rfl⟩
    · have hover : s.table.commit tx = .error .completed := by
        rw [Table.commit, Table.stagedBy_of_not_open fun ws hws => hopen ⟨ws, hws⟩]
        rfl
      exact .inl ⟨_, _, (orFail_of_false hf _ _ _).trans (Part.lift_of_eq (Table.change_of_error hover)), rfl, rfl,
        .inr fun ws hws => hopen ⟨ws, hws⟩⟩

/-! ## The whole transaction -/

section

variable {ω α : Type} {p : Part ω Posts}

/-- What comes of work in a transaction of its own: the transaction is not begun, its work ends early, its commit is
refused, or it is committed, and then the rows have the writes that were staged. -/
inductive RunResult (p : Part ω Posts) (now : ω → Nat) (work : Scope → Work ω α) (w : ω) : Except Error α × ω → Prop
  | unbegun {e : Error} {s : Posts} (hbegin : (p.get w).failBegin = true) (he : isPublishError e = false)
      (htable : s.table = (p.get w).table) (hcount : s.journal.committed = (p.get w).journal.committed) :
    RunResult p now work w (.error e, p.put s w)
  | abandoned {halt : Halt} {w' : ω} {e : Error} {s : Posts} (hbegin : (p.get w).failBegin = false)
      (hwork : work ((p.get w).scope (now (p.put (p.get w).opened w))) (p.put (p.get w).opened w) = (.error halt, w'))
      (he : isPublishError (halt.error (p.get w).limit) = false → isPublishError e = false)
      (hrows : s.table.rows = (p.get w').table.rows) (hcount : s.journal.committed = (p.get w').journal.committed) :
    RunResult p now work w (.error e, p.put s w')
  | refused {answer : α} {w' : ω} {e : Error} {s : Posts} (hbegin : (p.get w).failBegin = false)
      (hwork : work ((p.get w).scope (now (p.put (p.get w).opened w))) (p.put (p.get w).opened w) = (.ok answer, w'))
      (he : isPublishError e = false) (htable : s.table = (p.get w').table)
      (hcause : (p.get w').failCommit = true ∨ ∀ ws, (p.get w').table.staged[(p.get w).table.begin.1]? ≠ some (some ws)) :
    RunResult p now work w (.error e, p.put s w')
  | committed {answer : α} {w' : ω} {ws : List (Rows.Write Post)} {s : Posts} (hbegin : (p.get w).failBegin = false)
      (hwork : work ((p.get w).scope (now (p.put (p.get w).opened w))) (p.put (p.get w).opened w) = (.ok answer, w'))
      (hcommit : (p.get w').failCommit = false)
      (hstaged : (p.get w').table.staged[(p.get w).table.begin.1]? = some (some ws))
      (hrows : s.table.rows = (p.get w').table.rows.writeAll ws)
      (hcount : s.journal.committed = (p.get w').journal.committed + 1) :
    RunResult p now work w (.ok answer, p.put s w')

theorem run_result (hp : p.Lawful) (now : ω → Nat) (work : Scope → Work ω α) (w : ω) :
    RunResult p now work w ((p.transactions now transactions).run work w) := by
  unfold Transactions.run
  rcases begin_cases (p.get w) with ⟨hfail, reason, s, hbegin, htable, hcount⟩ | ⟨hfail, hbegin⟩
  · have hw : (p.transactions now transactions).begin w = (.error (.transaction reason), p.put s w) :=
      Part.lift_of_eq hbegin
    rw [hw]
    exact .unbegun hfail rfl htable hcount
  · have hw : (p.transactions now transactions).begin w = (.ok (p.get w).table.begin.1, p.put (p.get w).opened w) :=
      Part.lift_of_eq hbegin
    have hlimit : (p.transactions now transactions).limit (p.put (p.get w).opened w) = (p.get w).limit := by
      show (p.get (p.put (p.get w).opened w)).limit = (p.get w).limit
      rw [hp.get_put]
      rfl
    rw [hw]
    simp only [hlimit]
    have hscope : (⟨some (p.get w).table.begin.1, (p.get w).limit.map
        ((p.transactions now transactions).now (p.put (p.get w).opened w) + ·)⟩ : Scope) =
          (p.get w).scope (now (p.put (p.get w).opened w)) := rfl
    rw [hscope]
    rcases hwork : work ((p.get w).scope (now (p.put (p.get w).opened w))) (p.put (p.get w).opened w) with
      ⟨halt | answer, w'⟩
    · obtain ⟨result, s, hrollback, hrows, hcount⟩ := rollback_cases (p.get w).table.begin.1 (p.get w')
      have hw' : (p.transactions now transactions).rollback (p.get w).table.begin.1 w' = (result, p.put s w') :=
        Part.lift_of_eq hrollback
      simp only [Transactions.abandon, hw']
      cases result with
      | error r => exact .abandoned hfail hwork (fun _ => rfl) hrows hcount
      | ok _ => exact .abandoned hfail hwork id hrows hcount
    · rcases commit_cases (p.get w).table.begin.1 (p.get w') with
        ⟨e, s, hcommit, he, htable, hcause⟩ | ⟨ws, s, hcommit, hallowed, hstaged, hrows, hcount⟩
      · have hw' : (p.transactions now transactions).commit (p.get w).table.begin.1 w' = (.error e, p.put s w') :=
          Part.lift_of_eq hcommit
        simp only [Transactions.finish, hw']
        exact .refused hfail hwork he htable hcause
      · have hw' : (p.transactions now transactions).commit (p.get w).table.begin.1 w' = (.ok (), p.put s w') :=
          Part.lift_of_eq hcommit
        simp only [Transactions.finish, hw']
        exact .committed hfail hwork hallowed hstaged hrows hcount

end

/-! ## One write -/

section

variable {ω α : Type} {p : Part ω Posts} {work : Option Handle → Action (Table Post) α}
  {may : Rows Post → α → Rows.Write Post → Prop}

/-- The work fails and leaves the rows, or it succeeds and its write is committed. -/
inductive WriteResult (before : Posts) (may : Rows Post → α → Rows.Write Post → Prop) : Except Error α × Posts → Prop
  | failed {e : Error} {s : Posts} (he : isPublishError e = false) (hrows : s.table.rows = before.table.rows)
      (hcommit : ¬Committed before s) : WriteResult before may (.error e, s)
  | written {answer : α} {s : Posts} {w : Rows.Write Post} (hmay : may before.table.rows answer w)
      (hrows : s.table.rows = before.table.rows.write w) (hcommit : Committed before s) :
    WriteResult before may (.ok answer, s)

/-- Work on the table, when a transaction of the larger state has begun. -/
theorem ofAction_lift (hp : p.Lawful) {a : Action (Table Post) α} {s : Posts} {r : Except Error α} {t : Table Post}
    (ha : a s.table = (r, t)) (w : ω) :
    Work.ofAction (p.lift (rows.lift a)) (p.put s w) = (r.mapError .failed, p.put { s with table := t } w) := by
  have hrows : rows.lift a (p.get (p.put s w)) = (r, { s with table := t }) := by
    rw [hp.get_put]
    exact Part.lift_of_eq ha
  have hlift : p.lift (rows.lift a) (p.put s w) = (r, p.put { s with table := t } w) := by
    rw [Part.lift_of_eq hrows, hp.put_put]
  unfold Work.ofAction
  rw [hlift]
  cases r <;> rfl

/-- Work that stages one write makes it, or fails and leaves the rows. -/
theorem atomically_result (hp : p.Lawful) (h : Stages work may) (now : ω → Nat) (w : ω) :
    ∃ result s, (p.transactions now transactions).atomically none (fun tx => p.lift (rows.lift (work tx))) w =
      (result, p.put s w) ∧ WriteResult (p.get w) may (result, s) := by
  have hrun : (p.transactions now transactions).atomically none (fun tx => p.lift (rows.lift (work tx))) w =
      (p.transactions now transactions).run (fun scope => .ofAction (p.lift (rows.lift (work scope.tx)))) w := rfl
  have hres := run_result hp now (fun scope => .ofAction (p.lift (rows.lift (work scope.tx)))) w
  have hstage := h (p.get w).opened.table _ (staged_opened (p.get w))
  rcases hwork : work (some (p.get w).table.begin.1) (p.get w).opened.table with ⟨r, t⟩
  have hlift := ofAction_lift hp hwork w
  rw [hwork] at hstage
  rw [hrun]
  generalize (p.transactions now transactions).run (fun scope => .ofAction (p.lift (rows.lift (work scope.tx)))) w =
    outcome at hres
  cases hres with
  | @unbegun e s hbegin he htable hcount =>
    exact ⟨_, s, rfl, .failed he (congrArg Table.rows htable) (not_committed hcount)⟩
  | @abandoned halt w' e s hbegin hwork' he hrows hcount =>
    obtain ⟨hr, rfl⟩ := Prod.mk.inj (hlift.symm.trans hwork')
    rw [hp.get_put] at hrows hcount
    cases hstage with
    | staged _ _ _ => nomatch hr
    | failed he' ht =>
      obtain rfl := Except.error.inj hr
      exact ⟨_, s, by rw [hp.put_put], .failed (he he') (hrows.trans ht) (not_committed hcount)⟩
  | @refused answer w' e s hbegin hwork' he htable hcause =>
    obtain ⟨hr, rfl⟩ := Prod.mk.inj (hlift.symm.trans hwork')
    rw [hp.get_put] at htable hcause
    cases hstage with
    | failed _ _ => nomatch hr
    | staged hmay ht hstaged =>
      refine ⟨_, s, by rw [hp.put_put], .failed he ((congrArg Table.rows htable).trans ht) ?_⟩
      rintro ⟨hallowed, -⟩
      rcases hcause with hfail | hover
      · nomatch hfail.symm.trans hallowed
      · exact hover _ hstaged
  | @committed answer w' ws s hbegin hwork' hallowed hstaged hrows hcount =>
    obtain ⟨hr, rfl⟩ := Prod.mk.inj (hlift.symm.trans hwork')
    rw [hp.get_put] at hallowed hstaged hrows hcount
    cases hstage with
    | failed _ _ => nomatch hr
    | @staged _ _ v hmay ht hstaged' =>
      obtain rfl := Except.ok.inj hr
      obtain rfl : ws = [v] := Option.some.inj (Option.some.inj (hstaged.symm.trans hstaged'))
      have hwritten : s.table.rows = (p.get w).table.rows.write v := by
        rw [hrows, ht]
        rfl
      exact ⟨_, s, by rw [hp.put_put], .written hmay hwritten ⟨hallowed, hcount⟩⟩

end

end Posts

end Memory

end Forum
