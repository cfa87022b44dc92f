import Forum.Proofs.Service.Agreement
import Forum.UnitOfWork

/-!
# Units of work are atomic

A transaction sees the rows with the writes that it has staged. So a call within it answers as the same call does on a
table on which these writes were made already, where it takes effect at once (`Table.Ahead.agree`); and the rows that all
others see stay as they are. The same holds of steps and of lists of steps, at any depth (`Posts.alike_step`,
`Posts.alike_steps`). When the unit is committed, the staged writes are made in their order, and the rows are those that
it saw last (`Posts.unit_atomic`).
-/

namespace Forum

namespace Memory

/-! ## Calls within a transaction -/

namespace Table

variable {ν : Type} {t q : Table ν} {tx : Handle} {rows : Rows ν}

/-- The first table has the rows. The second one is ahead of it by the writes that a transaction has staged there. -/
structure Ahead (tx : Handle) (rows : Rows ν) (t q : Table ν) : Prop where
  kept : t.rows = rows
  staged : ∃ ws, t.staged[tx]? = some (some ws) ∧ q.rows = rows.writeAll ws
  failing : q.failing = t.failing

/-- The transaction sees the rows of the table that is ahead. -/
theorem Ahead.view (h : Ahead tx rows t q) : t.view (some tx) = .ok q.rows := by
  obtain ⟨ws, hws, hrows⟩ := h.staged
  rw [view_of_getElem? hws, h.kept, hrows]

/-- Both tables refuse a write, or it is staged in one and made in the other. -/
theorem Ahead.write (h : Ahead tx rows t q) (w : Rows.Write ν) :
    (∃ e, t.write (some tx) w = .error e ∧ q.write none w = .error e) ∨
      ∃ t' q', t.write (some tx) w = .ok t' ∧ q.write none w = .ok q' ∧ Ahead tx rows t' q' := by
  obtain ⟨ws, hws, hrows⟩ := h.staged
  have hfails : q.failing.contains w.1 = t.failing.contains w.1 := by rw [h.failing]
  unfold Table.write
  rw [hfails]
  split
  · exact .inl ⟨_, rfl, rfl⟩
  · refine .inr ⟨t.stage tx (ws ++ [w]), { q with rows := q.rows.write w }, ?_, rfl, ⟨h.kept, ?_, h.failing⟩⟩
    · simp [stagedBy_of_getElem? hws, Except.map, stage]
    · refine ⟨ws ++ [w], staged_stage hws _, ?_⟩
      show q.rows.write w = rows.writeAll (ws ++ [w])
      rw [hrows, Rows.writeAll, Rows.writeAll, List.foldl_append]
      rfl

/-- The transaction agrees with no transaction on the table that is ahead. -/
theorem Ahead.agree (tx : Handle) (rows : Rows ν) : Agree (Ahead tx rows) (some tx) none :=
  ⟨fun h => h.view, fun h w => h.write w⟩

end Table

/-! ## Steps within a transaction -/

namespace Posts

open UnitOfWork

/-- The store in which every write takes effect at once, also those of a transaction. -/
def atOnce : PostStore Posts where
  create _ := store.create none
  update _ := store.update none
  delete _ := store.delete none
  page _ := store.page none
  find _ := store.find none
  ofUser _ := store.ofUser none

/-- What units of work run on. A pause leaves the store alone, and ends in time or not. -/
def setting (pause : Option Nat → Nat → Except Halt Unit) : Setting Posts :=
  ⟨store, transactions, fun deadline time s => (pause deadline time, s)⟩

/-- The same, where every write takes effect at once. -/
def settingAtOnce (pause : Option Nat → Nat → Except Halt Unit) : Setting Posts :=
  { setting pause with store := atOnce }

variable {α : Type} {tx : Handle} {s : Posts} {r q : Recorded Posts} {pause : Option Nat → Nat → Except Halt Unit}
  {scope : Scope} {steps : List Step}

theorem run_atOnce (c : PostCall) (tx : Option Handle) : c.run atOnce tx = rows.lift (c.run tableStore none) := by
  cases c <;> exact (Part.lift_map rows_lawful _ _).symm

/-- The first store differs from `s` in its table only, and it shows the same rows. The table of the second one is ahead
of it. -/
structure Beside (tx : Handle) (s t q : Posts) : Prop where
  others : t = { s with table := t.table }
  tables : Table.Ahead tx s.table.rows t.table q.table

/-- Two stores side by side, with the same records. -/
structure Abreast (tx : Handle) (s : Posts) (r q : Recorded Posts) : Prop where
  stores : Beside tx s r.1 q.1
  records : q.2 = r.2

theorem alike_lift {a b : Action (Table Post) α} (h : Alike (Table.Ahead tx s.table.rows) a b) :
    Alike (Beside tx s) (rows.lift a) (rows.lift b) := by
  intro t q hst
  obtain ⟨hanswer, hafter⟩ := h t.table q.table hst.tables
  refine ⟨hanswer, ?_, hafter⟩
  show { t with table := (a t.table).2 } = { s with table := (a t.table).2 }
  rw [hst.others]

theorem alike_unrecorded {a b : Work Posts α} (h : Alike (Beside tx s) a b) :
    Alike (Abreast tx s) (unrecorded a) (unrecorded b) := by
  intro r q hrq
  obtain ⟨hanswer, hafter⟩ := h r.1 q.1 hrq.stores
  exact ⟨hanswer, hafter, hrq.records⟩

theorem alike_recorded {a b : Work (Recorded Posts) Outcome} (h : Alike (Abreast tx s) a b) (handled : Bool) :
    Alike (Abreast tx s) (recorded handled a) (recorded handled b) := by
  intro r q hrq
  obtain ⟨x, ⟨t, es⟩, ⟨t', es'⟩, ha, hb, hstores, hrecords⟩ := h.outcome hrq
  obtain rfl : es' = es := hrecords
  unfold recorded
  rw [ha, hb]
  match x with
  | .ok answer => exact ⟨rfl, hstores, rfl⟩
  | .error .outOfTime => exact ⟨rfl, hstores, rfl⟩
  | .error (.failed e) => exact ⟨rfl, hstores, rfl⟩

mutual

/-- A step within the transaction answers as it does where writes take effect at once. -/
theorem alike_step (pause : Option Nat → Nat → Except Halt Unit) (s : Posts) (h : scope.tx = some tx) :
    ∀ step : Step, Alike (Abreast tx s) (runStep (setting pause) scope step) (runStep (settingAtOnce pause) scope step)
  | .call call handled => by
    have hcall : Alike (Beside tx s) (call.run store scope.tx) (call.run atOnce scope.tx) := by
      rw [run_store, run_atOnce, h]
      exact alike_lift (Table.alike_call (Table.Ahead.agree tx s.table.rows) call)
    exact alike_recorded (alike_unrecorded (hcall.ofAction.map .call)) handled
  | .isBound => alike_recorded (alike_pure _) false
  | .fail e handled => alike_recorded (alike_throw _) handled
  | .pause time => by
    have hpause : Alike (Beside tx s) ((setting pause).pause scope.deadline time)
        ((settingAtOnce pause).pause scope.deadline time) := fun _ _ hst => ⟨rfl, hst⟩
    exact alike_recorded (alike_unrecorded (hpause.map _)) false
  | .nested steps handled => by
    rw [runStep, runStep, Transactions.within_of_bound _ h, Transactions.within_of_bound _ h]
    exact alike_recorded ((alike_steps pause s h steps).map .nested) handled

/-- Steps within the transaction answer as they do where writes take effect at once. -/
theorem alike_steps (pause : Option Nat → Nat → Except Halt Unit) (s : Posts) (h : scope.tx = some tx) :
    ∀ steps : List Step,
      Alike (Abreast tx s) (runSteps (setting pause) scope steps) (runSteps (settingAtOnce pause) scope steps)
  | [] => alike_pure []
  | step :: steps =>
    (alike_step pause s h step).bind fun _ => (alike_steps pause s h steps).bind fun _ => alike_pure _

end

/-! ## What others see -/

/-- The states that steps within a transaction pass: where a step begins and where the steps end, at any depth. -/
inductive Passes (setting : Setting Posts) (scope : Scope) : List Step → Recorded Posts → Recorded Posts → Prop
  | start (steps : List Step) (r : Recorded Posts) : Passes setting scope steps r r
  | finish (steps : List Step) (r : Recorded Posts) : Passes setting scope steps r (runSteps setting scope steps r).2
  | inside {inner steps : List Step} {handled : Bool} {r q : Recorded Posts} (h : Passes setting scope inner r q) :
    Passes setting scope (.nested inner handled :: steps) r q
  | later {step : Step} {steps : List Step} {answer : Outcome} {r r' q : Recorded Posts}
      (hstep : runStep setting scope step r = (.ok answer, r')) (h : Passes setting scope steps r' q) :
    Passes setting scope (step :: steps) r q

/-- The store is beside one on which the writes of an open transaction were made already. -/
theorem exists_abreast {ws : List (Rows.Write Post)} (h : r.1.table.staged[tx]? = some (some ws)) :
    ∃ q, Abreast tx r.1 r q :=
  ⟨({ r.1 with table := { r.1.table with rows := r.1.table.rows.writeAll ws } }, r.2),
    ⟨rfl, rfl, ⟨ws, h, rfl⟩, rfl⟩, rfl⟩

/-- Work that is alike in both stores leaves the rows of an open transaction, and the transaction open. -/
theorem rows_of_alike {a b : Work (Recorded Posts) α} (h : Alike (Abreast tx r.1) a b) {ws : List (Rows.Write Post)}
    (hopen : r.1.table.staged[tx]? = some (some ws)) :
    (a r).2.1.table.rows = r.1.table.rows ∧ ∃ ws, (a r).2.1.table.staged[tx]? = some (some ws) := by
  obtain ⟨q, hq⟩ := exists_abreast hopen
  obtain ⟨-, hafter⟩ := h r q hq
  obtain ⟨ws', hws', -⟩ := hafter.stores.tables.staged
  exact ⟨hafter.stores.tables.kept, ws', hws'⟩

/-- Steps within a transaction never change the rows that others see. -/
theorem Passes.rows_eq (h : Passes (setting pause) scope steps r q) (htx : scope.tx = some tx)
    {ws : List (Rows.Write Post)} (hopen : r.1.table.staged[tx]? = some (some ws)) :
    q.1.table.rows = r.1.table.rows := by
  induction h generalizing ws with
  | start steps r => rfl
  | finish steps r => exact (rows_of_alike (alike_steps pause r.1 htx steps) hopen).1
  | inside _ ih => exact ih hopen
  | @later step steps answer r r' q hstep _ ih =>
    have hstay := rows_of_alike (alike_step pause r.1 htx step) hopen
    rw [hstep] at hstay
    obtain ⟨hrows, ws', hopen'⟩ := hstay
    exact (ih hopen').trans hrows

/-! ## The whole unit -/

/-- What comes of a unit of work. It is committed, and then the rows are those that it saw last, which are the rows from
before with the writes that it staged, and those that its steps leave where every write takes effect at once. Or it
fails, and then the rows are those from before. -/
inductive UnitResult (pause : Option Nat → Nat → Except Halt Unit) (steps : List Step) (s : Posts) :
    Except Halt (List Outcome) × List Entry × Posts → Prop
  | committed {answers : List Outcome} {entries : List Entry} {s' t p : Posts} {ws : List (Rows.Write Post)}
      (hbegin : s.failBegin = false) (hcommit : s.failCommit = false)
      (hwork : runSteps (setting pause) (s.scope 0) steps (s.opened, []) = (.ok answers, t, entries.reverse))
      (hseen : t.table.view (some s.table.begin.1) = .ok s'.table.rows)
      (hstaged : t.table.stagedBy s.table.begin.1 = .ok ws) (hwrites : s'.table.rows = s.table.rows.writeAll ws)
      (honce : runSteps (settingAtOnce pause) (s.scope 0) steps (s, []) = (.ok answers, p, entries.reverse))
      (hsame : s'.table.rows = p.table.rows) :
    UnitResult pause steps s (.ok answers, entries, s')
  | failed {e : Error} {entries : List Entry} {s' : Posts} (hrows : s'.table.rows = s.table.rows)
      (hcause : s.failBegin = true ∨ s.failCommit = true ∨
        ∃ halt p record, runSteps (settingAtOnce pause) (s.scope 0) steps (s, []) = (.error halt, p, record)) :
    UnitResult pause steps s (.error (.failed e), entries, s')

/-- The work of a unit, when its transaction has begun, answers and records what it does where every write takes effect
at once, and ends with the store beside that one. -/
theorem beside_of_work {result : Except Halt (List Outcome)}
    (hwork : runSteps (setting pause) (s.scope 0) steps (s.opened, []) = (result, r)) :
    ∃ p, runSteps (settingAtOnce pause) (s.scope 0) steps (s, []) = (result, p, r.2) ∧
      Beside s.table.begin.1 s.opened r.1 p := by
  have hstart : Abreast s.table.begin.1 s.opened (s.opened, []) (s, []) :=
    ⟨⟨rfl, rfl, ⟨[], staged_opened s, rfl⟩, rfl⟩, rfl⟩
  have hbound : (s.scope 0).tx = some s.table.begin.1 := rfl
  obtain ⟨hanswer, hstores, hrecords⟩ := alike_steps pause s.opened hbound steps _ _ hstart
  rcases honce : runSteps (settingAtOnce pause) (s.scope 0) steps (s, []) with ⟨result', p, record⟩
  rw [hwork, honce] at hanswer hstores hrecords
  obtain rfl : result = result' := hanswer
  obtain rfl : record = r.2 := hrecords
  exact ⟨p, rfl, hstores⟩

theorem Beside.failCommit_eq {t p : Posts} (h : Beside tx s t p) : t.failCommit = s.failCommit := by
  rw [h.others]

theorem unit_committed {answers : List Outcome} {ws : List (Rows.Write Post)} {s' : Posts}
    (hbegin : s.failBegin = false)
    (hwork : runSteps (setting pause) (s.scope 0) steps (s.opened, []) = (.ok answers, r))
    (hcommit : r.1.failCommit = false) (hstaged : r.1.table.staged[s.table.begin.1]? = some (some ws))
    (hrows : s'.table.rows = r.1.table.rows.writeAll ws) :
    UnitResult pause steps s (.ok answers, r.2.reverse, s') := by
  obtain ⟨p, honce, hbeside⟩ := beside_of_work hwork
  obtain ⟨ws', hws', hahead⟩ := hbeside.tables.staged
  obtain rfl : ws' = ws := Option.some.inj (Option.some.inj (hws'.symm.trans hstaged))
  have hwrites : s'.table.rows = s.table.rows.writeAll ws' := by
    rw [hrows, hbeside.tables.kept]
    rfl
  have hseen : r.1.table.view (some s.table.begin.1) = .ok s'.table.rows := by
    rw [Table.view_of_getElem? hstaged, hrows]
  have hrecord : r.2.reverse.reverse = r.2 := List.reverse_reverse r.2
  exact .committed hbegin (hbeside.failCommit_eq.symm.trans hcommit) (t := r.1) (p := p) (hrecord.symm ▸ hwork) hseen
    (Table.stagedBy_of_getElem? hstaged) hwrites (hrecord.symm ▸ honce) (hwrites.trans hahead.symm)

theorem state_lawful : (state : Part (Recorded Posts) Posts).Lawful := ⟨fun _ => rfl, fun _ _ => rfl, fun _ _ _ => rfl⟩

theorem unit_result (pause : Option Nat → Nat → Except Halt Unit) (steps : List Step) (s : Posts) :
    UnitResult pause steps s (UnitOfWork.run (setting pause) .unbound steps s) := by
  have hrun : UnitOfWork.run (setting pause) .unbound steps s =
      match Work.ofAction ((state.transactions (fun r => transactions.now r.1) transactions).run fun scope =>
        runSteps (setting pause) scope steps) (s, []) with
      | (answer, s, entries) => (answer, entries.reverse, s) := rfl
  have hres := run_result state_lawful (fun r => transactions.now r.1)
    (fun scope => runSteps (setting pause) scope steps) (s, [])
  rw [hrun, Work.ofAction]
  generalize (state.transactions (fun r => transactions.now r.1) transactions).run
    (fun scope => runSteps (setting pause) scope steps) (s, []) = outcome at hres
  cases hres with
  | unbegun hbegin _ htable _ => exact .failed (congrArg Table.rows htable) (.inl hbegin)
  | abandoned _ hwork _ hrows _ =>
    obtain ⟨p, honce, hbeside⟩ := beside_of_work hwork
    exact .failed (hrows.trans hbeside.tables.kept) (.inr (.inr ⟨_, p, _, honce⟩))
  | refused _ hwork _ htable hcause =>
    obtain ⟨p, honce, hbeside⟩ := beside_of_work hwork
    refine .failed ((congrArg Table.rows htable).trans hbeside.tables.kept) (.inr (.inl ?_))
    rcases hcause with hfail | hover
    · exact hbeside.failCommit_eq.symm.trans hfail
    · obtain ⟨ws, hws, -⟩ := hbeside.tables.staged
      exact absurd hws (hover ws)
  | @committed answers r ws s' hbegin hwork hcommit hstaged hrows _ =>
    have hdone : UnitResult pause steps s (.ok answers, r.2.reverse, s') :=
      unit_committed hbegin hwork hcommit hstaged hrows
    exact hdone

/-- A unit of work that runs in a transaction of its own is committed as a whole or leaves the rows as they are, and
until it is committed all others see the rows from before. -/
theorem unit_atomic (pause : Option Nat → Nat → Except Halt Unit) (steps : List Step) (s : Posts) :
    UnitResult pause steps s (UnitOfWork.run (setting pause) .unbound steps s) ∧
      ∀ q, Passes (setting pause) (s.scope 0) steps (s.opened, []) q → q.1.table.rows = s.table.rows :=
  ⟨unit_result pause steps s, fun _ h => h.rows_eq rfl (staged_opened s)⟩

end Posts

end Memory

end Forum
