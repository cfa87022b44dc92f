import Forum.Proofs.Service.Part
import Forum.UnitOfWork

/-!
# Programs on a store

A program is work on the posts store as a tree: what it does next depends in any way on what its calls have answered,
and blocks inside it run within a transaction. In a scope that has a transaction already no block begins or ends one. So
there a program is its flattened form, in which each block has given way to its calls (`Program.run_of_bound`). The steps
of a unit of work are such a program (`UnitOfWork.run_eq_program`).
-/

namespace Forum

/-! ## Failures as answers -/

namespace Work

variable {σ α : Type}

/-- Work whose failure is an answer like any other. Work that is out of time still ends early. -/
def attempt (w : Work σ α) : Work σ (Except Error α) := fun s =>
  match w s with
  | (.ok answer, s) => (.ok (.ok answer), s)
  | (.error (.failed e), s) => (.ok (.error e), s)
  | (.error .outOfTime, s) => (.error .outOfTime, s)

variable {w : Work σ α} {s t : σ}

theorem attempt_of_ok {answer : α} (h : w s = (.ok answer, t)) : w.attempt s = (.ok (.ok answer), t) := by
  unfold attempt
  rw [h]

theorem attempt_of_failed {e : Error} (h : w s = (.error (.failed e), t)) : w.attempt s = (.ok (.error e), t) := by
  unfold attempt
  rw [h]

theorem attempt_of_outOfTime (h : w s = (.error .outOfTime, t)) : w.attempt s = (.error .outOfTime, t) := by
  unfold attempt
  rw [h]

theorem attempt_map {β : Type} (f : α → β) (w : Work σ α) : (f <$> w).attempt = Except.map f <$> w.attempt := by
  funext s
  rw [map_eq_pure_bind, map_eq_pure_bind]
  rcases h : w s with ⟨halt | answer, t⟩
  · cases halt with
    | failed e =>
      rw [attempt_of_failed (Action.bind_of_error h _), Action.bind_of_ok (attempt_of_failed h)]
      rfl
    | outOfTime =>
      rw [attempt_of_outOfTime (Action.bind_of_error h _), Action.bind_of_error (attempt_of_outOfTime h)]
  · rw [attempt_of_ok (Action.bind_of_ok h _), Action.bind_of_ok (attempt_of_ok h)]
    rfl

/-- An operation as work whose failure is an answer always answers. -/
theorem attempt_ofAction (a : Action σ α) (s : σ) : (ofAction a).attempt s = (.ok (a s).1, (a s).2) := by
  rcases h : a s with ⟨e | answer, t⟩
  · refine attempt_of_failed ?_
    rw [ofAction, h]
  · refine attempt_of_ok ?_
    rw [ofAction, h]

end Work

/-! ## Programs -/

/-- Work on the posts store. A call and a block go on with what they answer, or with the error they failed with. -/
inductive Program : Type → Type 1 where
  | done {α : Type} (answer : α) : Program α
  | stop {α : Type} (halt : Halt) : Program α
  | call {α : Type} (call : PostCall) (next : Except Error Answer → Program α) : Program α
  /-- A block that is to run within a transaction. -/
  | within {α β : Type} (inner : Program β) (next : Except Error β → Program α) : Program α

/-- Work on the posts store in which there are no blocks. -/
inductive Flat (α : Type) where
  | done (answer : α)
  | stop (halt : Halt)
  | call (call : PostCall) (next : Except Error Answer → Flat α)

namespace Flat

variable {α β : Type}

/-- Goes on after an answer or a failure. -/
def andThen (next : Except Error β → Flat α) : Flat β → Flat α
  | done answer => next (.ok answer)
  | stop (.failed e) => next (.error e)
  | stop .outOfTime => .stop .outOfTime
  | call c k => .call c fun answer => (k answer).andThen next

/-- Runs the calls, all as part of a transaction or all on their own. -/
def run {σ : Type} (store : PostStore σ) (tx : Option Handle) : Flat α → Work σ α
  | done answer => pure answer
  | stop halt => throw halt
  | call c next => do
    let answer ← (Work.ofAction (c.run store tx)).attempt
    (next answer).run store tx

variable {σ : Type} {store : PostStore σ} {tx : Option Handle}

theorem run_call (c : PostCall) (next : Except Error Answer → Flat α) (s : σ) :
    (call c next).run store tx s = (next (c.run store tx s).1).run store tx (c.run store tx s).2 :=
  Action.bind_of_ok (Work.attempt_ofAction _ s) _

theorem run_andThen (f : Flat β) (next : Except Error β → Flat α) :
    (f.andThen next).run store tx = (f.run store tx).attempt >>= fun answer => (next answer).run store tx := by
  induction f with
  | done answer =>
    have h : ((done answer).run store tx).attempt = pure (.ok answer) := rfl
    rw [h, pure_bind]
    rfl
  | stop halt =>
    cases halt with
    | failed e =>
      have h : ((stop (.failed e) : Flat β).run store tx).attempt = pure (.error e) := rfl
      rw [h, pure_bind]
      rfl
    | outOfTime => rfl
  | call c k ih =>
    funext s
    have hattempt : ((call c k).run store tx).attempt s =
        ((k (c.run store tx s).1).run store tx).attempt (c.run store tx s).2 := by
      unfold Work.attempt
      rw [run_call]
    rw [andThen, run_call, ih]
    rcases h : ((k (c.run store tx s).1).run store tx).attempt (c.run store tx s).2 with ⟨halt | answer, t⟩
    · rw [Action.bind_of_error h, Action.bind_of_error (hattempt.trans h)]
    · rw [Action.bind_of_ok h, Action.bind_of_ok (hattempt.trans h)]

end Flat

namespace Program

variable {σ : Type}

/-- Runs a program in a scope. -/
def run (store : PostStore σ) (t : Transactions σ) : {α : Type} → Program α → Scope → Work σ α
  | _, done answer, _ => pure answer
  | _, stop halt, _ => throw halt
  | _, call c next, scope => do
    let answer ← (Work.ofAction (c.run store scope.tx)).attempt
    (next answer).run store t scope
  | _, within inner next, scope => do
    let answer ← (t.within scope (inner.run store t)).attempt
    (next answer).run store t scope

/-- The program with the calls of each block in the place of the block. -/
def flatten : {α : Type} → Program α → Flat α
  | _, done answer => .done answer
  | _, stop halt => .stop halt
  | _, call c next => .call c fun answer => (next answer).flatten
  | _, within inner next => inner.flatten.andThen fun answer => (next answer).flatten

/-- In a scope with a transaction a program runs as its flattened form: it begins and ends nothing. -/
theorem run_of_bound {α : Type} (store : PostStore σ) (t : Transactions σ) {scope : Scope} {tx : Handle}
    (h : scope.tx = some tx) (p : Program α) : p.run store t scope = p.flatten.run store (some tx) := by
  induction p with
  | done answer => rfl
  | stop halt => rfl
  | call c next ih =>
    rw [run, flatten, Flat.run, h]
    exact congrArg _ (funext ih)
  | within inner next hinner ih =>
    rw [run, flatten, Flat.run_andThen, t.within_of_bound h, hinner]
    exact congrArg _ (funext ih)

/-! ## One after the other -/

/-- Goes on with an answer. -/
def bind {β : Type} : {α : Type} → Program α → (α → Program β) → Program β
  | _, done answer, f => f answer
  | _, stop halt, _ => .stop halt
  | _, call c next, f => .call c fun answer => (next answer).bind f
  | _, within inner next, f => .within inner fun answer => (next answer).bind f

theorem run_bind {α β : Type} (store : PostStore σ) (t : Transactions σ) (scope : Scope) (p : Program α)
    (f : α → Program β) :
    (p.bind f).run store t scope = p.run store t scope >>= fun answer => (f answer).run store t scope := by
  induction p with
  | done answer =>
    have h : (done answer).run store t scope = (pure answer : Work σ _) := rfl
    rw [h, pure_bind]
    rfl
  | stop halt => rfl
  | call c next ih =>
    rw [bind, run, run, bind_assoc]
    exact congrArg _ (funext fun answer => ih answer f)
  | within inner next _ ih =>
    rw [bind, run, run, bind_assoc]
    exact congrArg _ (funext fun answer => ih answer f)

end Program

/-! ## Transactions side by side -/

namespace Transactions

variable {σ τ α : Type}

/-- From related states, transactions are begun and ended alike, and have the same time. -/
structure Twins (P : σ → τ → Prop) (t : Transactions σ) (u : Transactions τ) : Prop where
  begin : Alike P t.begin u.begin
  commit : ∀ tx, Alike P (t.commit tx) (u.commit tx)
  rollback : ∀ tx, Alike P (t.rollback tx) (u.rollback tx)
  scope : ∀ s s', P s s' → t.limit s = u.limit s' ∧ t.now s = u.now s'

variable {P : σ → τ → Prop} {t : Transactions σ} {u : Transactions τ}

theorem Twins.finish (h : Twins P t u) (tx : Handle) (answer : α) : Alike P (t.finish tx answer) (u.finish tx answer) := by
  intro s s' hs
  obtain ⟨r, _, _, ht, hu, hafter⟩ := (h.commit tx).outcome hs
  rw [Transactions.finish, Transactions.finish, ht, hu]
  cases r with
  | error e => exact ⟨rfl, hafter⟩
  | ok _ => exact ⟨rfl, hafter⟩

theorem Twins.abandon (h : Twins P t u) (tx : Handle) (e : Error) :
    Alike P (t.abandon tx e : Action σ α) (u.abandon tx e) := by
  intro s s' hs
  obtain ⟨r, _, _, ht, hu, hafter⟩ := (h.rollback tx).outcome hs
  rw [Transactions.abandon, Transactions.abandon, ht, hu]
  cases r with
  | error r => exact ⟨rfl, hafter⟩
  | ok _ => exact ⟨rfl, hafter⟩

/-- Alike work is alike in transactions of its own. -/
theorem Twins.run (h : Twins P t u) {w : Scope → Work σ α} {v : Scope → Work τ α}
    (hwork : ∀ scope tx, scope.tx = some tx → Alike P (w scope) (v scope)) : Alike P (t.run w) (u.run v) := by
  intro s s' hs
  obtain ⟨r, s₁, s₁', ht, hu, hbegun⟩ := h.begin.outcome hs
  rw [Transactions.run, Transactions.run, ht, hu]
  cases r with
  | error e => exact ⟨rfl, hbegun⟩
  | ok tx =>
    obtain ⟨hlimit, hnow⟩ := h.scope s₁ s₁' hbegun
    simp only [hlimit, hnow]
    obtain ⟨r, s₂, s₂', hw, hv, hworked⟩ :=
      (hwork ⟨some tx, (u.limit s₁').map (u.now s₁' + ·)⟩ tx rfl).outcome hbegun
    rw [hw, hv]
    cases r with
    | ok answer => exact h.finish tx answer s₂ s₂' hworked
    | error halt => exact h.abandon tx _ s₂ s₂' hworked

end Transactions

/-! ## Units of work as programs -/

namespace UnitOfWork

/-- Goes on after a step, unless it failed and that is not handled. -/
def goOn (handled : Bool) : Except Error Outcome → Program Outcome
  | .ok outcome => .done outcome
  | .error e => if handled then .done (.failed e) else .stop (.failed e)

mutual

/-- A step as a program. A step within a transaction knows that there is one. -/
def stepProgram : Step → Program Outcome
  | .call call handled => .call call fun answer => goOn handled (answer.map .call)
  | .isBound => .done (.isBound true)
  | .fail e handled => goOn handled (.error e)
  | .pause time => .done (.paused time)
  | .nested steps handled => .within (program steps) fun answer => goOn handled (answer.map .nested)

/-- The steps of a unit of work as a program. -/
def program : List Step → Program (List Outcome)
  | [] => .done []
  | step :: steps => (stepProgram step).bind fun answer => (program steps).bind fun answers => .done (answer :: answers)

end

variable {σ α β : Type}

/-- A state with a record, and the same state without one. -/
def Bare (r : Recorded σ) (s : σ) : Prop := r.1 = s

/-- To record how a step ends, and to go on, is to go on after the same step without a record. -/
theorem alike_goOn {w : Work (Recorded σ) Outcome} {v : Work σ Outcome} (h : Alike Bare w v) (handled : Bool)
    (store : PostStore σ) (t : Transactions σ) (scope : Scope) :
    Alike Bare (recorded handled w) (v.attempt >>= fun answer => (goOn handled answer).run store t scope) := by
  rintro r _ rfl
  obtain ⟨x, ⟨s', es⟩, s'', hw, hv, hafter⟩ := h.outcome (s := r) rfl
  obtain rfl : s' = s'' := hafter
  unfold recorded
  rw [hw]
  match x with
  | .ok outcome =>
    rw [Action.bind_of_ok (Work.attempt_of_ok hv)]
    exact ⟨rfl, rfl⟩
  | .error .outOfTime =>
    rw [Action.bind_of_error (Work.attempt_of_outOfTime hv)]
    exact ⟨rfl, rfl⟩
  | .error (.failed e) =>
    rw [Action.bind_of_ok (Work.attempt_of_failed hv)]
    cases handled <;> exact ⟨rfl, rfl⟩

theorem alike_lift_bare (a : Action σ α) : Alike Bare (state.lift a) a := by
  rintro r _ rfl
  exact ⟨rfl, rfl⟩

theorem alike_unrecorded_bare (v : Work σ α) : Alike Bare (unrecorded v) v := by
  rintro r _ rfl
  exact ⟨rfl, rfl⟩

mutual

/-- A step in a scope with a transaction runs as a program. -/
theorem alike_stepProgram (store : PostStore σ) (t : Transactions σ) {scope : Scope} {tx : Handle}
    (h : scope.tx = some tx) :
    ∀ step : Step, Alike Bare (runStep ⟨store, t, fun _ _ => pure ()⟩ scope step) ((stepProgram step).run store t scope)
  | .call call handled => by
    have hcall := alike_goOn (alike_unrecorded_bare (.call <$> Work.ofAction (call.run store scope.tx))) handled
      store t scope
    rw [Work.attempt_map, bind_map_left] at hcall
    rw [runStep, stepProgram, Program.run]
    exact hcall
  | .isBound => by
    rw [runStep, h]
    exact alike_goOn (alike_unrecorded_bare (pure (.isBound true))) false store t scope
  | .fail e handled => by
    rw [runStep]
    exact alike_goOn (alike_unrecorded_bare (throw (.failed e))) handled store t scope
  | .pause time => by
    rw [runStep, map_pure]
    exact alike_goOn (alike_unrecorded_bare (pure (.paused time))) false store t scope
  | .nested steps handled => by
    have hinner := (alike_program store t h steps).map Outcome.nested
    have hnested := alike_goOn hinner handled store t scope
    rw [Work.attempt_map, bind_map_left] at hnested
    rw [runStep, stepProgram, Program.run, Transactions.within_of_bound _ h, Transactions.within_of_bound _ h]
    exact hnested

/-- The steps of a unit of work in a scope with a transaction run as a program. -/
theorem alike_program (store : PostStore σ) (t : Transactions σ) {scope : Scope} {tx : Handle}
    (h : scope.tx = some tx) :
    ∀ steps : List Step,
      Alike Bare (runSteps ⟨store, t, fun _ _ => pure ()⟩ scope steps) ((program steps).run store t scope)
  | [] => by
    rintro r _ rfl
    exact ⟨rfl, rfl⟩
  | step :: steps => by
    rw [runSteps, program, Program.run_bind]
    refine (alike_stepProgram store t h step).bind fun answer => ?_
    rw [Program.run_bind]
    exact (alike_program store t h steps).bind fun answers => by
      rintro r _ rfl
      exact ⟨rfl, rfl⟩

end

/-- The transactions of a state with a record. -/
def withRecord (t : Transactions σ) : Transactions (Recorded σ) := state.transactions (fun r => t.now r.1) t

theorem withRecord_twins (t : Transactions σ) : (withRecord t).Twins Bare t where
  begin := alike_lift_bare t.begin
  commit tx := alike_lift_bare (t.commit tx)
  rollback tx := alike_lift_bare (t.rollback tx)
  scope := by
    rintro r _ rfl
    exact ⟨rfl, rfl⟩

/-- A unit of work in a transaction of its own answers and leaves what its program does. -/
theorem run_eq_program (store : PostStore σ) (t : Transactions σ) {steps : List Step} {s s' : σ}
    {answer : Except Halt (List Outcome)} {entries : List Entry}
    (h : run ⟨store, t, fun _ _ => pure ()⟩ .unbound steps s = (answer, entries, s')) :
    t.within .unbound ((program steps).run store t) s = (answer, s') := by
  have hrun := ((withRecord_twins t).run fun scope tx hbound => alike_program store t hbound steps).ofAction
  obtain ⟨hanswer, hafter⟩ := hrun (s, []) s rfl
  have hsame : (run ⟨store, t, fun _ _ => pure ()⟩ .unbound steps s).1 =
      (t.within .unbound ((program steps).run store t) s).1 := hanswer
  have hleft : (run ⟨store, t, fun _ _ => pure ()⟩ .unbound steps s).2.2 =
      (t.within .unbound ((program steps).run store t) s).2 := hafter
  rw [h] at hsame hleft
  exact Prod.ext hsame.symm hleft.symm

end UnitOfWork

end Forum
