import Mathlib.Order.Defs.Unbundled
import Mathlib.Tactic.Common
import Forum.Transaction

/-!
# Work on states and their parts

Two operations are alike (`Alike`) where from related states they answer the same and leave related states. That is kept
when operations are put one after the other (`Alike.bind`).

A lifted step does to its part what it does on its own (`Part.lift_of_eq`), and steps that are lifted one by one are the
lifted sequence of the steps (`Part.lift_bind`). So what a store does inside a larger state is known from what it does on
its own.
-/

namespace Forum

variable {ω σ α β : Type}

/-! ## Operations one after the other -/

namespace Action

variable {ε : Type} {a : ExceptT ε (StateM σ) α} {s t : σ}

/-- After an operation that succeeds comes what follows it. -/
theorem bind_of_ok {x : α} (h : a s = (.ok x, t)) (f : α → ExceptT ε (StateM σ) β) : (a >>= f) s = f x t := by
  show ExceptT.bindCont f (a s).1 (a s).2 = _
  rw [h]
  rfl

/-- After an operation that fails nothing comes. -/
theorem bind_of_error {e : ε} (h : a s = (.error e, t)) (f : α → ExceptT ε (StateM σ) β) :
    (a >>= f) s = (.error e, t) := by
  show ExceptT.bindCont f (a s).1 (a s).2 = _
  rw [h]
  rfl

theorem map_of_ok {x : α} (h : a s = (.ok x, t)) (f : α → β) : (f <$> a) s = (.ok (f x), t) := by
  rw [map_eq_pure_bind, bind_of_ok h]
  rfl

/-- An operation that fails has no answer to be made something of. -/
theorem map_of_error {e : ε} (h : a s = (.error e, t)) (f : α → β) : (f <$> a) s = (.error e, t) := by
  rw [map_eq_pure_bind, bind_of_error h]

theorem map_of_eq {r : Except ε α} (h : a s = (r, t)) (f : α → β) : (f <$> a) s = (f <$> r, t) := by
  cases r with
  | ok x => exact map_of_ok h f
  | error e => exact map_of_error h f

/-- What is made of the answer does not matter to the state. -/
theorem map_snd (a : ExceptT ε (StateM σ) α) (f : α → β) (s : σ) : ((f <$> a) s).2 = (a s).2 := by
  rcases ha : a s with ⟨e | x, t⟩
  · rw [map_of_error ha]
  · rw [map_of_ok ha]

/-- Operations that succeed and leave the state, one after the other. -/
theorem mapM_of_ok {f : α → ExceptT ε (StateM σ) β} {g : α → β} {xs : List α} (h : ∀ x ∈ xs, f x s = (.ok (g x), s)) :
    xs.mapM f s = (.ok (xs.map g), s) := by
  induction xs with
  | nil => rfl
  | cons x xs ih =>
    obtain ⟨hx, hxs⟩ := List.forall_mem_cons.1 h
    rw [List.mapM_cons, bind_of_ok hx, bind_of_ok (ih hxs)]
    rfl

end Action

/-- Within a transaction, work that is to run within one stays in it. -/
theorem Transactions.within_of_bound (t : Transactions σ) {scope : Scope} {tx : Handle} (h : scope.tx = some tx)
    (work : Scope → Work σ α) : t.within scope work = work scope := by
  unfold within
  rw [h]

/-- Once its transaction has begun, work ends with it. -/
theorem Transactions.atomically_of_begin {t : Transactions σ} {s s' : σ} {tx : Handle} (hbegin : t.begin s = (.ok tx, s'))
    (work : Option Handle → Action σ α) :
    t.atomically none work s =
      match work (some tx) s' with
      | (.ok x, s') => t.finish tx x s'
      | (.error e, s') => t.abandon tx e s' := by
  unfold atomically run Work.ofAction
  simp only [hbegin]
  rcases work (some tx) s' with ⟨e | x, t⟩ <;> rfl

/-- Where no transaction begins, the work is not done. -/
theorem Transactions.atomically_of_unbegun {t : Transactions σ} {s s' : σ} {e : Error}
    (hbegin : t.begin s = (.error e, s')) (work : Option Handle → Action σ α) :
    t.atomically none work s = (.error e, s') := by
  unfold atomically run
  simp only [hbegin]

/-! ## Before and after -/

section

variable {ε : Type} {R : σ → σ → Prop}

/-- The state that an operation leaves is related to the one that it found. -/
def Keeps (R : σ → σ → Prop) (a : ExceptT ε (StateM σ) α) : Prop := ∀ s, R s (a s).2

/-- What is made of the answer does not matter to what is kept. -/
theorem Keeps.map {a : ExceptT ε (StateM σ) α} (h : Keeps R a) (f : α → β) : Keeps R (f <$> a) := by
  intro s
  rw [Action.map_snd]
  exact h s

/-- An operation keeps as part of some work what it keeps on its own. -/
theorem Keeps.ofAction {a : Action σ α} (h : Keeps R a) : Keeps R (Work.ofAction a) := by
  intro s
  have hs := h s
  unfold Work.ofAction
  rcases ha : a s with ⟨e | x, s'⟩
  · rw [ha] at hs
    exact hs
  · rw [ha] at hs
    exact hs

variable [IsPreorder σ R]

theorem keeps_pure (x : α) : Keeps R (pure x : ExceptT ε (StateM σ) α) := refl_of R

theorem keeps_throw (e : ε) : Keeps R (throw e : ExceptT ε (StateM σ) α) := refl_of R

/-- What two operations keep, they keep one after the other. -/
theorem Keeps.bind {a : ExceptT ε (StateM σ) α} {f : α → ExceptT ε (StateM σ) β} (h : Keeps R a)
    (hf : ∀ x, Keeps R (f x)) : Keeps R (a >>= f) := by
  intro s
  have hs := h s
  rcases ha : a s with ⟨e | x, s'⟩
  · rw [ha] at hs
    rw [Action.bind_of_error ha]
    exact hs
  · rw [ha] at hs
    rw [Action.bind_of_ok ha]
    exact trans_of R hs (hf x s')

end

/-! ## Operations side by side -/

section

variable {ε τ : Type} {P : σ → τ → Prop}

/-- From related states two operations answer alike and leave related states. -/
def Alike (P : σ → τ → Prop) (a : ExceptT ε (StateM σ) α) (b : ExceptT ε (StateM τ) α) : Prop :=
  ∀ s t, P s t → (a s).1 = (b t).1 ∧ P (a s).2 (b t).2

/-- What alike operations answer, and the states that they leave. -/
theorem Alike.outcome {a : ExceptT ε (StateM σ) α} {b : ExceptT ε (StateM τ) α} (h : Alike P a b) {s : σ} {t : τ}
    (hst : P s t) : ∃ r s' t', a s = (r, s') ∧ b t = (r, t') ∧ P s' t' := by
  obtain ⟨hanswer, hafter⟩ := h s t hst
  exact ⟨(a s).1, (a s).2, (b t).2, rfl, Prod.ext hanswer.symm rfl, hafter⟩

theorem alike_pure (x : α) : Alike P (pure x : ExceptT ε (StateM σ) α) (pure x) := fun _ _ h => ⟨rfl, h⟩

theorem alike_throw (e : ε) : Alike P (throw e : ExceptT ε (StateM σ) α) (throw e) := fun _ _ h => ⟨rfl, h⟩

/-- Operations that are alike, one after the other. -/
theorem Alike.bind {a : ExceptT ε (StateM σ) α} {b : ExceptT ε (StateM τ) α} {f : α → ExceptT ε (StateM σ) β}
    {g : α → ExceptT ε (StateM τ) β} (h : Alike P a b) (hf : ∀ x, Alike P (f x) (g x)) :
    Alike P (a >>= f) (b >>= g) := by
  intro s t hst
  obtain ⟨r, s', t', ha, hb, hafter⟩ := h.outcome hst
  cases r with
  | error e =>
    rw [Action.bind_of_error ha, Action.bind_of_error hb]
    exact ⟨rfl, hafter⟩
  | ok x =>
    rw [Action.bind_of_ok ha, Action.bind_of_ok hb]
    exact hf x s' t' hafter

/-- The same is made of answers that are alike. -/
theorem Alike.map {a : ExceptT ε (StateM σ) α} {b : ExceptT ε (StateM τ) α} (h : Alike P a b) (f : α → β) :
    Alike P (f <$> a) (f <$> b) := by
  rw [map_eq_pure_bind, map_eq_pure_bind]
  exact h.bind fun x => alike_pure (f x)

/-- Operations that are alike are so as parts of some work. -/
theorem Alike.ofAction {a : Action σ α} {b : Action τ α} (h : Alike P a b) :
    Alike P (Work.ofAction a) (Work.ofAction b) := by
  intro s t hst
  obtain ⟨r, s', t', ha, hb, hafter⟩ := h.outcome hst
  unfold Work.ofAction
  rw [ha, hb]
  cases r with
  | error e => exact ⟨rfl, hafter⟩
  | ok x => exact ⟨rfl, hafter⟩

end

namespace Part

/-! ## Lawful parts -/

/-- What is put into a part is there, and nothing else changes. -/
structure Lawful (p : Part ω σ) : Prop where
  put_get : ∀ w, p.put (p.get w) w = w
  get_put : ∀ s w, p.get (p.put s w) = s
  put_put : ∀ s t w, p.put t (p.put s w) = p.put t w

variable {p : Part ω σ}

/-- On the whole an operation answers as on the part, and changes the part. -/
theorem lift_of_eq {a : Action σ α} {w : ω} {r : Except Error α} {s : σ} (h : a (p.get w) = (r, s)) :
    p.lift a w = (r, p.put s w) := by
  show ((a (p.get w)).1, p.put (a (p.get w)).2 w) = _
  rw [h]

/-- An operation on a part that only answers. -/
theorem lift_pure (hp : p.Lawful) (x : α) : p.lift (pure x) = (pure x : Action ω α) := by
  funext w
  show (Except.ok x, p.put (p.get w) w) = (Except.ok x, w)
  rw [hp.put_get]

/-- An operation on a part that only fails. -/
theorem lift_throw (hp : p.Lawful) (e : Error) : p.lift (throw e) = (throw e : Action ω α) := by
  funext w
  show (Except.error e, p.put (p.get w) w) = (Except.error e, w)
  rw [hp.put_get]

/-- Operations on a part, one after the other. -/
theorem lift_bind (hp : p.Lawful) (a : Action σ α) (f : α → Action σ β) :
    p.lift (a >>= f) = p.lift a >>= fun x => p.lift (f x) := by
  funext w
  rcases ha : a (p.get w) with ⟨e | x, s⟩
  · rw [Action.bind_of_error (lift_of_eq ha), lift_of_eq (Action.bind_of_error ha f)]
  · rw [Action.bind_of_ok (lift_of_eq ha)]
    have hx : f x (p.get (p.put s w)) = f x s := by rw [hp.get_put]
    rw [lift_of_eq (Action.bind_of_ok ha f), lift_of_eq hx, hp.put_put]

/-- The answer of an operation on a part. -/
theorem lift_map (hp : p.Lawful) (f : α → β) (a : Action σ α) : p.lift (f <$> a) = f <$> p.lift a := by
  rw [map_eq_pure_bind, map_eq_pure_bind, lift_bind hp]
  exact congrArg _ (funext fun x => lift_pure hp (f x))

/-! ## Transactions of a part -/

/-- A transaction of a part is finished as one of the whole. -/
theorem finish_lift (p : Part ω σ) (now : ω → Nat) (t : Transactions σ) (tx : Handle) (x : α) :
    (p.transactions now t).finish tx x = p.lift (t.finish tx x) := by
  funext w
  rcases h : t.commit tx (p.get w) with ⟨r, s⟩
  have hwhole : (p.transactions now t).commit tx w = (r, p.put s w) := lift_of_eq h
  have hfinish : t.finish tx x (p.get w) = (r.map fun _ => x, s) := by
    unfold Transactions.finish
    rw [h]
    cases r <;> rfl
  rw [lift_of_eq hfinish, Transactions.finish, hwhole]
  cases r <;> rfl

/-- A transaction of a part is abandoned as one of the whole. -/
theorem abandon_lift (p : Part ω σ) (now : ω → Nat) (t : Transactions σ) (tx : Handle) (e : Error) :
    ((p.transactions now t).abandon tx e : Action ω α) = p.lift (t.abandon tx e) := by
  funext w
  rcases h : t.rollback tx (p.get w) with ⟨r, s⟩
  have hwhole : (p.transactions now t).rollback tx w = (r, p.put s w) := lift_of_eq h
  cases r with
  | error e' =>
    have habandon : (t.abandon tx e : Action σ α) (p.get w) = (.error (.rollbackFailed e e'.message), s) := by
      rw [Transactions.abandon, h]
    rw [lift_of_eq habandon, Transactions.abandon, hwhole]
  | ok _ =>
    have habandon : (t.abandon tx e : Action σ α) (p.get w) = (.error e, s) := by
      rw [Transactions.abandon, h]
    rw [lift_of_eq habandon, Transactions.abandon, hwhole]

/-- Work on a part in a transaction of the whole is work in a transaction of the part. -/
theorem atomically_lift (hp : p.Lawful) (now : ω → Nat) (t : Transactions σ) (work : Option Handle → Action σ α) :
    (p.transactions now t).atomically none (fun tx => p.lift (work tx)) = p.lift (t.atomically none work) := by
  have lift_put {β : Type} {a : Action σ β} {s s' : σ} {r : Except Error β} (h : a s = (r, s')) (w : ω) :
      p.lift a (p.put s w) = (r, p.put s' w) := by
    rw [lift_of_eq (r := r) (s := s') (by rw [hp.get_put, h]), hp.put_put]
  funext w
  rcases hbegin : t.begin (p.get w) with ⟨e | tx, s⟩
  · have hwhole : (p.transactions now t).begin w = (.error e, p.put s w) := lift_of_eq hbegin
    rw [Transactions.atomically_of_unbegun hwhole, lift_of_eq (Transactions.atomically_of_unbegun hbegin work)]
  · have hwhole : (p.transactions now t).begin w = (.ok tx, p.put s w) := lift_of_eq hbegin
    have hpart := Transactions.atomically_of_begin hbegin work
    rw [Transactions.atomically_of_begin hwhole]
    rcases hwork : work (some tx) s with ⟨e | x, s'⟩
    · rw [hwork] at hpart
      rw [lift_put hwork, lift_of_eq hpart]
      simp only [abandon_lift]
      rw [lift_put (a := t.abandon tx e) rfl]
    · rw [hwork] at hpart
      rw [lift_put hwork, lift_of_eq hpart]
      simp only [finish_lift]
      rw [lift_put (a := t.finish tx x) rfl]

end Part

end Forum
