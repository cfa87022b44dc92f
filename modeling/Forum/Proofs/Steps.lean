import Mathlib.Tactic.Common

/-!
# Steps that may fail

A step after another succeeds just where both do (`bind_eq_ok`). Checks of the elements of a list, made one after the
other, succeed just where every element is in order, and else they fail as the check of the first element does that is
not (`forM_eq_ok_iff`, `forM_eq_error_iff`). Where only the outcome of steps matters (`outcome`), what they give does
not (`outcome_bind`).
-/

namespace Forum

variable {ε φ α β : Type}

/-! ## Steps that succeed -/

section Steps

variable {x : Except ε α}

theorem bind_eq_ok {f : α → Except ε β} {b : β} : x >>= f = .ok b ↔ ∃ a, x = .ok a ∧ f a = .ok b := by
  cases x with
  | error e => exact iff_of_false (fun h => nomatch h) fun ⟨_, h, _⟩ => nomatch h
  | ok a => exact ⟨fun h => ⟨a, rfl, h⟩, fun ⟨_, h, hf⟩ => Except.ok.inj h ▸ hf⟩

theorem map_eq_ok {f : α → β} {b : β} : x.map f = .ok b ↔ ∃ a, x = .ok a ∧ f a = b := by
  cases x with
  | error e => simp [Except.map]
  | ok a => simp [Except.map]

theorem mapError_eq_ok {f : ε → φ} {a : α} : x.mapError f = .ok a ↔ x = .ok a := by
  cases x with
  | error e => simp [Except.mapError]
  | ok a => simp [Except.mapError]

theorem mapError_eq_error {f : ε → φ} {e' : φ} : x.mapError f = .error e' ↔ ∃ e, x = .error e ∧ e' = f e := by
  cases x with
  | error e => simp [Except.mapError, eq_comm]
  | ok a => simp [Except.mapError]

end Steps

/-! ## Outcomes -/

/-- Whether a step succeeds, without what it gives. -/
def outcome (x : Except ε α) : Except ε Unit := x.map fun _ => ()

theorem outcome_eq_ok_iff {x : Except ε α} : outcome x = .ok () ↔ ∃ a, x = .ok a := by
  simp [outcome, map_eq_ok]

theorem outcome_eq_error_iff {x : Except ε α} {e : ε} : outcome x = .error e ↔ x = .error e := by
  cases x with
  | error e' => simp [outcome, Except.map]
  | ok a => simp [outcome, Except.map]

theorem outcome_bind {x : Except ε α} {f : α → Except ε β} {c : Except ε Unit} (h : ∀ a, outcome (f a) = c) :
    outcome (x >>= f) = outcome x >>= fun _ => c := by
  cases x with
  | error e => rfl
  | ok a => exact h a

/-- What a step gives can be put to use without a change of its outcome. -/
theorem outcome_bind_ok (x : Except ε α) (f : α → β) : outcome (x >>= fun a => .ok (f a)) = outcome x := by
  cases x with
  | error e => rfl
  | ok a => rfl

section Sequences

variable {δ : Type} {check : δ → Except ε Unit} {d : δ} {l m : List δ} {x : Except ε α} {f : α → Except ε β}

/-- A step with the outcome of one check goes before the other checks. -/
theorem outcome_bind_cons (hx : outcome x = check d) (h : ∀ a, outcome (f a) = l.forM check) :
    outcome (x >>= f) = (d :: l).forM check := by
  rw [outcome_bind h, hx]
  rfl

/-- A step with the outcome of some checks goes before the other checks. -/
theorem outcome_bind_append (hx : outcome x = l.forM check) (h : ∀ a, outcome (f a) = m.forM check) :
    outcome (x >>= f) = (l ++ m).forM check := by
  rw [outcome_bind h, hx, List.forM_eq_forM, List.forM_append]

end Sequences

/-! ## Checks one after the other -/

section Checks

variable {check : α → Except ε Unit} {kept : α → Prop} {l : List α} {e : ε}

/-- An element is the first of a list that is not as it has to be. -/
def FirstBroken (kept : α → Prop) (l : List α) (x : α) : Prop :=
  ∃ before after, l = before ++ x :: after ∧ (∀ y ∈ before, kept y) ∧ ¬kept x

theorem firstBroken_cons_iff {x y : α} :
    FirstBroken kept (y :: l) x ↔ (¬kept y ∧ x = y) ∨ (kept y ∧ FirstBroken kept l x) := by
  constructor
  · rintro ⟨before, after, heq, hbefore, hx⟩
    cases before with
    | nil =>
      obtain ⟨rfl, rfl⟩ := List.cons.inj heq
      exact .inl ⟨hx, rfl⟩
    | cons z before =>
      obtain ⟨rfl, rfl⟩ := List.cons.inj heq
      obtain ⟨hy, hbefore⟩ := List.forall_mem_cons.1 hbefore
      exact .inr ⟨hy, before, after, rfl, hbefore, hx⟩
  · rintro (⟨hx, rfl⟩ | ⟨hy, before, after, rfl, hbefore, hx⟩)
    · exact ⟨[], l, rfl, nofun, hx⟩
    · exact ⟨y :: before, after, rfl, List.forall_mem_cons.2 ⟨hy, hbefore⟩, hx⟩

theorem forM_eq_ok_iff (hok : ∀ x, check x = .ok () ↔ kept x) : l.forM check = .ok () ↔ ∀ x ∈ l, kept x := by
  induction l with
  | nil => exact iff_of_true rfl nofun
  | cons x l ih =>
    rw [List.forall_mem_cons, ← hok, ← ih]
    exact bind_eq_ok.trans ⟨fun ⟨_, hx, hl⟩ => ⟨hx, hl⟩, fun ⟨hx, hl⟩ => ⟨(), hx, hl⟩⟩

theorem forM_eq_error_iff (hok : ∀ x, check x = .ok () ↔ kept x) :
    l.forM check = .error e ↔ ∃ x, FirstBroken kept l x ∧ check x = .error e := by
  induction l with
  | nil => exact iff_of_false nofun fun ⟨_, ⟨before, _, heq, _⟩, _⟩ => by cases before <;> nomatch heq
  | cons y l ih =>
    have hstep : (y :: l).forM check = check y >>= fun _ => l.forM check := rfl
    simp only [firstBroken_cons_iff, hstep]
    cases hy : check y with
    | error f =>
      have hbroken : ¬kept y := fun hkept => nomatch hy.symm.trans ((hok y).2 hkept)
      constructor
      · intro h
        obtain rfl := Except.error.inj h
        exact ⟨y, .inl ⟨hbroken, rfl⟩, hy⟩
      · rintro ⟨x, ⟨-, rfl⟩ | ⟨hkept, -⟩, hx⟩
        · exact hy.symm.trans hx
        · exact absurd hkept hbroken
    | ok u =>
      have hkept : kept y := (hok y).1 hy
      refine ih.trans (exists_congr fun x => and_congr_left fun _ => ?_)
      exact ⟨fun h => .inr ⟨hkept, h⟩, fun h => h.elim (fun h => absurd hkept h.1) (·.2)⟩

end Checks

end Forum
