import Mathlib.Tactic.Common
import Mathlib.Tactic.Ring
import Forum.Text.Decimal

/-!
# Reading decimal digits

Digits that were written are read back as their number: the digits of a number without leading zeros
(`readOnto_digits`), and the last digits of a number with them (`readOnto_padded`).

What is read as a number is its numeral, with or without a plus sign, and every numeral of a number below the bound is
read (`parseBelow_eq_some_iff`).
-/

namespace Forum.Text.Decimal

/-! ## Digits -/

theorem digit?_digit_of_lt : ∀ n < 10, digit? (digit n) = some n := by decide

theorem digit_mod (n : Nat) : digit (n % 10) = digit n := by simp [digit]

theorem digit?_digit (n : Nat) : digit? (digit n) = some (n % 10) := by
  rw [← digit_mod]
  exact digit?_digit_of_lt _ (Nat.mod_lt _ (by decide))

/-! ## Numbers -/

theorem readOnto_append (n : Nat) (cs ds : List Char) :
    readOnto n (cs ++ ds) = (readOnto n cs).bind fun m => readOnto m ds := by
  induction cs generalizing n with
  | nil => rfl
  | cons c cs ih =>
    cases hd : digit? c with
    | none => simp [readOnto, hd]
    | some d => simp [readOnto, hd, ih]

theorem readOnto_snoc {n m d : Nat} {cs : List Char} (h : readOnto n cs = some m) :
    readOnto n (cs ++ [digit d]) = some (10 * m + d % 10) := by
  rw [readOnto_append, h]
  simp [readOnto, digit?_digit]

theorem readOnto_padded (n w m : Nat) : readOnto n (padded w m) = some (n * 10 ^ w + m % 10 ^ w) := by
  induction w generalizing m with
  | zero => simp [padded, readOnto, Nat.mod_one]
  | succ w ih =>
    have hm : m % 10 ^ (w + 1) = 10 * (m / 10 % 10 ^ w) + m % 10 := by
      rw [Nat.pow_succ', Nat.mod_mul]
      omega
    rw [padded, readOnto_snoc (ih (m / 10)), hm]
    congr 1
    ring

/-- A number of at most as many digits is read back whole. -/
theorem readOnto_padded_of_lt {w n : Nat} (h : n < 10 ^ w) : readOnto 0 (padded w n) = some n := by
  rw [readOnto_padded, Nat.zero_mul, Nat.zero_add, Nat.mod_eq_of_lt h]

theorem readOnto_digits (m : Nat) : readOnto 0 (digits m) = some m := by
  fun_induction digits m with
  | case1 m h => simp [readOnto, digit?_digit, Nat.mod_eq_of_lt h]
  | case2 m h ih =>
    rw [readOnto_snoc ih]
    congr 1
    omega

/-- Reading digits does not make a number smaller. -/
theorem le_of_readOnto {n v : Nat} {cs : List Char} (h : readOnto n cs = some v) : n ≤ v := by
  induction cs generalizing n with
  | nil => cases h; exact Nat.le_refl _
  | cons c cs ih =>
    cases hd : digit? c with
    | none => simp [readOnto, hd] at h
    | some d =>
      simp only [readOnto, hd, Option.bind_some] at h
      have := ih h
      omega

@[simp] theorem length_padded (w n : Nat) : (padded w n).length = w := by
  induction w generalizing n with
  | zero => rfl
  | succ w ih => simp [padded, ih]

/-- Digits start with a digit. -/
theorem padded_cons (w n : Nat) : ∃ k ds, padded (w + 1) n = digit k :: ds := by
  induction w generalizing n with
  | zero => exact ⟨n, [], rfl⟩
  | succ w ih =>
    obtain ⟨k, ds, h⟩ := ih (n / 10)
    exact ⟨k, ds ++ [digit n], by rw [padded, h]; rfl⟩

theorem digits_ne_nil (n : Nat) : digits n ≠ [] := by
  rw [digits]
  split <;> simp

theorem padded_ne_nil (w n : Nat) : padded (w + 1) n ≠ [] := by simp [padded]

/-! ## Numerals -/

/-- The number that a row of digits goes on to, after the number so far. -/
def valueOnto (n : Nat) (ds : List Char) : Nat := ds.foldl (fun n d => 10 * n + (d.toNat - '0'.toNat)) n

/-- Digits, one or more, of a number. -/
def Digits (ds : List Char) (n : Nat) : Prop := ds ≠ [] ∧ (∀ d ∈ ds, '0' ≤ d ∧ d ≤ '9') ∧ valueOnto 0 ds = n

/-- The text writes a number in digits, with or without a plus sign. -/
def Numeral (cs : List Char) (n : Nat) : Prop := ∃ ds, (cs = ds ∨ cs = '+' :: ds) ∧ Digits ds n

theorem readOnto_eq_some_iff {m n : Nat} {cs : List Char} :
    readOnto m cs = some n ↔ (∀ d ∈ cs, '0' ≤ d ∧ d ≤ '9') ∧ valueOnto m cs = n := by
  induction cs generalizing m with
  | nil => simp [readOnto, valueOnto]
  | cons c cs ih =>
    by_cases hc : '0' ≤ c ∧ c ≤ '9'
    · rw [readOnto, digit?, if_pos hc, Option.bind_some, ih, List.forall_mem_cons, and_iff_right hc]
      rfl
    · refine iff_of_false ?_ fun h => hc (List.forall_mem_cons.1 h.1).1
      simp [readOnto, digit?, if_neg hc]

theorem ofDigits?_eq_some_iff {n : Nat} {cs : List Char} : ofDigits? cs = some n ↔ Digits cs n := by
  cases cs with
  | nil => simp [ofDigits?, Digits]
  | cons c cs => simp [ofDigits?, Digits, readOnto_eq_some_iff]

theorem Digits.mem {ds : List Char} {n : Nat} (h : Digits ds n) {c : Char} (hc : c ∈ ds) : '0' ≤ c ∧ c ≤ '9' := h.2.1 c hc

theorem not_digits_plus {cs : List Char} {n : Nat} : ¬Digits ('+' :: cs) n := fun h =>
  absurd (h.mem List.mem_cons_self) (by decide)

/-- A numeral has digits and plus signs only. -/
theorem Numeral.mem {cs : List Char} {n : Nat} (h : Numeral cs n) {c : Char} (hc : c ∈ cs) :
    c = '+' ∨ '0' ≤ c ∧ c ≤ '9' := by
  obtain ⟨ds, rfl | rfl, hds⟩ := h
  · exact .inr (hds.mem hc)
  · exact (List.mem_cons.1 hc).imp_right hds.mem

theorem parseBelow_eq_some_iff {bound n : Nat} {cs : List Char} :
    parseBelow bound cs = some n ↔ Numeral cs n ∧ n < bound := by
  unfold parseBelow
  rw [Option.filter_eq_some_iff, ofDigits?_eq_some_iff, decide_eq_true_iff]
  refine and_congr_left fun _ => ?_
  split
  · constructor
    · exact fun h => ⟨_, .inr rfl, h⟩
    · rintro ⟨ds, rfl | heq, hds⟩
      · exact absurd hds not_digits_plus
      · cases heq
        exact hds
  · rename_i hplus
    constructor
    · exact fun h => ⟨_, .inl rfl, h⟩
    · rintro ⟨ds, rfl | rfl, hds⟩
      · exact hds
      · exact absurd rfl (hplus ds)

end Forum.Text.Decimal
