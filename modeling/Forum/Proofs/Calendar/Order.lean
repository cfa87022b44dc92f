import Mathlib.Tactic.Common
import Forum.Calendar.Instant

/-!
# The order of time

Days are compared by year, month and day, and instants by day, second and nanosecond, so both are ordered: of two that
compare as equal neither is before the other and they are the same.
-/

namespace Forum.Calendar

open Std

theorem Date.ext {a b : Date} (hyear : a.year = b.year) (hmonth : a.month = b.month) (hday : a.day = b.day) : a = b := by
  cases a
  cases b
  simp only at hyear hmonth hday
  subst hyear hmonth hday
  rfl

theorem Instant.ext {a b : Instant} (hdate : a.date = b.date) (hsecond : a.second = b.second) (hnano : a.nano = b.nano) :
    a = b := by
  cases a
  cases b
  simp only at hdate hsecond hnano
  subst hdate hsecond hnano
  rfl

/-! ## Days -/

instance : Ord Date := ⟨Date.compare⟩

instance : TransOrd Date :=
  inferInstanceAs (TransCmp (compareLex (compareOn Date.year) (compareLex (compareOn Date.month) (compareOn Date.day))))

instance : LawfulEqOrd Date where
  eq_of_compare {a b} h := by
    change a.compare b = .eq at h
    unfold Date.compare at h
    simp only [Ordering.then_eq_eq, Std.compare_eq_iff_eq] at h
    exact Date.ext h.1 h.2.1 h.2.2

/-! ## Instants -/

instance : Ord Instant := ⟨Instant.compare⟩

instance : TransOrd Instant :=
  inferInstanceAs (TransCmp (compareLex (compareOn Instant.date)
    (compareLex (compareOn Instant.second) (compareOn Instant.nano))))

instance : LawfulEqOrd Instant where
  eq_of_compare {a b} h := by
    change a.compare b = .eq at h
    unfold Instant.compare at h
    simp only [Ordering.then_eq_eq, Std.compare_eq_iff_eq] at h
    exact Instant.ext (LawfulEqOrd.eq_of_compare h.1) h.2.1 h.2.2

end Forum.Calendar
