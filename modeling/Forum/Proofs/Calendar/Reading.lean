import Mathlib.Tactic.Common
import Mathlib.Tactic.IntervalCases
import Forum.Calendar.Format
import Forum.Calendar.Parser
import Forum.Proofs.Text.Decimal

/-!
# Reading the text of an instant

Each step of the reader takes the part of the text that was written for it and leaves the rest: numbers of a fixed
width (`twoDigits_padded`), the year with or without a sign (`year_yearText`), and the fraction of a second in any of
its four lengths (`fraction_fractionText`). Hence every instant of the calendar is read back from its text, leap
seconds and years of more than four digits included (`parse_text`).
-/

namespace Forum.Calendar

open Forum.Text

namespace Parser

/-! ## Numbers -/

theorem wordBound_eq : wordBound = 9223372036854775808 := rfl

theorem yearBound_eq : yearBound = 2147483648 := rfl

/-- What follows a number does not start with a digit. -/
def NoDigit (cs : List Char) : Prop := ∀ c rest, cs = c :: rest → Decimal.digit? c = none

/-- A text that starts with something else starts with no digit. -/
theorem noDigit_cons {c : Char} {cs : List Char} (h : Decimal.digit? c = none) : NoDigit (c :: cs) := by
  intro d rest hd
  cases hd
  exact h

/-- Digits are read up to the width, or up to what is no digit. -/
theorem digitsOnto_append {width n v : Nat} {ds rest : List Char} (h : Decimal.readOnto n ds = some v)
    (hv : v < wordBound) (hl : ds.length ≤ width) (hr : ds.length = width ∨ NoDigit rest) :
    digitsOnto width n (ds ++ rest) = .ok (v, rest) := by
  induction ds generalizing width n with
  | nil =>
    cases h
    cases width with
    | zero => rfl
    | succ width =>
      obtain hr | hr := hr
      · simp at hr
      · cases rest with
        | nil => rfl
        | cons c cs => simp [digitsOnto, hr c cs rfl]
  | cons d ds ih =>
    cases hd : Decimal.digit? d with
    | none => simp [Decimal.readOnto, hd] at h
    | some k =>
      simp only [Decimal.readOnto, hd, Option.bind_some] at h
      -- the number read so far stays below what it ends as
      have hk := Decimal.le_of_readOnto h
      cases width with
      | zero => simp at hl
      | succ width =>
        simp only [List.length_cons] at hl hr
        simp only [List.cons_append, digitsOnto, hd, if_pos (show 10 * n + k < wordBound by omega)]
        exact ih h (by omega) (hr.imp (by omega) id)

/-- A number is read up to its width, or to what is no digit. -/
theorem number_append {width v : Nat} {ds rest : List Char} (hne : ds ≠ []) (h : Decimal.readOnto 0 ds = some v)
    (hv : v < wordBound) (hl : ds.length ≤ width) (hr : ds.length = width ∨ NoDigit rest) :
    number width (ds ++ rest) = .ok (v, rest) := by
  cases ds with
  | nil => exact absurd rfl hne
  | cons d ds =>
    have hd : Decimal.isDigit d = true := by
      unfold Decimal.isDigit
      cases hk : Decimal.digit? d with
      | none => simp [Decimal.readOnto, hk] at h
      | some k => rfl
    simp only [List.cons_append, number, if_pos hd]
    exact digitsOnto_append h hv hl hr

/-! ## Blanks before a part -/

theorem trimStart_cons {c : Char} (h : isBlank c = false) (cs : List Char) : trimStart (c :: cs) = c :: cs := by
  simp [trimStart, h]

theorem isBlank_digit_of_lt : ∀ n < 10, isBlank (Decimal.digit n) = false := by decide

/-- Digits are not blank. -/
theorem isBlank_digit (n : Nat) : isBlank (Decimal.digit n) = false := by
  rw [← Decimal.digit_mod]
  exact isBlank_digit_of_lt _ (Nat.mod_lt _ (by decide))

/-- There is nothing to trim in front of digits. -/
theorem trimStart_padded (w n : Nat) (rest : List Char) :
    trimStart (Decimal.padded (w + 1) n ++ rest) = Decimal.padded (w + 1) n ++ rest := by
  obtain ⟨k, ds, h⟩ := Decimal.padded_cons w n
  rw [h]
  exact trimStart_cons (isBlank_digit k) _

/-! ## The parts of the text -/

/-- Two digits are read back as a number between the bounds. -/
theorem twoDigits_padded {low high n : Nat} (rest : List Char) (hn : n < 100) (hl : low ≤ n) (hh : n ≤ high) :
    twoDigits low high (Decimal.padded 2 n ++ rest) = .ok (n, rest) := by
  have hread := Decimal.readOnto_padded_of_lt (w := 2) (n := n) hn
  have hnum : number 2 (Decimal.padded 2 n ++ rest) = .ok (n, rest) :=
    number_append (Decimal.padded_ne_nil _ _) hread (by rw [wordBound_eq]; omega) (by simp) (.inl (by simp))
  simp [twoDigits, trimStart_padded, hnum, bind, Except.bind, hl, hh]

/-- A mark is read where it stands. -/
theorem mark_cons {m : Char} (h : isBlank m = false) (rest : List Char) : mark m (m :: rest) = .ok ((), rest) := by
  simp [mark, trimStart_cons h]

theorem separator_cons (rest : List Char) : separator ('T' :: rest) = .ok ((), rest) := rfl

theorem offset_zulu : offset ['Z'] = .ok (0, []) := rfl

/-! ## Years -/

/-- The digits of a year without its sign. -/
def yearDigits (n : Nat) : List Char := if n < 10000 then Decimal.padded 4 n else Decimal.digits n

/-- A year has a sign where it is negative or has more than four digits. -/
theorem yearText_eq (y : Int) : yearText y =
    if y < 0 then '-' :: yearDigits y.natAbs
    else if y ≤ 9999 then yearDigits y.natAbs
    else '+' :: yearDigits y.natAbs := rfl

/-- The digits of a year mean the year. -/
theorem readOnto_yearDigits (n : Nat) : Decimal.readOnto 0 (yearDigits n) = some n := by
  unfold yearDigits
  split
  · rename_i h
    exact Decimal.readOnto_padded_of_lt h
  · exact Decimal.readOnto_digits n

theorem yearDigits_ne_nil (n : Nat) : yearDigits n ≠ [] := by
  unfold yearDigits
  split
  · exact Decimal.padded_ne_nil _ _
  · exact Decimal.digits_ne_nil n

/-- With a sign as many digits are read as there are. -/
theorem number_yearDigits {n : Nat} (hn : n < wordBound) {rest : List Char} (hr : NoDigit rest) :
    number (yearDigits n ++ rest).length (yearDigits n ++ rest) = .ok (n, rest) :=
  number_append (yearDigits_ne_nil n) (readOnto_yearDigits n) hn (by simp) (.inr hr)

theorem digit_not_sign_of_lt : ∀ n < 10, Decimal.digit n ≠ '-' ∧ Decimal.digit n ≠ '+' := by decide

/-- A digit is no sign. -/
theorem digit_not_sign (n : Nat) : Decimal.digit n ≠ '-' ∧ Decimal.digit n ≠ '+' := by
  rw [← Decimal.digit_mod]
  exact digit_not_sign_of_lt _ (Nat.mod_lt _ (by decide))

/-- Without a sign four digits are read. -/
theorem year_unsigned {n : Nat} (hn : n < 10000) (rest : List Char) :
    year (Decimal.padded 4 n ++ rest) = .ok ((n : Int), rest) := by
  have hread := Decimal.readOnto_padded_of_lt (w := 4) (n := n) hn
  have hnum : number 4 (Decimal.padded 4 n ++ rest) = .ok (n, rest) :=
    number_append (Decimal.padded_ne_nil _ _) hread (by rw [wordBound_eq]; omega) (by simp) (.inl (by simp))
  unfold year
  rw [trimStart_padded]
  obtain ⟨k, ds, hk⟩ := Decimal.padded_cons 3 n
  obtain ⟨hm, hp⟩ := digit_not_sign k
  have hbound := yearBound_eq
  split
  · rename_i heq
    rw [hk, List.cons_append] at heq
    exact absurd (List.cons.inj heq).1 hm
  · rename_i heq
    rw [hk, List.cons_append] at heq
    exact absurd (List.cons.inj heq).1 hp
  · simp only [hnum, Except.map, bind, Except.bind]
    rw [if_pos (by omega)]

/-- A year of the calendar is read back from its text. -/
theorem year_yearText {y : Int} (hl : minYear ≤ y) (hh : y ≤ maxYear) {rest : List Char} (hr : NoDigit rest) :
    year (yearText y ++ rest) = .ok (y, rest) := by
  unfold minYear at hl
  unfold maxYear at hh
  have hn : y.natAbs < wordBound := by rw [wordBound_eq]; omega
  have hnum := number_yearDigits hn hr
  have hbound := yearBound_eq
  rw [yearText_eq]
  by_cases hneg : y < 0
  · simp only [if_pos hneg, year, List.cons_append, trimStart_cons (show isBlank '-' = false by rfl), hnum, Except.map,
      bind, Except.bind]
    rw [if_pos (by omega)]
    congr 2
    omega
  · by_cases hfour : y ≤ 9999
    · simp only [if_neg hneg, if_pos hfour]
      unfold yearDigits
      rw [if_pos (by omega), year_unsigned (by omega)]
      congr 2
      omega
    · simp only [if_neg hneg, if_neg hfour, year, List.cons_append, trimStart_cons (show isBlank '+' = false by rfl),
        hnum, Except.map, bind, Except.bind]
      rw [if_pos (by omega)]
      congr 2
      omega

/-! ## The fraction of a second -/

/-- A point with digits, all of which count. -/
theorem fraction_padded {w n : Nat} (hw : 0 < w) (hw9 : w ≤ 9) (hn : n < 10 ^ w) {rest : List Char} (hr : NoDigit rest) :
    fraction ('.' :: (Decimal.padded w n ++ rest)) = .ok (n * 10 ^ (9 - w), rest) := by
  obtain ⟨w, rfl⟩ : ∃ v, w = v + 1 := ⟨w - 1, by omega⟩
  have hbound : n < wordBound := by
    have := Nat.pow_le_pow_right (show 0 < 10 by decide) hw9
    rw [wordBound_eq]
    omega
  have hnum : number 9 (Decimal.padded (w + 1) n ++ rest) = .ok (n, rest) :=
    number_append (Decimal.padded_ne_nil _ _) (Decimal.readOnto_padded_of_lt hn) hbound (by simpa using hw9) (.inr hr)
  have hrest : rest.dropWhile Decimal.isDigit = rest := by
    cases rest with
    | nil => rfl
    | cons c cs => simp [Decimal.isDigit, hr c cs rfl]
  simp [fraction, hnum, bind, Except.bind, hrest]

/-- The fraction of a second is read back from its digits; there may be none. -/
theorem fraction_fractionText {nano : Nat} (h : nano < nanosPerSecond) (rest : List Char) :
    fraction (fractionText nano ++ 'Z' :: rest) = .ok (nano, 'Z' :: rest) := by
  unfold nanosPerSecond at h
  have hr : NoDigit ('Z' :: rest) := noDigit_cons rfl
  unfold fractionText
  split
  · rename_i h0
    subst h0
    rfl
  · split
    · rw [List.cons_append, fraction_padded (by decide) (by decide) (by omega) hr]
      congr 2
      omega
    · split
      · rw [List.cons_append, fraction_padded (by decide) (by decide) (by omega) hr]
        congr 2
        omega
      · rw [List.cons_append, fraction_padded (by decide) (by decide) (by omega) hr]
        congr 2
        omega

/-! ## All parts -/

/-- The fields that stand in the text of an instant. A leap second stands as the sixtieth. -/
def fieldsOf (t : Instant) : Fields where
  year := t.date.year
  month := t.date.month
  day := t.date.day
  hour := t.second / 3600
  minute := t.second / 60 % 60
  second := t.second % 60 + t.nano / nanosPerSecond
  nano := t.nano % nanosPerSecond
  offset := 0

/-- The months of a day of the calendar. -/
theorem month_bounds (d : Date) : 1 ≤ d.month ∧ d.month ≤ 12 := by
  obtain ⟨year, month, day, hl, hh, hp, hd⟩ := d
  simp only
  by_contra hm
  have h0 : daysIn year month = 0 := by
    unfold daysIn
    split <;> omega
  omega

/-- No month has more than 31 days. -/
theorem daysIn_le (year : Int) (month : Nat) : daysIn year month ≤ 31 := by
  have hf : (if isLeap year then 29 else 28) ≤ 31 := by split <;> decide
  unfold daysIn
  split <;> first | exact hf | decide

/-- More nanoseconds than a second has are those of the last second of a minute. -/
theorem nano_div (t : Instant) : t.nano / nanosPerSecond = 0 ∨ (t.nano / nanosPerSecond = 1 ∧ t.second % 60 = 59) := by
  have := t.nano_lt
  unfold nanosPerSecond at *
  omega

/-- The fields of an instant are read from its text. -/
theorem fields_chars (t : Instant) : fields t.chars = .ok (fieldsOf t, []) := by
  have hm := month_bounds t.date
  have hd1 := t.date.day_pos
  have hd2 := Nat.le_trans t.date.day_le (daysIn_le _ _)
  have hs := t.second_lt
  unfold secondsPerDay at hs
  have hn := nano_div t
  have hnano : t.nano % nanosPerSecond < nanosPerSecond := Nat.mod_lt _ (by decide)
  have hdash : isBlank '-' = false := rfl
  have hcolon : isBlank ':' = false := rfl
  unfold Instant.chars Date.text Instant.timeText
  simp only [List.append_assoc, List.cons_append]
  unfold fields
  rw [year_yearText t.date.year_ge t.date.year_le (noDigit_cons rfl)]
  simp only [bind, Except.bind, mark_cons hdash]
  rw [twoDigits_padded _ (by omega) hm.1 hm.2]
  simp only [mark_cons hdash]
  rw [twoDigits_padded _ (by omega) hd1 hd2]
  simp only [separator_cons]
  rw [twoDigits_padded _ (by omega) (by omega) (by omega)]
  simp only [mark_cons hcolon]
  rw [twoDigits_padded _ (by omega) (by omega) (by omega)]
  simp only [mark_cons hcolon]
  rw [twoDigits_padded _ (by omega) (by omega) (by omega)]
  simp only
  rw [fraction_fractionText hnano]
  simp only [trimStart_cons (show isBlank 'Z' = false by rfl), offset_zulu]
  rfl

/-- A day of the calendar is found again under its year, month and day. -/
theorem date_of? (d : Date) : Date.of? d.year d.month d.day = some d :=
  dif_pos ⟨d.year_ge, d.year_le, d.day_pos, d.day_le⟩

/-- An instant is in range. -/
theorem instant_of? (t : Instant) : Instant.of? t.date t.second t.nano = some t := dif_pos ⟨t.second_lt, t.nano_lt⟩

/-- A clock without an offset shows the instant itself. -/
theorem ofLocal?_zero (t : Instant) : Instant.ofLocal? t.date t.second t.nano 0 = some t := by
  have hs := t.second_lt
  unfold Instant.ofLocal?
  simp only [Int.sub_zero]
  rw [if_neg (by omega), if_pos (by exact_mod_cast hs), Int.toNat_natCast, instant_of?]

/-- The fields of an instant mean the instant. -/
theorem instant_fieldsOf (t : Instant) : (fieldsOf t).instant = .ok t := by
  have hsec : t.second / 3600 * 3600 + t.second / 60 % 60 * 60 + min (t.second % 60 + t.nano / nanosPerSecond) 59 =
      t.second := by
    have := nano_div t
    omega
  have hoff : (0 : Int).natAbs < secondsPerDay := by decide
  rcases nano_div t with h | ⟨h, h59⟩
  · have hne : ¬t.second % 60 + t.nano / nanosPerSecond = 60 := by omega
    have hnano : t.nano % nanosPerSecond = t.nano := by
      unfold nanosPerSecond at *
      omega
    simp only [Fields.instant, fieldsOf, hsec, if_neg hne, hnano, date_of?, if_pos hoff, ofLocal?_zero]
  · -- a leap second is written as the sixtieth and read as the last one with a billion nanoseconds more
    have heq : t.second % 60 + t.nano / nanosPerSecond = 60 := by omega
    have hnano : nanosPerSecond + t.nano % nanosPerSecond = t.nano := by
      unfold nanosPerSecond at *
      omega
    simp only [Fields.instant, fieldsOf, hsec, if_pos heq, hnano, date_of?, if_pos hoff, ofLocal?_zero]

end Parser

/-- An instant is read back from its characters. -/
theorem Instant.parseChars_chars (t : Instant) : parseChars t.chars = .ok t := by
  simp [parseChars, Parser.fields_chars, bind, Except.bind, trimStart, Parser.instant_fieldsOf]

/-- An instant is read back from its text. -/
theorem Instant.parse_text (t : Instant) : parse t.text = .ok t := by
  rw [parse, text, String.toList_ofList, parseChars_chars]

end Forum.Calendar
