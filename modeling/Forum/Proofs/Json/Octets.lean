import Mathlib.Data.List.TakeWhile
import Forum.Proofs.Codec

/-!
# Octets that no JSON text holds

A control that is no space (`Alien`) is never part of a JSON text: between tokens the readers refuse it, and so they do
inside of strings, words and numbers. `Heeds` says of a reader that it takes no such octet, `HeedsAt` says so where the
next octet is known; readers are put together from readers that heed. The readers of strings and numbers take octets
before they look at them, but then they do not succeed (`stringStep_doomed`). Hence what is read whole holds no such
octet (`alien_not_mem`), the octet 0 among them.
-/

namespace Forum.Json.Reader

open Text

variable {α β : Type}

/-- An octet that may not stand in a JSON text: a control that is no space. -/
def Alien (b : UInt8) : Prop := b < 32 ∧ Cursor.isSpace b = false

instance : DecidablePred Alien := fun b => inferInstanceAs (Decidable (b < 32 ∧ Cursor.isSpace b = false))

theorem Alien.ne {b c : UInt8} (hb : Alien b) (hc : ¬Alien c) : b ≠ c := fun h => hc (h ▸ hb)

/-! ## Readers that take no alien octet -/

/-- No alien octet was taken on the way from one cursor to another: those ahead of the first are ahead of the second. -/
def Clean (c d : Cursor) : Prop := ∀ b, Alien b → b ∈ c.rest → b ∈ d.rest

theorem Clean.refl (c : Cursor) : Clean c c := fun _ _ h => h

/-- What takes no alien octet in two parts takes none in all. -/
theorem Clean.trans {c d e : Cursor} (h : Clean c d) (h' : Clean d e) : Clean c e :=
  fun b hb hmem => h' b hb (h b hb hmem)

/-- A reader takes no alien octet. -/
def Heeds (r : Reader α) : Prop := ∀ c a d, r c = .ok (a, d) → Clean c d

/-- A reader takes no alien octet where the next octet is the given one, or there is none. -/
def HeedsAt (next : Option UInt8) (r : Reader α) : Prop := ∀ c a d, c.peek? = next → r c = .ok (a, d) → Clean c d

/-- A reader never succeeds. -/
def Fails (r : Reader α) : Prop := ∀ c p, r c ≠ .ok p

/-- The next octet, if there is one, is not alien. -/
def Ordinary (next : Option UInt8) : Prop := ∀ b, next = some b → ¬Alien b

theorem ordinary_some {b : UInt8} (h : ¬Alien b) : Ordinary (some b) := by
  intro c hc
  cases hc
  exact h

/-- Two readers succeed, one after the other, where the second does so from where the first one stopped. -/
theorem bind_eq_ok {r : Reader α} {f : α → Reader β} {c : Cursor} {p : β × Cursor} :
    (r >>= f) c = .ok p ↔ ∃ a d, r c = .ok (a, d) ∧ f a d = .ok p := by
  refine Forum.bind_eq_ok.trans ⟨?_, ?_⟩
  · rintro ⟨⟨a, d⟩, h, hf⟩
    exact ⟨a, d, h, hf⟩
  · rintro ⟨a, d, h, hf⟩
    exact ⟨(a, d), h, hf⟩

/-- A reader that takes no alien octet takes none wherever it starts. -/
theorem Heeds.at {r : Reader α} (h : Heeds r) (next : Option UInt8) : HeedsAt next r := fun c a d _ hr => h c a d hr

/-- A reader that never succeeds takes nothing. -/
theorem Fails.heeds {r : Reader α} (h : Fails r) : Heeds r := fun c _ _ hr => absurd hr (h c _)

theorem heeds_pure (a : α) : Heeds (pure a : Reader α) := by
  intro c b d h
  cases h
  exact Clean.refl c

/-- Only the first of two readers needs to know which octet is next. -/
theorem HeedsAt.bind {next : Option UInt8} {r : Reader α} {f : α → Reader β} (hr : HeedsAt next r)
    (hf : ∀ a, Heeds (f a)) : HeedsAt next (r >>= f) := by
  intro c b d hc h
  obtain ⟨a, e, h, h'⟩ := bind_eq_ok.1 h
  exact (hr c a e hc h).trans (hf a e b d h')

/-- Readers that take no alien octet, one after the other. -/
theorem Heeds.bind {r : Reader α} {f : α → Reader β} (hr : Heeds r) (hf : ∀ a, Heeds (f a)) : Heeds (r >>= f) :=
  fun c b d h => (hr.at c.peek?).bind hf c b d rfl h

theorem fails_here (cause : Cause) : Fails (failHere cause : Reader α) := fun _ _ h => nomatch h

theorem fails_next (cause : Cause) : Fails (failNext cause : Reader α) := fun _ _ h => nomatch h

/-- Nothing is read after a reader that never succeeds. -/
theorem Fails.bind {r : Reader α} (h : Fails r) (f : α → Reader β) : Fails (r >>= f) := by
  intro c p hr
  obtain ⟨a, d, hr, -⟩ := bind_eq_ok.1 hr
  exact h c _ hr

/-- A reader that is always followed by failure never succeeds. -/
theorem fails_bind (r : Reader α) {f : α → Reader β} (h : ∀ a, Fails (f a)) : Fails (r >>= f) := by
  intro c p hr
  obtain ⟨a, d, -, hf⟩ := bind_eq_ok.1 hr
  exact h a d p hf

/-! ## Single octets -/

/-- One octet is taken, and it is not alien. -/
theorem clean_advance {c : Cursor} (h : Ordinary c.peek?) : Clean c c.advance := by
  intro b hb hmem
  obtain ⟨rest, line, column⟩ := c
  cases rest with
  | nil => exact hmem
  | cons d rest =>
    rcases List.mem_cons.1 hmem with rfl | hmem
    · exact absurd hb (h b rfl)
    · exact hmem

/-- Spaces are skipped, and no space is alien. -/
theorem clean_skipFrom (bs : List UInt8) (line column : Nat) :
    Clean ⟨bs, line, column⟩ (Cursor.skipFrom bs line column) := by
  induction bs generalizing line column with
  | nil => exact Clean.refl _
  | cons b bs ih =>
    rw [Cursor.skipFrom]
    split
    · rename_i hspace
      intro a ha hmem
      rcases List.mem_cons.1 hmem with rfl | hmem
      · exact absurd hspace (Bool.eq_false_iff.1 ha.2)
      · exact ih _ _ a ha hmem
    · exact Clean.refl _

/-- An octet that is known not to be alien may be skipped. -/
theorem heedsAt_skip {next : Option UInt8} (h : Ordinary next) : HeedsAt next skip := by
  intro c a d hc hr
  cases hr
  exact clean_advance (hc ▸ h)

/-- The next octet is taken where it is the expected one. -/
theorem heedsAt_take {b c : UInt8} {f : Unit → Reader α} {r : Reader α} (hc : ¬Alien c) (hf : ∀ u, Heeds (f u))
    (hr : HeedsAt (some b) r) : HeedsAt (some b) (if b = c then skip >>= f else r) := by
  split
  · rename_i hb
    exact (heedsAt_skip (ordinary_some (hb ▸ hc))).bind hf
  · exact hr

/-- The next octet is taken where it is the expected one, and reading is over then. -/
theorem heedsAt_takeLast {b c : UInt8} {r : Reader Unit} (hc : ¬Alien c) (hr : HeedsAt (some b) r) :
    HeedsAt (some b) (if b = c then skip else r) := by
  split
  · rename_i hb
    exact heedsAt_skip (ordinary_some (hb ▸ hc))
  · exact hr

/-- The next octet is taken if it is of some kind, and passed over otherwise. -/
theorem heedsAt_optional {next : Option UInt8} {p : Prop} [Decidable p] {r : Reader α} (hp : p → Ordinary next)
    (hr : Heeds r) : HeedsAt next (if p then skip >>= fun _ => r else r) := by
  split
  · rename_i h
    exact (heedsAt_skip (hp h)).bind fun _ => hr
  · exact hr.at next

theorem heedsAt_pure (next : Option UInt8) (a : α) : HeedsAt next (pure a : Reader α) := (heeds_pure a).at next

theorem heedsAt_fail (next : Option UInt8) (cause : Cause) : HeedsAt next (failNext cause : Reader α) :=
  (fails_next cause).heeds.at next

/-- The token that is looked at is the first one. -/
theorem first_of_token {c d : Cursor} {next : Option UInt8} (h : token? c = .ok (next, d)) :
    next = c.skipSpace.peek? := by
  cases h
  rfl

/-- The token that is looked at is the next octet. -/
theorem next_of_token {c d : Cursor} {next : Option UInt8} (h : token? c = .ok (next, d)) : next = d.peek? := by
  cases h
  rfl

/-- A look at the next octet says where the reader is that follows. -/
theorem heeds_peek {f : Option UInt8 → Reader α} (h : ∀ next, HeedsAt next (f next)) : Heeds (peek? >>= f) := by
  intro c a d hr
  obtain ⟨_, _, hpeek, hr⟩ := bind_eq_ok.1 hr
  cases hpeek
  exact h _ c a d rfl hr

/-- A look at the next token skips spaces only, and says where the reader is that follows. -/
theorem heeds_token {f : Option UInt8 → Reader α} (h : ∀ next, HeedsAt next (f next)) : Heeds (token? >>= f) := by
  intro c a d hr
  obtain ⟨_, _, htoken, hr⟩ := bind_eq_ok.1 hr
  cases htoken
  exact (clean_skipFrom _ _ _).trans (h _ c.skipSpace a d rfl hr)

/-- An octet that is taken before it is looked at: the reader goes on only if it is not alien. -/
theorem heeds_next {f : Option UInt8 → Reader α} (h : ∀ next, Ordinary next → Heeds (f next))
    (hfail : ∀ b, Alien b → Fails (f (some b))) : Heeds (next? >>= f) := by
  intro c a d hr
  obtain ⟨_, _, hnext, hr⟩ := bind_eq_ok.1 hr
  cases hnext
  by_cases ho : Ordinary c.peek?
  · exact (clean_advance ho).trans (h _ ho _ _ _ hr)
  · simp only [Ordinary, not_forall, not_not] at ho
    obtain ⟨b, hb, halien⟩ := ho
    rw [hb] at hr
    exact absurd hr (hfail b halien _ _)

/-! ## Strings -/

theorem Alien.toNat_lt {b : UInt8} (h : Alien b) : b.toNat < 32 := h.1

/-- An alien octet is no hexadecimal digit. -/
theorem hexValue?_alien {b : UInt8} (h : Alien b) : hexValue? b = none := by
  have hb := h.toNat_lt
  have hlow {c : Char} (hc : 32 ≤ (octet c).toNat) : ¬octet c ≤ b := by
    intro hle
    have : (octet c).toNat ≤ b.toNat := hle
    omega
  unfold hexValue?
  rw [if_neg fun h => hlow (by decide) h.1, if_neg fun h => hlow (by decide) h.1, if_neg fun h => hlow (by decide) h.1]

/-- Octets with an alien one among them are no hexadecimal number. -/
theorem hexNumber?_alien {bs : List UInt8} (h : ∃ b ∈ bs, Alien b) : hexNumber? bs = none := by
  induction bs with
  | nil => exact absurd h (by simp)
  | cons b bs ih =>
    rw [hexNumber?]
    by_cases hb : Alien b
    · cases hexNumber? bs with
      | none => rfl
      | some n => simp [hexValue?_alien hb]
    · have hbs : ∃ b ∈ bs, Alien b := by simpa [hb] using h
      rw [ih hbs]
      rfl

/-- An alien octet is nothing that can be escaped. -/
theorem escaped?_alien {b : UInt8} (h : Alien b) : escaped? b = none := by
  have hne (c : Char) (hc : ¬Alien (octet c)) : b ≠ octet c := h.ne hc
  unfold escaped?
  rw [if_neg, if_neg (hne 'b' (by decide)), if_neg (hne 'f' (by decide)), if_neg (hne 'n' (by decide)),
    if_neg (hne 'r' (by decide)), if_neg (hne 't' (by decide))]
  rintro (hb | hb | hb)
  · exact hne '"' (by decide) hb
  · exact hne '\\' (by decide) hb
  · exact hne '/' (by decide) hb

/-- The reader of a string took an alien octet for a digit, which it finds out at the fourth one. -/
def Doomed : StringMode → Prop
  | .unit _ digits => ∃ b ∈ digits, Alien b
  | _ => False

/-- With an alien octet the reader of a string fails, at once or later. -/
theorem stringStep_doomed {mode : StringMode} {content : List UInt8} {b : UInt8}
    {next : Option (StringMode × List UInt8)} (h : Alien b ∨ Doomed mode)
    (hs : stringStep mode content b = .ok next) : ∃ mode' content', next = some (mode', content') ∧ Doomed mode' := by
  cases mode with
  | plain =>
    have hb : Alien b := h.resolve_right id
    have hq : b ≠ octet '"' := hb.ne (by decide)
    have hslash : b ≠ octet '\\' := hb.ne (by decide)
    simp [stringStep, hq, hslash, hb.1] at hs
  | escape =>
    have hb : Alien b := h.resolve_right id
    have hu : b ≠ octet 'u' := hb.ne (by decide)
    simp [stringStep, hu, escaped?_alien hb] at hs
  | unit high digits =>
    have hdigits : ∃ a ∈ b :: digits, Alien a := by
      rcases h with hb | ⟨a, ha, halien⟩
      · exact ⟨b, List.mem_cons_self, hb⟩
      · exact ⟨a, List.mem_cons_of_mem _ ha, halien⟩
    simp only [stringStep] at hs
    split at hs
    · cases hs
      exact ⟨_, _, rfl, hdigits⟩
    · simp [hexNumber?_alien hdigits] at hs
  | pairSlash high =>
    have hb : Alien b := h.resolve_right id
    have hslash : b ≠ octet '\\' := hb.ne (by decide)
    simp [stringStep, hslash] at hs
  | pairLetter high =>
    have hb : Alien b := h.resolve_right id
    have hu : b ≠ octet 'u' := hb.ne (by decide)
    simp [stringStep, hu] at hs

/-- A string that is read to its end was not doomed where reading began, and takes no alien octet. -/
theorem clean_stringFrom {mode : StringMode} {content bs s : List UInt8} {line column : Nat} {d : Cursor}
    (h : stringFrom mode content bs line column = .ok (s, d)) : ¬Doomed mode ∧ Clean ⟨bs, line, column⟩ d := by
  induction bs generalizing mode content line column with
  | nil => cases h
  | cons b bs ih =>
    rw [stringFrom] at h
    cases hstep : stringStep mode content b with
    | error cause => simp [hstep] at h
    | ok next =>
      -- an alien octet here, or a doomed mode, would make the rest fail
      have hgood : ¬(Alien b ∨ Doomed mode) ∧ Clean ⟨bs, line, column⟩ d := by
        cases next with
        | none =>
          refine ⟨fun hbad => ?_, ?_⟩
          · obtain ⟨_, _, hnone, -⟩ := stringStep_doomed hbad hstep
            cases hnone
          · simp only [hstep] at h
            cases h
            exact Clean.refl _
        | some p =>
          obtain ⟨mode', content'⟩ := p
          simp only [hstep] at h
          obtain ⟨hmode, hclean⟩ := ih h
          refine ⟨fun hbad => ?_, hclean⟩
          obtain ⟨_, _, hsome, hdoomed⟩ := stringStep_doomed hbad hstep
          cases hsome
          exact hmode hdoomed
      refine ⟨fun hmode => hgood.1 (.inr hmode), fun a ha hmem => ?_⟩
      rcases List.mem_cons.1 hmem with rfl | hmem
      · exact absurd (.inl ha) hgood.1
      · exact hgood.2 a ha hmem

/-- The rest of a string is read without alien octets. -/
theorem heeds_stringBody : Heeds stringBody := by
  refine Heeds.bind (fun c a d h => (clean_stringFrom h).2) fun content => ?_
  split
  · exact heeds_pure _
  · exact fun _ _ _ h => nomatch h

/-- A string that is skipped to its end has no alien octet, and none among the digits of its escapes. -/
theorem clean_skipStringFrom {escape : Bool} {digits : Option (List UInt8)} {bs : List UInt8} {line column : Nat}
    {d : Cursor} (h : skipStringFrom escape digits bs line column = .ok ((), d)) :
    (∀ ds, digits = some ds → ¬∃ b ∈ ds, Alien b) ∧ Clean ⟨bs, line, column⟩ d := by
  induction bs generalizing escape digits line column with
  | nil => cases h
  | cons b bs ih =>
    -- where the octet is not alien, what is ahead of the next cursor decides
    have later {l k : Nat} (hb : ¬Alien b) (hclean : Clean ⟨bs, l, k⟩ d) : Clean ⟨b :: bs, line, column⟩ d := by
      intro a ha hmem
      rcases List.mem_cons.1 hmem with rfl | hmem
      · exact absurd ha hb
      · exact hclean a ha hmem
    rw [skipStringFrom] at h
    cases digits with
    | some ds =>
      simp only at h
      have hds : (¬∃ a ∈ b :: ds, Alien a) ∧ ∃ l k, Clean ⟨bs, l, k⟩ d := by
        split at h
        · exact ⟨(ih h).1 _ rfl, _, _, (ih h).2⟩
        · split at h
          · rename_i hhex
            refine ⟨fun halien => ?_, _, _, (ih h).2⟩
            simp [hexNumber?_alien halien] at hhex
          · cases h
      obtain ⟨hds, l, k, hclean⟩ := hds
      refine ⟨fun ds' heq ⟨a, ha, halien⟩ => ?_, later (fun hb => hds ⟨b, List.mem_cons_self, hb⟩) hclean⟩
      cases heq
      exact hds ⟨a, List.mem_cons_of_mem _ ha, halien⟩
    | none =>
      refine ⟨(fun _ heq => nomatch heq), ?_⟩
      simp only at h
      split at h
      · split at h
        · rename_i hu
          exact later (hu ▸ by decide) (ih h).2
        · split at h
          · rename_i hescaped
            refine later (fun hb => ?_) (ih h).2
            simp [escaped?_alien hb] at hescaped
          · cases h
      · split at h
        · rename_i hquote
          cases h
          exact later (hquote ▸ by decide) (Clean.refl _)
        · split at h
          · rename_i hslash
            exact later (hslash ▸ by decide) (ih h).2
          · split at h
            · cases h
            · rename_i hcontrol
              exact later (fun hb => hcontrol hb.1) (ih h).2

/-- A string is skipped without alien octets. -/
theorem heeds_skipString : Heeds skipString := fun _ _ _ h => (clean_skipStringFrom h).2

/-! ## Words and numbers -/

/-- An alien octet is no digit. -/
theorem isDigitOctet_alien {b : UInt8} (h : Alien b) : isDigitOctet b = false := by
  have hb := h.toNat_lt
  have hlow : ¬octet '0' ≤ b := by
    intro hle
    have : (octet '0').toNat ≤ b.toNat := hle
    have hzero : (octet '0').toNat = 48 := rfl
    omega
  simp [isDigitOctet, hlow]

/-- A word without alien octets is read letter by letter. -/
theorem heeds_word (ws : List Char) (h : ws.all fun w => ¬Alien (octet w)) : Heeds (word ws) := by
  induction ws with
  | nil => exact heeds_pure ()
  | cons w ws ih =>
    rw [List.all_cons, Bool.and_eq_true] at h
    have hw := of_decide_eq_true h.1
    have hrest := ih h.2
    rw [word]
    refine heeds_next (fun next _ => ?_) fun b hb => ?_
    · split
      · exact (fails_here _).heeds
      · split
        · exact hrest
        · exact (fails_here _).heeds
    · simp only [if_neg (hb.ne hw)]
      exact fails_here _

/-- Octets are taken as long as they are digits. -/
theorem heeds_digits : Heeds digits := by
  intro c a d h b hb hmem
  cases h
  rw [← List.takeWhile_append_dropWhile (p := isDigitOctet) (l := c.rest)] at hmem
  rcases List.mem_append.1 hmem with hmem | hmem
  · exact absurd (List.mem_takeWhile_imp hmem) (by simp [isDigitOctet_alien hb])
  · exact hmem

theorem heeds_skipDigits : Heeds skipDigits := heeds_digits.bind fun _ => heeds_pure _

theorem heeds_discard_skipDigits : Heeds (discard skipDigits) := heeds_skipDigits.bind fun _ => heeds_pure _

/-- The exponent of a number is skipped: its letter, a sign and digits. -/
theorem heedsAt_skipExponent {next : Option UInt8} (h : Ordinary next) : HeedsAt next skipExponent := by
  refine (heedsAt_skip h).bind fun _ => heeds_peek fun sign => heedsAt_optional ?_ (heeds_next (fun next _ => ?_) ?_)
  · rintro (rfl | rfl)
    · exact ordinary_some (by decide)
    · exact ordinary_some (by decide)
  · split
    · split
      · exact heeds_discard_skipDigits
      · exact (fails_here _).heeds
    · exact (fails_here _).heeds
  · intro b hb
    simp only [isDigitOctet_alien hb, Bool.false_eq_true, if_false]
    exact fails_here _

theorem heeds_skipOptionalExponent : Heeds skipOptionalExponent := by
  refine heeds_peek fun next => ?_
  split
  · rename_i hletter
    rcases hletter with rfl | rfl
    · exact heedsAt_skipExponent (ordinary_some (by decide))
    · exact heedsAt_skipExponent (ordinary_some (by decide))
  · exact heedsAt_pure next ()

/-- A number is skipped: its digits, a fraction and an exponent. -/
theorem heeds_skipNumber : Heeds skipNumber := by
  have hfraction : Heeds (peek? >>= fun next => if next = some (octet '.') then do
      skip
      let any ← skipDigits
      if any = true then skipOptionalExponent else failNext .invalidNumber
    else skipOptionalExponent) := by
    refine heeds_peek fun next => ?_
    split
    · rename_i hpoint
      refine (heedsAt_skip (hpoint ▸ ordinary_some (by decide))).bind fun _ => heeds_skipDigits.bind fun any => ?_
      split
      · exact heeds_skipOptionalExponent
      · exact (fails_next _).heeds
    · exact heeds_skipOptionalExponent.at next
  refine heeds_next (fun next _ => ?_) fun b hb => ?_
  · split
    · exact (fails_here _).heeds
    · split
      · refine heeds_peek fun digit => Heeds.at ?_ digit
        split
        · split
          · exact ((fails_next _).bind _).heeds
          · exact hfraction
        · exact hfraction
      · split
        · exact heeds_discard_skipDigits.bind fun _ => hfraction
        · exact ((fails_here _).bind _).heeds
  · have hzero : b ≠ octet '0' := hb.ne (by decide)
    simp only [if_neg hzero, isDigitOctet_alien hb, Bool.false_eq_true, if_false]
    exact (fails_here _).bind _

/-! ## Values that are skipped -/

/-- A key is skipped with its colon. -/
theorem heeds_skipKey : Heeds skipKey := by
  refine heeds_token fun next => ?_
  split
  · refine heedsAt_take (by decide) (fun _ => heeds_skipString.bind fun _ => heeds_token fun colon => ?_)
      (((fails_next _).bind _).heeds.at _)
    split
    · exact heedsAt_takeLast (by decide) (heedsAt_fail _ _)
    · exact heedsAt_fail _ _
  · exact ((fails_next _).bind _).heeds.at _

/-- A value that is no list and no object is skipped, or else the bracket that opens it. -/
theorem heeds_skipScalar : Heeds skipScalar := by
  have hword (ws : List Char) (h : ws.all fun w => ¬Alien (octet w)) :
      Heeds (word ws >>= fun _ => pure (none : Option Bracket)) := (heeds_word ws h).bind fun _ => heeds_pure _
  refine heeds_token fun next => ?_
  split
  · exact heedsAt_fail _ _
  refine heedsAt_take (by decide) (fun _ => hword _ (by decide)) ?_
  refine heedsAt_take (by decide) (fun _ => hword _ (by decide)) ?_
  refine heedsAt_take (by decide) (fun _ => hword _ (by decide)) ?_
  refine heedsAt_take (by decide) (fun _ => heeds_skipNumber.bind fun _ => heeds_pure _) ?_
  split
  · exact (heeds_skipNumber.bind fun _ => heeds_pure _).at _
  refine heedsAt_take (by decide) (fun _ => heeds_skipString.bind fun _ => heeds_pure _) ?_
  refine heedsAt_take (by decide) (fun _ => heeds_pure _) ?_
  exact heedsAt_take (by decide) (fun _ => heeds_pure _) (heedsAt_fail _ _)

/-- No closing bracket is alien. -/
theorem not_alien_close (b : Bracket) : ¬Alien b.close := by
  cases b with
  | list => decide
  | object => decide

/-- Brackets are closed from the inside, up to the next comma. -/
theorem heeds_skipClosing (comma : Bool) (brackets : List Bracket) : Heeds (skipClosing comma brackets) := by
  induction brackets generalizing comma with
  | nil => exact heeds_pure []
  | cons bracket outer ih =>
    unfold skipClosing
    refine heeds_token fun next => ?_
    split
    · exact heedsAt_fail _ _
    split
    · rename_i hb
      exact (heedsAt_skip (hb.2 ▸ ordinary_some (by decide))).bind fun _ => heeds_pure _
    refine heedsAt_take (not_alien_close bracket) (fun _ => ih true) ?_
    split
    · exact heedsAt_fail _ _
    · exact heedsAt_pure _ _

/-- Values in brackets are skipped round by round, one scalar in each. -/
theorem heeds_skipRounds (rounds : Nat) (brackets : List Bracket) : Heeds (skipRounds rounds brackets) := by
  induction rounds generalizing brackets with
  | zero => exact (fails_next _).heeds
  | succ rounds ih =>
    rw [skipRounds]
    refine heeds_skipScalar.bind fun opened => (heeds_skipClosing _ _).bind fun left => ?_
    split
    · exact heeds_pure ()
    · exact heeds_skipKey.bind fun _ => ih _
    · exact ih _

/-- A reader may depend on where it starts. -/
theorem heeds_get {f : Cursor → Reader α} (h : ∀ c, Heeds (f c)) : Heeds (get >>= f) := by
  intro c a d hr
  obtain ⟨_, _, hget, hr⟩ := bind_eq_ok.1 hr
  cases hget
  exact h c c a d hr

/-- Any value is skipped without alien octets. -/
theorem heeds_skipValue : Heeds skipValue := heeds_get fun _ => heeds_skipRounds _ _

/-- A value of the wrong type is never read. -/
theorem fails_wrongType (expected : Expected) : Fails (wrongType expected : Reader α) := by
  have hfail (found : Found) : Fails (failHere (.wrongType found expected) : Reader α) := fails_here _
  refine fails_bind _ fun next => ?_
  split
  · exact fails_next _
  repeat' split
  · exact fails_bind _ fun _ => fails_bind _ fun _ => hfail _
  · exact fails_bind _ fun _ => fails_bind _ fun _ => hfail _
  · exact fails_bind _ fun _ => fails_bind _ fun _ => hfail _
  · exact fails_bind _ fun _ => fails_bind _ fun _ => hfail _
  · exact fails_bind _ fun _ => hfail _
  · exact fails_bind _ fun _ => fails_bind _ fun _ => hfail _
  · exact hfail _
  · exact hfail _
  · exact fails_next _

/-! ## Strings, dates and posts -/

/-- A string is read, or something of another type is refused. -/
theorem heeds_text (expected : Expected) : Heeds (text expected) := by
  refine heeds_token fun next => ?_
  split
  · exact heedsAt_fail _ _
  exact heedsAt_take (by decide) (fun _ => heeds_stringBody) ((fails_wrongType _).heeds.at _)

/-- A date is read as a string that means one. -/
theorem heeds_date : Heeds date := by
  refine (heeds_text _).bind fun s => ?_
  split
  · exact heeds_pure _
  · exact (fails_here _).heeds

/-- The value of a field is read as a text or as a date. -/
theorem heeds_readField (f : Fields) (field : Field) : Heeds (readField f field) := by
  cases field with
  | id => exact (heeds_text _).bind fun _ => heeds_pure _
  | title => exact (heeds_text _).bind fun _ => heeds_pure _
  | description => exact (heeds_text _).bind fun _ => heeds_pure _
  | user => exact (heeds_text _).bind fun _ => heeds_pure _
  | created => exact heeds_date.bind fun _ => heeds_pure _
  | updated => exact heeds_date.bind fun _ => heeds_pure _

theorem heeds_colon : Heeds colon := by
  refine heeds_token fun next => ?_
  split
  · exact heedsAt_takeLast (by decide) (heedsAt_fail _ _)
  · exact heedsAt_fail _ _

/-- The next key of an object is read, or there is none left. -/
theorem heeds_nextKey (first : Bool) : Heeds (nextKey first) := by
  refine heeds_token fun next => ?_
  split
  · exact heedsAt_fail _ _
  split
  · exact heedsAt_pure _ _
  split
  · split
    · exact heedsAt_pure _ _
    · exact heedsAt_fail _ _
  refine heedsAt_take (by decide) (fun _ => heeds_token fun key => Heeds.at ?_ key) (heedsAt_fail _ _)
  split
  · exact (fails_next _).heeds
  repeat' split
  · exact heeds_pure _
  · exact (fails_next _).heeds
  · exact (fails_next _).heeds

/-- Where the answer is yes, a quote is next. -/
theorem quote_of_nextKey {first : Bool} {c d : Cursor} (h : nextKey first c = .ok (true, d)) :
    d.peek? = some (octet '"') := by
  obtain ⟨next, e, htoken, h⟩ := bind_eq_ok.1 h
  have hnext := next_of_token htoken
  split at h
  · nomatch h
  split at h
  · nomatch h
  split at h
  · split at h
    · rename_i hquote
      cases h
      rw [← hnext, hquote]
    · nomatch h
  split at h
  · obtain ⟨_, _, -, h⟩ := bind_eq_ok.1 h
    obtain ⟨key, e, htoken, h⟩ := bind_eq_ok.1 h
    have hkey := next_of_token htoken
    split at h
    · nomatch h
    split at h
    · rename_i hquote
      cases h
      rw [← hkey, hquote]
    · split at h
      · nomatch h
      · nomatch h
  · nomatch h

/-- The members of an object are read one after the other, and unknown ones are skipped. -/
theorem heeds_members (rounds : Nat) (f : Fields) (first : Bool) : Heeds (members rounds f first) := by
  induction rounds generalizing f first with
  | zero => exact heeds_pure _
  | succ rounds ih =>
    intro c a d h
    rw [members] at h
    obtain ⟨more, e, hkey, h⟩ := bind_eq_ok.1 h
    refine (heeds_nextKey first c more e hkey).trans ?_
    cases more with
    | false =>
      cases h
      exact Clean.refl _
    | true =>
      have hskip : HeedsAt (some (octet '"')) skip := heedsAt_skip (ordinary_some (by decide))
      refine hskip.bind (fun _ => heeds_stringBody.bind fun key => ?_) e a d (quote_of_nextKey hkey) h
      split
      · exact heeds_colon.bind fun _ => heeds_skipValue.bind fun _ => ih f false
      · split
        · exact heeds_pure _
        · exact heeds_colon.bind fun _ => (heeds_readField _ _).bind fun f => ih f false

theorem heeds_nextElement (first : Bool) : Heeds (nextElement first) := by
  refine heeds_token fun next => ?_
  split
  · exact heedsAt_fail _ _
  split
  · exact heedsAt_pure _ _
  split
  · exact heedsAt_pure _ _
  refine heedsAt_take (by decide) (fun _ => heeds_token fun next => Heeds.at ?_ next) (heedsAt_fail _ _)
  split
  · exact (fails_next _).heeds
  · split
    · exact (fails_next _).heeds
    · exact heeds_pure _

/-- The elements of a list are read as fields in their order. -/
theorem heeds_elements (f : Fields) (count : Nat) (fields : List Field) : Heeds (elements f count fields) := by
  induction fields generalizing f count with
  | nil => exact heeds_pure _
  | cons field later ih =>
    rw [elements]
    refine (heeds_nextElement _).bind fun more => ?_
    split
    · exact (heeds_readField _ _).bind fun f => ih f (count + 1)
    · exact heeds_pure _

theorem heeds_closeObject : Heeds closeObject := by
  refine heeds_token fun next => ?_
  split
  · refine heedsAt_takeLast (by decide) ?_
    split
    · exact heedsAt_fail _ _
    · exact heedsAt_fail _ _
  · exact heedsAt_fail _ _

theorem heeds_closeList : Heeds closeList := by
  refine heeds_token fun next => ?_
  split
  · refine heedsAt_takeLast (by decide) (heedsAt_take (by decide) (fun _ => Fails.heeds ?_) (heedsAt_fail _ _))
    refine fails_bind _ fun next => ?_
    split
    · split
      · exact fails_next _
      · exact fails_next _
    · exact fails_next _
  · exact heedsAt_fail _ _

/-- A post that lacks a field is not read, whatever follows. -/
theorem fails_refuse (close : Char) (cause : Cause) : Fails (refuse close cause : Reader α) := by
  refine fails_bind _ fun next => ?_
  split
  · exact fails_bind _ fun _ => fails_here _
  · exact fails_here _

/-- A post is read as an object or as a list. -/
theorem heeds_post : Heeds post := by
  refine heeds_token fun next => ?_
  split
  · exact heedsAt_fail _ _
  refine heedsAt_take (by decide) (fun _ => ?object) (heedsAt_take (by decide) (fun _ => ?list) ?other)
  case object =>
    refine heeds_get fun c => (heeds_members _ _ _).bind fun read => ?_
    split
    · exact heeds_closeObject.bind fun _ => heeds_pure _
    · exact (fails_refuse _ _).heeds
  case list =>
    refine (heeds_elements _ _ _).bind fun read => ?_
    split
    · exact heeds_closeList.bind fun _ => heeds_pure _
    · exact (fails_refuse _ _).heeds
  case other => exact (fails_wrongType _).heeds.at _

/-! ## Whole texts -/

/-- After the value nothing but spaces is left. -/
theorem heeds_finish : Heeds finish := by
  refine heeds_token fun next => ?_
  split
  · exact heedsAt_fail _ _
  · exact heedsAt_pure _ ()

/-- Reading ends where nothing is left. -/
theorem rest_of_finish {c d : Cursor} (h : finish c = .ok ((), d)) : d.rest = [] := by
  obtain ⟨next, _, htoken, h⟩ := bind_eq_ok.1 h
  cases htoken
  split at h
  · nomatch h
  · rename_i hnone
    cases h
    simpa [Cursor.peek?] using hnone

/-- What is read whole is read from the start, and then nothing is left. -/
theorem readAll_eq_ok {r : Reader α} {octets : Payload} {a : α} (h : readAll r octets = .ok a) :
    ∃ d, r (Cursor.start octets) = .ok (a, d) ∧ ∃ e, finish d = .ok ((), e) := by
  obtain ⟨p, hrun, rfl⟩ := map_eq_ok.1 h
  obtain ⟨b, c, hread, hrun⟩ := bind_eq_ok.1 hrun
  obtain ⟨_, e, hfinish, hrun⟩ := bind_eq_ok.1 hrun
  cases hrun
  exact ⟨c, hread, e, hfinish⟩

/-- What is read whole has no alien octet in it. -/
theorem alien_not_mem_readAll {r : Reader α} (hr : Heeds r) {octets : Payload} {a : α} (h : readAll r octets = .ok a) :
    ∀ b ∈ octets, ¬Alien b := by
  obtain ⟨d, hread, e, hfinish⟩ := readAll_eq_ok h
  intro b hb halien
  have hrest := (hr _ _ _ hread).trans (heeds_finish _ _ _ hfinish) b halien hb
  rw [rest_of_finish hfinish] at hrest
  nomatch hrest

end Forum.Json.Reader

namespace Forum.Json

open Reader

variable {kind : EventKind} {octets : Payload} {e : PostEvent}

/-- What is read as an event is read whole, as an identifier or as a post. -/
theorem reads_of_decode (h : decode kind octets = .ok e) :
    (kind = .deleted ∧ ∃ s, readAll (text .text) octets = .ok s) ∨
      (kind ≠ .deleted ∧ ∃ p, readAll post octets = .ok p) := by
  cases kind with
  | created =>
    obtain ⟨p, hp, -⟩ := map_eq_ok.1 h
    exact .inr ⟨by decide, p, hp⟩
  | updated =>
    obtain ⟨p, hp, -⟩ := map_eq_ok.1 h
    exact .inr ⟨by decide, p, hp⟩
  | deleted =>
    obtain ⟨s, hs, -⟩ := map_eq_ok.1 h
    exact .inl ⟨rfl, s, hs⟩

/-- What is read as an event holds no control but spaces. -/
theorem alien_not_mem (h : decode kind octets = .ok e) : ∀ b ∈ octets, ¬Alien b := by
  rcases reads_of_decode h with ⟨-, s, hs⟩ | ⟨-, p, hp⟩
  · exact alien_not_mem_readAll (heeds_text _) hs
  · exact alien_not_mem_readAll heeds_post hp

end Forum.Json
