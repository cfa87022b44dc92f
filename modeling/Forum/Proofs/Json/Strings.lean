import Mathlib.Tactic.Common
import Forum.Codec.Json
import Forum.Proofs.Text.Utf8

/-!
# Reading JSON strings

`Takes` says that octets move the reader of a string from one state to another, wherever it stands in the text. The
octets of an escaped character add the octets of the character itself (`takes_escapeChar`), so those of an escaped text
add the octets of the text (`takes_escapeChars`).
-/

namespace Forum.Json

open Text

namespace Reader

/-! ## Moving through a string -/

/-- Octets that take the reader of a string from one mode and content to another. -/
def Takes (octets : List UInt8) (mode : StringMode) (content : List UInt8) (mode' : StringMode)
    (content' : List UInt8) : Prop :=
  ∀ rest line column, ∃ l k,
    stringFrom mode content (octets ++ rest) line column = stringFrom mode' content' rest l k

theorem takes_nil (mode : StringMode) (content : List UInt8) : Takes [] mode content mode content :=
  fun _ line column => ⟨line, column, rfl⟩

theorem takes_cons {b : UInt8} {bs : List UInt8} {m₁ m₂ m₃ : StringMode} {c₁ c₂ c₃ : List UInt8}
    (h : stringStep m₁ c₁ b = .ok (some (m₂, c₂))) (ht : Takes bs m₂ c₂ m₃ c₃) : Takes (b :: bs) m₁ c₁ m₃ c₃ := by
  intro rest line column
  obtain ⟨l, k, hlk⟩ := ht rest (placeAfter b line column).1 (placeAfter b line column).2
  refine ⟨l, k, ?_⟩
  rw [List.cons_append, stringFrom]
  simp only [h]
  exact hlk

theorem takes_append {xs ys : List UInt8} {m₁ m₂ m₃ : StringMode} {c₁ c₂ c₃ : List UInt8}
    (hx : Takes xs m₁ c₁ m₂ c₂) (hy : Takes ys m₂ c₂ m₃ c₃) : Takes (xs ++ ys) m₁ c₁ m₃ c₃ := by
  intro rest line column
  obtain ⟨l, k, hlk⟩ := hx (ys ++ rest) line column
  obtain ⟨l', k', hlk'⟩ := hy rest l k
  exact ⟨l', k', by rw [List.append_assoc, hlk, hlk']⟩

/-! ## Characters that stand for themselves -/

/-- Octets that are no quote, no backslash and no control. -/
def Plain (b : UInt8) : Prop := b ≠ octet '"' ∧ b ≠ octet '\\' ∧ ¬b < 32

theorem takes_plain {bs : List UInt8} (h : ∀ b ∈ bs, Plain b) (content : List UInt8) :
    Takes bs .plain content .plain (bs.reverse ++ content) := by
  induction bs generalizing content with
  | nil => exact takes_nil _ _
  | cons b bs ih =>
    obtain ⟨hq, hs, hc⟩ := h b List.mem_cons_self
    have hstep : stringStep .plain content b = .ok (some (.plain, b :: content)) := by
      simp [stringStep, hq, hs, hc]
    have := ih (fun d hd => h d (List.mem_cons_of_mem _ hd)) (b :: content)
    rw [List.reverse_cons, List.append_assoc]
    exact takes_cons hstep this

theorem plain_ofNat {n : Nat} (h : n < 256) (h32 : 32 ≤ n) (hq : n ≠ 34) (hs : n ≠ 92) : Plain (UInt8.ofNat n) := by
  have hn := Utf8.toNat_ofNat_of_lt h
  refine ⟨fun he => hq ?_, fun he => hs ?_, fun hlt => ?_⟩
  · rw [← hn, he]; rfl
  · rw [← hn, he]; rfl
  · have : (UInt8.ofNat n).toNat < 32 := hlt
    omega

/-- The octets of a character that is not escaped. -/
theorem plain_encodeChar {c : Char} (h32 : 32 ≤ c.val.toNat) (hq : c.val.toNat ≠ 34) (hs : c.val.toNat ≠ 92) :
    ∀ b ∈ String.utf8EncodeChar c, Plain b := by
  have hv := Utf8.code_valid c
  unfold String.utf8EncodeChar
  by_cases h1 : c.val.toNat ≤ 0x7f
  · simp only [if_pos h1, List.forall_mem_cons, List.not_mem_nil, false_imp_iff, implies_true, and_true]
    exact plain_ofNat (by omega) h32 hq hs
  · -- all octets of a longer form are above those of ASCII
    have hp : ∀ {n : Nat}, n < 256 → 0x80 ≤ n → Plain (UInt8.ofNat n) := fun h h' =>
      plain_ofNat h (by omega) (by omega) (by omega)
    by_cases h2 : c.val.toNat ≤ 0x7ff
    · simp only [if_neg h1, if_pos h2, List.forall_mem_cons, List.not_mem_nil, false_imp_iff, implies_true, and_true]
      exact ⟨hp (by omega) (by omega), hp (by omega) (by omega)⟩
    · by_cases h3 : c.val.toNat ≤ 0xffff
      · simp only [if_neg h1, if_neg h2, if_pos h3, List.forall_mem_cons, List.not_mem_nil, false_imp_iff, implies_true,
          and_true]
        exact ⟨hp (by omega) (by omega), hp (by omega) (by omega), hp (by omega) (by omega)⟩
      · simp only [if_neg h1, if_neg h2, if_neg h3, List.forall_mem_cons, List.not_mem_nil, false_imp_iff, implies_true,
          and_true]
        exact ⟨hp (by omega) (by omega), hp (by omega) (by omega), hp (by omega) (by omega), hp (by omega) (by omega)⟩

/-! ## Escaped characters -/

/-- A backslash and a letter stand for one octet. -/
theorem takes_escape (letter : UInt8) {meant : UInt8} (h : letter ≠ octet 'u') (he : escaped? letter = some meant)
    (content : List UInt8) : Takes [92, letter] .plain content .plain (meant :: content) := by
  refine takes_cons (rfl : stringStep _ _ _ = .ok (some (.escape, content))) (takes_cons ?_ (takes_nil _ _))
  simp [stringStep, h, he]

/-- The digits of a control. -/
theorem hexPair_octets : ∀ n < 32,
    Utf8.encodeChars (hexPair n) = [(Nat.digitChar (n / 16 % 16)).toUInt8, (Nat.digitChar (n % 16)).toUInt8] ∧
      hexNumber? [(Nat.digitChar (n % 16)).toUInt8, (Nat.digitChar (n / 16 % 16)).toUInt8, octet '0', octet '0'] =
        some n := by
  decide

/-- Four digits stand for a control. -/
theorem takes_control {n : Nat} (hn : n < 32) (content : List UInt8) :
    Takes (Utf8.encodeChars (['\\', 'u', '0', '0'] ++ hexPair n)) .plain content .plain
      ((String.utf8EncodeChar (Char.ofNat n)).reverse ++ content) := by
  obtain ⟨henc, hhex⟩ := hexPair_octets n hn
  have hsplit : Utf8.encodeChars (['\\', 'u', '0', '0'] ++ hexPair n) =
      [92, 117, octet '0', octet '0'] ++ Utf8.encodeChars (hexPair n) := by
    simp only [Utf8.encodeChars, List.flatMap_append]
    rfl
  rw [hsplit, henc]
  have hunit : ofUnit none n = .ok (.inl (Char.ofNat n)) := by
    simp only [ofUnit]
    rw [if_neg (by omega), if_neg (by omega)]
  refine takes_cons (rfl : stringStep _ _ _ = .ok (some (.escape, content))) ?_
  refine takes_cons (rfl : stringStep _ _ _ = .ok (some (.unit none [], content))) ?_
  refine takes_cons (rfl : stringStep _ _ _ = .ok (some (.unit none [octet '0'], content))) ?_
  refine takes_cons (rfl : stringStep _ _ _ = .ok (some (.unit none [octet '0', octet '0'], content))) ?_
  refine takes_cons (rfl : stringStep _ _ _ =
    .ok (some (.unit none [(Nat.digitChar (n / 16 % 16)).toUInt8, octet '0', octet '0'], content))) ?_
  refine takes_cons ?_ (takes_nil _ _)
  simp [stringStep, hhex, hunit]

/-- A character is read from its escaped form. -/
theorem takes_escapeChar (c : Char) (content : List UInt8) :
    Takes (Utf8.encodeChars (escapeChar c)) .plain content .plain ((String.utf8EncodeChar c).reverse ++ content) := by
  unfold escapeChar
  by_cases hq : c = '"' ∨ c = '\\'
  · rw [if_pos hq]
    rcases hq with rfl | rfl
    · exact takes_escape 34 (by decide) (by decide) content
    · exact takes_escape 92 (by decide) (by decide) content
  rw [if_neg hq]
  by_cases hb : c = '\x08'
  · rw [if_pos hb, hb]
    exact takes_escape 98 (by decide) (by decide) content
  rw [if_neg hb]
  by_cases ht : c = '\t'
  · rw [if_pos ht, ht]
    exact takes_escape 116 (by decide) (by decide) content
  rw [if_neg ht]
  by_cases hn : c = '\n'
  · rw [if_pos hn, hn]
    exact takes_escape 110 (by decide) (by decide) content
  rw [if_neg hn]
  by_cases hf : c = '\x0c'
  · rw [if_pos hf, hf]
    exact takes_escape 102 (by decide) (by decide) content
  rw [if_neg hf]
  by_cases hr : c = '\r'
  · rw [if_pos hr, hr]
    exact takes_escape 114 (by decide) (by decide) content
  rw [if_neg hr]
  by_cases h32 : c.toNat < 32
  · rw [if_pos h32]
    have := takes_control h32 content
    rwa [Char.ofNat_toNat] at this
  · rw [if_neg h32]
    have hne : ∀ d : Char, c ≠ d → c.val.toNat ≠ d.val.toNat := fun d h he => h (Char.ext (UInt32.toNat_inj.1 he))
    have hplain : ∀ b ∈ String.utf8EncodeChar c, Plain b :=
      plain_encodeChar (Nat.le_of_not_lt h32) (hne '"' fun h => hq (.inl h)) (hne '\\' fun h => hq (.inr h))
    simpa [Utf8.encodeChars] using takes_plain hplain content

theorem takes_escapeChars (cs : List Char) (content : List UInt8) :
    Takes (Utf8.encodeChars (cs.flatMap escapeChar)) .plain content .plain
      ((Utf8.encodeChars cs).reverse ++ content) := by
  induction cs generalizing content with
  | nil => exact takes_nil _ _
  | cons c cs ih =>
    have h := takes_append (takes_escapeChar c content) (ih ((String.utf8EncodeChar c).reverse ++ content))
    simpa [Utf8.encodeChars, List.flatMap_append] using h

end Reader

end Forum.Json
