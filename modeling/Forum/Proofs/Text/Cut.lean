import Mathlib.Data.List.DropRight
import Mathlib.Tactic.Common
import Forum.Text.Blank
import Forum.Text.Cut

/-!
# Cutting and trimming texts

A text is what stands up to the last occurrence of a character and what stands behind it
(`upToLast_append_behindLast`), and what is put behind a text moves the last occurrence just where it has the character
(`behindLast_append_of_mem`, `behindLast_append_of_not_mem`). The pieces between the occurrences of a character are those
of the library (`pieces_eq_splitOn`), so pieces that are put together are cut at the same places again.

Trimming leaves nothing of blank texts alone (`trim_eq_nil`), and a second trimming changes nothing (`trim_trim`).
-/

namespace Forum.Text

variable {c : Char} {cs ds : List Char}

/-! ## The start of a text -/

theorem after?_eq_some_iff {start rest : List Char} : after? start cs = some rest ↔ cs = start ++ rest := by
  induction start generalizing cs with
  | nil => simp [after?]
  | cons s start ih =>
    cases cs with
    | nil => simp [after?]
    | cons d cs =>
      by_cases h : s = d
      · simp [after?, h, ih]
      · simp [after?, h, Ne.symm h]

/-! ## The last occurrence of a character -/

/-- What stands up to the last occurrence of a character, with it; nothing where there is none. -/
def upToLast (c : Char) (cs : List Char) : List Char := cs.rdropWhile (· != c)

theorem upToLast_append_behindLast (c : Char) (cs : List Char) : upToLast c cs ++ behindLast c cs = cs :=
  List.rdropWhile_append_rtakeWhile

theorem not_mem_behindLast (c : Char) (cs : List Char) : c ∉ behindLast c cs := by
  intro h
  have hne := List.mem_takeWhile_imp (List.mem_reverse.1 h)
  simp at hne

theorem behindLast_append_of_mem (h : c ∈ ds) : behindLast c (cs ++ ds) = behindLast c ds := by
  have hstop : ¬(ds.reverse.takeWhile (· != c)).length = ds.reverse.length := by
    intro hlength
    have hall := List.takeWhile_eq_self_iff.1 ((List.takeWhile_prefix _).eq_of_length hlength)
    simpa using hall c (List.mem_reverse.2 h)
  rw [behindLast, List.reverse_append, List.takeWhile_append, if_neg hstop, behindLast]

theorem behindLast_append_of_not_mem (h : c ∉ ds) : behindLast c (cs ++ ds) = behindLast c cs ++ ds := by
  have hall : ∀ d ∈ ds.reverse, (d != c) = true := by
    intro d hd
    have hne : d ≠ c := fun heq => h (heq ▸ List.mem_reverse.1 hd)
    simpa using hne
  rw [behindLast, List.reverse_append, List.takeWhile_append_of_pos hall, List.reverse_append, List.reverse_reverse,
    behindLast]

theorem behindLast_append_cons (h : c ∉ ds) : behindLast c (cs ++ c :: ds) = ds := by
  rw [List.append_cons, behindLast_append_of_not_mem h, behindLast_append_of_mem (List.mem_singleton_self c)]
  simp [behindLast]

/-- What stands up to the last occurrence of a character ends with it. -/
theorem exists_append_cons_behindLast (h : c ∈ cs) : ∃ front, cs = front ++ c :: behindLast c cs := by
  have hcs := upToLast_append_behindLast c cs
  have hne : upToLast c cs ≠ [] := by
    intro hnil
    rw [hnil, List.nil_append] at hcs
    exact not_mem_behindLast c cs (hcs.symm ▸ h)
  have hlast : (upToLast c cs).getLast hne = c := by
    have hkept := List.rdropWhile_last_not _ cs hne
    exact not_not.1 fun hother => hkept (bne_iff_ne.2 hother)
  have hends := List.dropLast_append_getLast hne
  rw [hlast] at hends
  exact ⟨(upToLast c cs).dropLast, by rw [List.append_cons, hends, hcs]⟩

/-! ## Pieces -/

theorem piecesFrom_eq_splitOnPPrepend (piece : List Char) :
    piecesFrom c piece cs = cs.splitOnPPrepend (· == c) piece := by
  induction cs generalizing piece with
  | nil => rfl
  | cons d cs ih =>
    rw [piecesFrom, List.splitOnPPrepend_cons_eq_if, ih, ih]
    simp

theorem pieces_eq_splitOn (c : Char) (cs : List Char) : pieces c cs = List.splitOn c cs := piecesFrom_eq_splitOnPPrepend []

theorem not_mem_of_mem_piecesFrom {piece p : List Char} (hpiece : c ∉ piece) (h : p ∈ piecesFrom c piece cs) : c ∉ p := by
  induction cs generalizing piece with
  | nil =>
    obtain rfl := List.mem_singleton.1 h
    exact fun hmem => hpiece (List.mem_reverse.1 hmem)
  | cons d cs ih =>
    rw [piecesFrom] at h
    split at h
    · obtain rfl | h := List.mem_cons.1 h
      · exact fun hmem => hpiece (List.mem_reverse.1 hmem)
      · exact ih (by simp) h
    · rename_i hne
      exact ih (by simp [hpiece, Ne.symm hne]) h

theorem not_mem_of_mem_pieces {p : List Char} (h : p ∈ pieces c cs) : c ∉ p :=
  not_mem_of_mem_piecesFrom List.not_mem_nil h

/-! ## Blanks -/

theorem trim_eq_nil : trim cs = [] ↔ ∀ c ∈ cs, isBlank c = true := by
  unfold trim trimEnd trimStart
  rw [List.reverse_eq_nil_iff, List.dropWhile_eq_nil_iff]
  constructor
  · intro h
    -- The rest after the first blanks has only blanks, but it starts with something else if it is not empty.
    have hnil : cs.dropWhile isBlank = [] := by
      by_contra hne
      have hhead := List.head_dropWhile_not isBlank hne
      have hblank := h _ (List.mem_reverse.2 (List.head_mem hne))
      rw [hblank] at hhead
      nomatch hhead
    exact List.dropWhile_eq_nil_iff.1 hnil
  · intro h
    rw [List.dropWhile_eq_nil_iff.2 h]
    exact fun _ hmem => nomatch hmem

/-- A text is blank if nothing is left when it is trimmed. -/
theorem isBlankText_iff (s : String) : isBlankText s = true ↔ trimmed s = "" := by
  rw [isBlankText, List.all_eq_true, ← trim_eq_nil, trimmed]
  constructor
  · intro h
    rw [h]
  · intro h
    have hlist := congrArg String.toList h
    rwa [String.toList_ofList] at hlist

theorem mem_of_mem_trim (h : c ∈ trim cs) : c ∈ cs :=
  (List.dropWhile_suffix _).subset ((List.rdropWhile_prefix isBlank _).subset h)

theorem trim_trim (cs : List Char) : trim (trim cs) = trim cs := by
  have hstart : trimStart (trim cs) = trim cs := by
    -- What is trimmed starts as the text does behind its first blanks.
    obtain ⟨back, hback⟩ : trim cs <+: trimStart cs := List.rdropWhile_prefix isBlank _
    cases htrim : trim cs with
    | nil => rfl
    | cons d es =>
      rw [htrim, List.cons_append] at hback
      have hd : isBlank d = false := by
        have hhead := List.head?_dropWhile_not isBlank cs
        rw [← trimStart, ← hback] at hhead
        exact hhead
      exact List.dropWhile_cons_of_neg (Bool.eq_false_iff.1 hd)
  rw [trim, hstart]
  exact List.rdropWhile_idempotent isBlank (trimStart cs)

end Forum.Text
