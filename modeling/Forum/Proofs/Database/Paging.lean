import Mathlib.Algebra.Group.Int.Defs
import Forum.Proofs.Database.Bracket
import Forum.Proofs.Service.Paging

/-!
# The offset of a page

A query for a page tells the database how many rows to leave out, as a number of 64 bits with a sign. In memory a page
leaves out the rows of all pages before it. The two are the same as long as these are fewer than 2 ^ 63 rows, and beyond
that the database is told a negative number (`sent_offset_iff`).
-/

namespace Forum

open Database Session

namespace Page

/-- A page and the rows before it can be counted with 64 bits. -/
theorem offset_lt (p : Page) : p.offset < 2 ^ 64 := by
  have hnumber : max p.number.toNat 1 - 1 < 2 ^ 32 := by
    have := p.number.toNat_lt
    omega
  calc p.offset ≤ (max p.number.toNat 1 - 1) * 2 ^ 32 := Nat.mul_le_mul_left _ (Nat.le_of_lt p.rows.toNat_lt)
    _ < 2 ^ 32 * 2 ^ 32 := Nat.mul_lt_mul_of_pos_right hnumber (by decide)
    _ = 2 ^ 64 := by decide

/-- The rows that the database is told to leave out are the ones before the page. -/
def Exact (p : Page) (k : Int64) : Prop := 0 ≤ k.toInt ∧ k.toInt = p.offset

end Page

namespace Database

theorem toInt_ofNat_wrapped {n : Nat} (h : 2 ^ 63 ≤ n) (h' : n < 2 ^ 64) : (Int64.ofNat n).toInt = n - 2 ^ 64 := by
  have hsize : (n : Int).bmod Int64.size = ((n : Int) - 2 ^ 64).bmod Int64.size :=
    (Int.sub_bmod_right (n : Int) Int64.size).symm
  rw [Int64.toInt_ofNat', hsize]
  refine Int.bmod_eq_of_le_mul_two ?_ ?_ <;> unfold Int64.size <;> omega

theorem exact_ofNat_iff (p : Page) : p.Exact (.ofNat p.offset) ↔ p.offset < 2 ^ 63 := by
  constructor
  · intro ⟨hnonneg, _⟩
    by_contra hlarge
    have hoffset := p.offset_lt
    rw [toInt_ofNat_wrapped (Nat.le_of_not_lt hlarge) hoffset] at hnonneg
    omega
  · intro hsmall
    have hsame := Int64.toInt_ofNat_of_lt hsmall
    exact ⟨by omega, hsame⟩

/-- A query sends one statement, and that tells the database to leave out `k` rows of the listing and to answer the `n`
rows after these. -/
def Skips {α : Type} (query : Action Session α) (s : Session) (k n : Int64) : Prop :=
  ∃ st select, (query s).2 = s.told st ∧ st.sql = select ++ Statement.paged ∧ st.parameters = [.number k, .number n]

theorem skips_of_paged {α : Type} {tx : Option Handle} {s : Session} (h : s.Ready tx) (reader : RowReader α)
    {st : Statement} {select : String} {p : Page} (hsql : st.sql = select ++ Statement.paged)
    (hparameters : st.parameters = Statement.pageParameters p) :
    Skips (fetchAll tx reader st).action s (.ofNat p.offset) (.ofNat p.rows.toNat) := by
  refine ⟨st, select, ?_, hsql, hparameters⟩
  rw [fetchAll_of_ready h]

/-- A query for a page of posts or comments in the database leaves out the rows before the page just where these are
fewer than 2 ^ 63. Where they are more it is told a negative number. In memory it always leaves them out. -/
theorem sent_offset_iff (p : Page) :
    (∃ k n : Int64, n.toInt = p.rows.toNat ∧ (p.Exact k ↔ p.offset < 2 ^ 63) ∧
        (2 ^ 63 ≤ p.offset → k.toInt = p.offset - 2 ^ 64 ∧ k.toInt < 0) ∧
        ∀ tx s, Session.Ready tx s → Skips (postStore.page tx p) s k n ∧ Skips (commentStore.page tx p) s k n) ∧
      p.offset = (max p.number.toNat 1 - 1) * p.rows.toNat ∧ p.offset < 2 ^ 64 ∧
      (∀ (s : Memory.Posts) party rows, s.table.view party = .ok rows →
        (Memory.Posts.store.page party p s).1 =
          .ok (((Memory.Posts.listed rows.values).drop p.offset).take p.rows.toNat)) ∧
      ∀ (s : Memory.Comments) party rows, s.table.view party = .ok rows →
        (Memory.Comments.store.page party p s).1 =
          .ok (((Memory.Comments.listed rows.values).drop p.offset).take p.rows.toNat) := by
  refine ⟨⟨.ofNat p.offset, .ofNat p.rows.toNat, ?_, exact_ofNat_iff p, fun hlarge => ?_, fun tx s h => ⟨?_, ?_⟩⟩,
    rfl, p.offset_lt, fun s party rows hview => ?_, fun s party rows hview => ?_⟩
  · have hrows := p.rows.toNat_lt
    exact Int64.toInt_ofNat_of_lt (by omega)
  · have hoffset := p.offset_lt
    rw [toInt_ofNat_wrapped hlarge hoffset]
    omega
  · exact skips_of_paged h .post rfl rfl
  · exact skips_of_paged h .comment rfl rfl
  · rw [Memory.Posts.page_of_view hview, Place.posts_listed]
    rfl
  · rw [Memory.Comments.page_of_view hview, Place.comments_listed]
    rfl

/-- On the second page of three rows, three are left out. -/
theorem second_page_offset :
    ∃ k n : Int64, k.toInt = 3 ∧ Skips (postStore.page none ⟨2, 3⟩) (.new [] [] none) k n ∧
      Skips (commentStore.page none ⟨2, 3⟩) (.new [] [] none) k n ∧
        (Memory.Posts.store.page none ⟨2, 3⟩ .empty).1 = .ok (((Memory.Posts.listed []).drop 3).take 3) := by
  obtain ⟨⟨k, n, -, hexact, -, hskips⟩, -, -, hposts, -⟩ := sent_offset_iff ⟨2, 3⟩
  obtain ⟨-, hk⟩ := hexact.2 (by decide)
  obtain ⟨hpost, hcomment⟩ := hskips none (.new [] [] none) ⟨rfl, rfl⟩
  exact ⟨k, n, hk, hpost, hcomment, hposts .empty none .empty rfl⟩

/-- The last page there is, of as many rows as a page can have. -/
def lastPage : Page := ⟨4294967295, 4294967295⟩

/-- For the last page the database is told a negative number of rows. -/
theorem last_page_negative :
    ∃ k n : Int64, Skips (postStore.page none lastPage) (.new [] [] none) k n ∧
      Skips (commentStore.page none lastPage) (.new [] [] none) k n ∧ k.toInt = -12884901886 ∧ ¬lastPage.Exact k := by
  have hready : Session.Ready none (.new [] [] none) := ⟨rfl, rfl⟩
  refine ⟨_, _, skips_of_paged hready .post rfl rfl, skips_of_paged hready .comment rfl rfl, by decide +kernel, ?_⟩
  rw [exact_ofNat_iff]
  decide +kernel

end Database

end Forum
