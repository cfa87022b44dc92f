import Mathlib.Algebra.Group.Nat.Defs
import Forum.Fixture
import Forum.Proofs.Service.Keeping

/-!
# Reading page by page

The first pages of a listing are its first rows (`Page.flatten_slices`), so all pages together are the listing. In
memory a page is cut from the listing of the rows in sight. As these are kept under their identifiers, they have one
listing only, and its pages part the rows (`pages_part_rows`).
-/

namespace Forum

namespace Page

variable {σ α ν : Type}

/-! ## Pages of a list -/

/-- How many pages of a size it takes for so many rows. -/
def count (length size : Nat) : Nat := (length + size - 1) / size

theorem lt_count (length : Nat) {size : Nat} (hsize : 0 < size) (i : Nat) :
    i < count length size ↔ i * size < length := by
  unfold count
  rw [Nat.lt_div_iff_mul_lt hsize]
  have hmul : (i + 1) * size = i * size + size := Nat.succ_mul i size
  omega

theorem flatten_slices (l : List α) (size n : Nat) :
    ((List.range n).map fun i => (l.drop (i * size)).take size).flatten = l.take (n * size) := by
  induction n with
  | zero => simp
  | succ n ih =>
    rw [List.range_succ, List.map_append, List.flatten_append, ih, Nat.succ_mul, List.take_add]
    simp

/-- Page by page the whole list is read. -/
theorem flatten_all (l : List α) {size : Nat} (hsize : 0 < size) :
    ((List.range (count l.length size)).map fun i => (l.drop (i * size)).take size).flatten = l := by
  rw [flatten_slices, List.take_of_length_le]
  have hend := (lt_count l.length hsize (count l.length size)).not.1 (Nat.lt_irrefl _)
  omega

theorem toNat_ofNat {n : Nat} (h : n < 2 ^ 32) : (UInt32.ofNat n).toNat = n := by
  rw [UInt32.toNat_ofNat', Nat.mod_eq_of_lt h]

/-- Pages are counted from one. -/
theorem of_succ {k size : UInt32} {i : Nat} (hk : k.toNat = i + 1) (l : List α) :
    of ⟨k, size⟩ l = (l.drop (i * size.toNat)).take size.toNat := by
  show (l.drop ((max k.toNat 1 - 1) * size.toNat)).take size.toNat = _
  rw [hk, Nat.max_eq_left (Nat.le_add_left 1 i), Nat.add_sub_cancel]

/-! ## Reading -/

/-- Reads the first pages of a size, one after the other. -/
def read (page : Page → Action σ (List α)) (size : UInt32) (n : Nat) : Action σ (List α) :=
  List.flatten <$> (List.range n).mapM fun i => page ⟨.ofNat (i + 1), size⟩

/-- The pages of a size part the rows: read one after the other, from the first to the last, they show every row once
and in order. All pages but the last are full, later ones are empty, and page zero is the first one. -/
structure Parts (page : Page → Action σ (List ν)) (s : σ) (before : ν → ν → Prop) (rows : List ν) (size : UInt32) :
    Prop where
  whole : ∃ listing, read page size (count rows.length size.toNat) s = (.ok listing, s) ∧
    listing.Perm rows ∧ listing.Nodup ∧ listing.Pairwise before
  full : ∀ k : UInt32, 0 < k → k.toNat < count rows.length size.toNat →
    ∃ found, page ⟨k, size⟩ s = (.ok found, s) ∧ found.length = size.toNat
  beyond : ∀ k : UInt32, count rows.length size.toNat < k.toNat → page ⟨k, size⟩ s = (.ok [], s)
  zero : page ⟨0, size⟩ s = page ⟨1, size⟩ s

/-- Where pages are cut from the listing of rows with different identifiers, they part these rows. -/
theorem parts_of_listed {page : Page → Action σ (List ν)} {s : σ} {p : Place ν} {rows : List ν} {size : UInt32}
    (hpage : ∀ x, page x s = (.ok (x.of (p.listed rows)), s)) (hrows : p.Distinct rows) (hsize : 0 < size)
    (hcount : count rows.length size.toNat < 2 ^ 32) : Parts page s p.Before rows size := by
  have hlength : (p.listed rows).length = rows.length := (p.perm_listed rows).length_eq
  have hpos : 0 < size.toNat := UInt32.lt_iff_toNat_lt.1 hsize
  refine ⟨⟨p.listed rows, ?_, p.perm_listed rows, (hrows.perm (p.perm_listed rows)).nodup, hrows.listed_before⟩,
    fun k hk hlt => ⟨_, hpage _, ?_⟩, fun k hk => ?_, by rw [hpage, hpage]; rfl⟩
  · have hread : (List.range (count rows.length size.toNat)).mapM (fun i => page ⟨.ofNat (i + 1), size⟩) s =
        (.ok ((List.range (count rows.length size.toNat)).map fun i =>
          ((p.listed rows).drop (i * size.toNat)).take size.toNat), s) := by
      refine Action.mapM_of_ok fun i hi => ?_
      have hlt := List.mem_range.1 hi
      rw [hpage, of_succ (toNat_ofNat (by omega))]
    rw [read, Action.map_of_ok hread, ← hlength, flatten_all _ hpos]
  · -- a page before the last one ends within the listing
    have hkpos : 0 < k.toNat := UInt32.lt_iff_toNat_lt.1 hk
    obtain ⟨i, hi⟩ : ∃ i, k.toNat = i + 1 := ⟨k.toNat - 1, by omega⟩
    have hwithin := (lt_count rows.length hpos k.toNat).1 hlt
    rw [hi, Nat.succ_mul] at hwithin
    rw [of_succ hi, List.length_take, List.length_drop, hlength]
    omega
  · obtain ⟨i, hi⟩ : ∃ i, k.toNat = i + 1 := ⟨k.toNat - 1, by omega⟩
    have hbeyond := (lt_count rows.length hpos i).not.1 (by omega)
    rw [hpage, of_succ hi, List.drop_eq_nil_of_le (by omega), List.take_nil]

end Page

namespace Memory

open Sharing

/-- What is asked of a table that is a part of a store is answered from the rows in sight, and nothing changes. -/
theorem Table.ask_of_view {ω ν α : Type} {p : Part ω (Table ν)} (hp : p.Lawful) {s : ω} {party : Option Handle}
    {rows : Rows ν} (h : (p.get s).view party = .ok rows) (f : Rows ν → Except Error α) :
    p.lift (ask party f) s = (f rows, s) := by
  have hask : ask party f (p.get s) = (f rows, p.get s) := by
    rw [ask, h]
    rfl
  rw [Part.lift_of_eq hask, hp.put_get]

theorem Posts.page_of_view {s : Posts} {party : Option Handle} {rows : Rows Post}
    (h : s.table.view party = .ok rows) (x : Page) :
    store.page party x s = (.ok (x.of (Post.place.listed rows.values)), s) := Table.ask_of_view rows_lawful h _

theorem Comments.page_of_view {s : Comments} {party : Option Handle} {rows : Rows Comment}
    (h : s.table.view party = .ok rows) (x : Page) :
    store.page party x s = (.ok (x.of (Comment.place.listed rows.values)), s) := Table.ask_of_view rows_lawful h _

/-- Whatever several parties have done to a store of posts or a database of comments, and whoever reads it, page by
page: the pages part the rows in sight, as far as their numbers go. -/
theorem pages_part_rows (ds : List (Deed PostCall)) (replica : Replica) (ds' : List (Deed CommentCall))
    (party : Option Handle) {size : UInt32} (hsize : 0 < size) :
    (∀ rows, (Posts.used ds).table.view party = .ok rows → Page.count rows.values.length size.toNat < 2 ^ 32 →
        Page.Parts (Posts.store.page party) (Posts.used ds) Post.place.Before rows.values size) ∧
      ∀ rows, (Comments.used replica ds').table.view party = .ok rows →
        Page.count rows.values.length size.toNat < 2 ^ 32 →
          Page.Parts (Comments.store.page party) (Comments.used replica ds') Comment.place.Before rows.values size := by
  constructor
  · intro rows hview hcount
    have hdistinct := Place.distinct_of_ascending (p := Post.place) (Posts.keptBy_view hview).ascending
    exact Page.parts_of_listed (Posts.page_of_view hview) hdistinct hsize hcount
  · intro rows hview hcount
    have hdistinct := Place.distinct_of_ascending (p := Comment.place) (Comments.keptBy_view hview).ascending
    exact Page.parts_of_listed (Comments.page_of_view hview) hdistinct hsize hcount

/-- Three posts, of which the last one by identifier was created first. -/
def threePosts : List (Deed PostCall) :=
  [.call none (.create (Fixture.post "a" "first")), .call none (.create (Fixture.post "b" "second")),
    .call none (.create { Fixture.post "c" "third" with created := Calendar.Instant.millennium })]

/-- Two comments on a post that were created at the same time. -/
def twoComments : List (Deed CommentCall) :=
  [.call none (.create ((Fixture.newComment "a" "second").toComment ⟨"n"⟩ Fixture.date)),
    .call none (.create ((Fixture.newComment "a" "first").toComment ⟨"m"⟩ Fixture.date))]

theorem three_posts_in_two_pages :
    Page.Parts (Posts.store.page none) (Posts.used threePosts) Post.place.Before
        (Posts.used threePosts).table.rows.values 2 ∧
      Page.Parts (Comments.store.page none) (Comments.used .empty twoComments) Comment.place.Before
        (Comments.used .empty twoComments).table.rows.values 1 :=
  ⟨(pages_part_rows threePosts .empty [] none (by decide)).1 _ rfl (by decide +kernel),
    (pages_part_rows [] .empty twoComments none (by decide)).2 _ rfl (by decide +kernel)⟩

end Memory

end Forum
