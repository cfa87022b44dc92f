/-!
# Pages

Long listings are read page by page. Pages are counted from one; page zero is the first page too.
-/

namespace Forum

/-- A page of a listing: its number and how many rows a page has. -/
structure Page where
  number : UInt32
  rows : UInt32
deriving DecidableEq, Repr

namespace Page

/-- The number of rows before the page. -/
def offset (p : Page) : Nat := (max p.number.toNat 1 - 1) * p.rows.toNat

/-- The rows of the page. -/
def of {α : Type} (p : Page) (rows : List α) : List α := (rows.drop p.offset).take p.rows.toNat

end Page

end Forum
