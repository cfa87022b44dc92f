import Forum.Calendar.Parser
import Forum.Database.Session

/-!
# Rows

How the cells of a row are read. Cells are read in the order of the columns, and the first that is not as it should be
is the fault of the row.
-/

namespace Forum.Database

open Calendar

/-- Reads the cells of a row from the left. -/
abbrev RowReader (α : Type) : Type := StateT (List Cell) (Except Fault) α

namespace RowReader

/-- The next cell. -/
def cell : RowReader Cell := modifyGet fun cells => (cells.headD none, cells.tail)

/-- A text that is there. -/
def text (column : Column) : RowReader String := do
  match ← cell with
  | some text => pure text
  | none => throw (.nullColumn column)

/-- The time that a text tells, to the microsecond. -/
def timeOf (column : Column) (text : String) : RowReader Instant :=
  match Instant.parse text with
  | .ok time => pure time.toMicros
  | .error e => throw (.badColumn column e.message)

/-- A time that is there. -/
def time (column : Column) : RowReader Instant := do timeOf column (← text column)

/-- A time that may be absent. -/
def time? (column : Column) : RowReader (Option Instant) := do
  match ← cell with
  | some text => some <$> timeOf column text
  | none => pure none

/-- A post. -/
def post : RowReader Post := do
  pure ⟨⟨← text (.named "id")⟩, ← text (.named "title"), ← text (.named "description"), ⟨← text (.named "user_id")⟩,
    ← time (.named "date_created"), ← time (.named "date_updated")⟩

/-- A comment. -/
def comment : RowReader Comment := do
  pure ⟨⟨← text (.named "id")⟩, ← text (.named "description"), ⟨← text (.named "post_id")⟩,
    ⟨← text (.named "user_id")⟩, ← time (.named "date_created"), ← time (.named "date_updated")⟩

/-- A post with a comment on it. There is a comment only where all its cells have a value. -/
def postComment : RowReader PostComment := do
  let post ← post
  let id ← cell
  let description ← cell
  let user ← cell
  let created ← time? (.named "comment_date_created")
  let updated ← time? (.named "comment_date_updated")
  pure ⟨post, do some ⟨⟨← id⟩, ← description, post.id, ⟨← user⟩, ← created, ← updated⟩⟩

/-- The identifier of a post that was deleted. -/
def tombstone : RowReader PostId := do pure ⟨← text (.at 0)⟩

/-- Reads a row. -/
def read {α : Type} (r : RowReader α) (row : List Cell) : Request α :=
  match r row with
  | .ok (a, _) => pure a
  | .error fault => throw (.database fault)

end RowReader

namespace Session

/-- All rows that a statement finds. -/
def fetchAll {α : Type} (tx : Option Handle) (r : RowReader α) (statement : Statement) : Request (List α) := do
  (← query tx statement).mapM r.read

/-- The first row that a statement finds. -/
def fetchOne {α : Type} (tx : Option Handle) (r : RowReader α) (statement : Statement) : Request (Option α) := do
  match ← query tx statement with
  | [] => pure none
  | row :: _ => some <$> r.read row

end Session

end Forum.Database
