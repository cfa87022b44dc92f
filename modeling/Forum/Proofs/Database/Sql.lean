import Mathlib.Tactic.Common
import Forum.Calendar.Format
import Forum.Database.Session
import Forum.Fixture

/-!
# What the statements of the replica do

The statements that the replica sends are read as queries of a small part of SQL (`Sql.read?`), and nothing is read into
them: the text of the query is the text of the statement (`Sql.text_read?`). What a query does to tables of records, and
what the database replies to it, is `Query.run`. A query takes effect as a whole. Every table has a column `id` as its
primary key.
-/

namespace Forum.Database

/-- A value as a cell of a row shows it. -/
def Value.cell : Value → String
  | text t => t
  | number n => toString n.toInt
  | time t => t.text

namespace Sql

/-! ## Queries -/

/-- `column = $parameter` -/
structure Condition where
  column : String
  parameter : Nat
deriving DecidableEq

/-- What is inserted: all parameters, be it on condition that a table has no record of a kind. -/
inductive Origin where
  /-- `VALUES ($1, …)` -/
  | values
  /-- `SELECT $1, … WHERE NOT EXISTS (SELECT 1 FROM table WHERE condition)` -/
  | unlessIn (table : String) (condition : Condition)
deriving DecidableEq

/-- `INSERT INTO table (columns) origin ON CONFLICT (id) DO NOTHING` -/
structure Insertion where
  table : String
  columns : List String
  origin : Origin
deriving DecidableEq

inductive Query where
  | insert (insertion : Insertion)
  /-- `UPDATE table SET column = $n, … WHERE condition` -/
  | update (table : String) (changes : List (String × Nat)) (condition : Condition)
  /-- `DELETE FROM table WHERE condition` -/
  | delete (table : String) (condition : Condition)
  /-- `SELECT columns FROM table WHERE condition` -/
  | select (columns : List String) (table : String) (condition : Condition)
  /-- `WITH name AS ( INSERT … ) query`, where the query is about another table. -/
  | inserting (name : String) (insertion : Insertion) (query : Query)
deriving DecidableEq

/-- The place of a parameter. -/
def placeholder (n : Nat) : String := "$" ++ Text.Decimal.text n

def Condition.text (c : Condition) : String := s!"{c.column} = {placeholder c.parameter}"

/-- The places of the first parameters. -/
def placeholders (n : Nat) : String := Statement.listed ((List.range' 1 n).map placeholder)

def Origin.text (n : Nat) : Origin → String
  | values => s!"VALUES ({placeholders n})"
  | unlessIn table c => s!"SELECT {placeholders n} WHERE NOT EXISTS (SELECT 1 FROM {table} WHERE {c.text})"

def Insertion.text (i : Insertion) : String :=
  s!"INSERT INTO {i.table} ({Statement.listed i.columns}) {i.origin.text i.columns.length} ON CONFLICT (id) DO NOTHING"

def Query.text : Query → String
  | insert i => i.text
  | update table changes c =>
    s!"UPDATE {table} SET {Statement.listed (changes.map fun d => (Condition.mk d.1 d.2).text)} WHERE {c.text}"
  | delete table c => s!"DELETE FROM {table} WHERE {c.text}"
  | select columns table c => s!"SELECT {Statement.listed columns} FROM {table} WHERE {c.text}"
  | inserting name i query => s!"WITH {name} AS ( {i.text} ) {query.text}"

/-! ## The statements of the replica -/

/-- The query that a statement of the replica is. -/
def read? : Statement → Option Query
  | .replicatePost _ => some (.insert ⟨"posts", Statement.postColumns, .unlessIn "deleted_posts" ⟨"id", 1⟩⟩)
  | .updateReplica _ =>
    some (.update "posts" [("title", 2), ("description", 3), ("user_id", 4), ("date_updated", 5)] ⟨"id", 1⟩)
  | .buryPost _ => some (.inserting "tombstone" ⟨"deleted_posts", ["id"], .values⟩ (.delete "posts" ⟨"id", 1⟩))
  | .tombstoneById _ => some (.select ["id"] "deleted_posts" ⟨"id", 1⟩)
  | .postById _ => some (.select Statement.postColumns "posts" ⟨"id", 1⟩)
  | _ => none

/-- The query is what the statement says. -/
theorem text_read? {st : Statement} {q : Query} (h : read? st = some q) : q.text = st.sql := by
  -- the text is the same for all posts
  cases st with
  | replicatePost post =>
    obtain rfl := Option.some.inj h
    show _ = (Statement.replicatePost (Fixture.post "p" "first")).sql
    decide +kernel
  | updateReplica post =>
    obtain rfl := Option.some.inj h
    show _ = (Statement.updateReplica (Fixture.post "p" "first")).sql
    decide +kernel
  | buryPost id =>
    obtain rfl := Option.some.inj h
    show _ = (Statement.buryPost ⟨"p"⟩).sql
    decide +kernel
  | tombstoneById id =>
    obtain rfl := Option.some.inj h
    show _ = (Statement.tombstoneById ⟨"p"⟩).sql
    decide +kernel
  | postById id =>
    obtain rfl := Option.some.inj h
    show _ = (Statement.postById ⟨"p"⟩).sql
    decide +kernel
  | _ => nomatch h

/-! ## What queries do -/

/-- The columns of a record with their values. A column that is not there is null. -/
abbrev Record := List (String × Value)

/-- The records of every table. -/
abbrev Tables := String → List Record

/-- No records. -/
def Tables.empty : Tables := fun _ => []

/-- The tables with other records in one of them. -/
def Tables.set (T : Tables) (table : String) (records : List Record) : Tables := fun t =>
  if t = table then records else T t

/-- The value of a parameter. -/
def argument (ps : List Value) (n : Nat) : Option Value := ps[n - 1]?

/-- The condition holds of a record. Null is equal to nothing. -/
def Condition.holds (c : Condition) (ps : List Value) (r : Record) : Bool :=
  match r.lookup c.column, argument ps c.parameter with
  | some v, some w => v = w
  | _, _ => false

/-- There is something to insert. -/
def Origin.gives (T : Tables) (ps : List Value) : Origin → Bool
  | values => true
  | unlessIn table c => !(T table).any (c.holds ps)

/-- The record that is to be inserted. -/
def Insertion.record (i : Insertion) (ps : List Value) : Record := i.columns.zip ps

/-- A record has the key of another one. -/
def Record.meets (r s : Record) : Bool := r.lookup "id" == s.lookup "id"

/-- Inserts a record unless there is one of its key, and tells how many were inserted. -/
def Insertion.run (i : Insertion) (ps : List Value) (T : Tables) : Nat × Tables :=
  if i.origin.gives T ps && !(T i.table).any (Record.meets (i.record ps)) then
    (1, T.set i.table (T i.table ++ [i.record ps]))
  else (0, T)

/-- A record with the values of parameters in some of its columns. -/
def Record.change (r : Record) (changes : List (String × Nat)) (ps : List Value) : Record :=
  r.map fun d => (d.1, ((changes.lookup d.1).bind (argument ps)).getD d.2)

/-- The cells of some columns. -/
def Record.cells (r : Record) (columns : List String) : List Cell := columns.map fun c => (r.lookup c).map Value.cell

/-- What the database replies to a query with parameters, and the tables afterwards. -/
def Query.run : Query → List Value → Tables → Reply × Tables
  | insert i, ps, T =>
    let (n, T) := i.run ps T
    (.affected n, T)
  | update table changes c, ps, T =>
    (.affected ((T table).countP (c.holds ps)),
      T.set table ((T table).map fun r => if c.holds ps r then r.change changes ps else r))
  | delete table c, ps, T =>
    (.affected ((T table).countP (c.holds ps)), T.set table ((T table).filter fun r => !c.holds ps r))
  | select columns table c, ps, T => (.rows (((T table).filter (c.holds ps)).map fun r => r.cells columns), T)
  | inserting _ i query, ps, T => query.run ps (i.run ps T).2

/-- What the database replies to a statement of the replica, and the tables afterwards. -/
def Tables.answer (T : Tables) (st : Statement) : Reply × Tables :=
  match read? st with
  | some q => q.run st.parameters T
  | none => (.rows [], T)

/-- The replies to statements one after the other, and the tables afterwards. -/
def Tables.serve (T : Tables) : List Statement → List Reply × Tables
  | [] => ([], T)
  | st :: sts =>
    let (replies, T') := (T.answer st).2.serve sts
    ((T.answer st).1 :: replies, T')

end Sql

end Forum.Database
