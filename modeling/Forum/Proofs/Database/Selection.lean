import Mathlib.Data.List.Perm.Basic
import Forum.Proofs.Database.Keyed

/-!
# Selections

The statements that ask for all rows of a user or a post are read as selections (`Sql.Selection`): the columns that are
shown of the records of a table, or of two tables that are joined, which meet a condition, in the order of some columns.
The text of a selection is the text of the statement (`Sql.text_selection?`). A table is in no order, so a database may
answer with the records in any order that the columns allow (`Selection.Gives`). Where the order of the records is that
of a listing, this leaves it one answer only (`Selection.gives_iff_listed`).
-/

namespace Forum.Database

/-! ## The order of records -/

/-- The order of two values of a column: texts by their characters, times in time. -/
def Value.compare : Value → Value → Ordering
  | text s, text t => Ord.compare s t
  | number m, number n => Ord.compare m.toInt n.toInt
  | time t, time u => t.compare u
  | _, _ => .eq

namespace Sql

/-- The order of what two records have in a column. Null comes last. -/
def compareCells : Option Value → Option Value → Ordering
  | some v, some w => v.compare w
  | some _, none => .lt
  | none, some _ => .gt
  | none, none => .eq

/-- `ORDER BY column, …` -/
def compareBy (columns : List String) (r s : Record) : Ordering :=
  match columns with
  | [] => .eq
  | column :: columns => (compareCells (r.lookup column) (s.lookup column)).then (compareBy columns r s)

/-! ## Selections -/

/-- A column that is shown, perhaps under another name. -/
structure Shown where
  column : String
  name? : Option String
deriving DecidableEq

/-- `left l LEFT JOIN right r ON r.column = l.key` -/
structure Join where
  left : String
  l : String
  right : String
  r : String
  column : String
  key : String
deriving DecidableEq

/-- Where records are from. -/
inductive Source where
  | table (table : String)
  | leftJoin (join : Join)
deriving DecidableEq

/-- `SELECT shown FROM source WHERE condition ORDER BY order` -/
structure Selection where
  shown : List Shown
  source : Source
  condition : Condition
  order : List String
deriving DecidableEq

def Shown.text (s : Shown) : String :=
  match s.name? with
  | none => s.column
  | some name => s!"{s.column} AS {name}"

def Join.text (j : Join) : String := s!"{j.left} {j.l} LEFT JOIN {j.right} {j.r} ON {j.r}.{j.column} = {j.l}.{j.key}"

def Source.text : Source → String
  | table t => t
  | leftJoin j => j.text

def Selection.text (q : Selection) : String :=
  s!"SELECT {Statement.listed (q.shown.map Shown.text)} FROM {q.source.text} WHERE {q.condition.text} " ++
    s!"ORDER BY {Statement.listed q.order}"

/-- Columns under their own names. -/
def plain (columns : List String) : List Shown := columns.map fun column => ⟨column, none⟩

/-- The columns of a post with a comment. -/
def joinedColumns : List Shown :=
  plain ["p.id", "p.title", "p.description", "p.user_id", "p.date_created", "p.date_updated"] ++
    [⟨"c.id", some "comment_id"⟩, ⟨"c.description", some "comment_description"⟩, ⟨"c.user_id", some "comment_user_id"⟩,
      ⟨"c.date_created", some "comment_date_created"⟩, ⟨"c.date_updated", some "comment_date_updated"⟩]

/-- The selection that a statement is. -/
def selection? : Statement → Option Selection
  | .postsByUser _ => some ⟨plain Statement.postColumns, .table "posts", ⟨"user_id", 1⟩, ["date_created", "id"]⟩
  | .commentsByUser _ =>
    some ⟨plain Statement.commentColumns, .table "comments", ⟨"user_id", 1⟩, ["date_created", "id"]⟩
  | .commentsByPost _ =>
    some ⟨plain Statement.commentColumns, .table "comments", ⟨"post_id", 1⟩, ["date_created", "id"]⟩
  | .postWithComments _ =>
    some ⟨joinedColumns, .leftJoin ⟨"posts", "p", "comments", "c", "post_id", "id"⟩, ⟨"p.id", 1⟩,
      ["c.date_created", "c.id"]⟩
  | _ => none

/-- The selection is what the statement says. -/
theorem text_selection? {st : Statement} {q : Selection} (h : selection? st = some q) : q.text = st.sql := by
  -- the text is the same for all users and posts
  cases st with
  | postsByUser user =>
    obtain rfl := Option.some.inj h
    show _ = (Statement.postsByUser ⟨"u"⟩).sql
    decide +kernel
  | commentsByUser user =>
    obtain rfl := Option.some.inj h
    show _ = (Statement.commentsByUser ⟨"u"⟩).sql
    decide +kernel
  | commentsByPost post =>
    obtain rfl := Option.some.inj h
    show _ = (Statement.commentsByPost ⟨"p"⟩).sql
    decide +kernel
  | postWithComments post =>
    obtain rfl := Option.some.inj h
    show _ = (Statement.postWithComments ⟨"p"⟩).sql
    decide +kernel
  | _ => nomatch h

/-! ## What a selection may answer -/

/-- A record with its columns named after its table. -/
def Record.under (r : Record) (table : String) : Record := r.map fun d => (table ++ "." ++ d.1, d.2)

/-- A record with each of those that go with it, or alone where none does. -/
def Record.joined (r : Record) : List Record → List Record
  | [] => [r]
  | matching => matching.map (r ++ ·)

/-- The records of a table that have a value in a column. Null is equal to nothing. -/
def having (column : String) (v? : Option Value) (records : List Record) : List Record :=
  match v? with
  | some v => records.filter (Condition.holds ⟨column, 1⟩ [v])
  | none => []

def Join.records (j : Join) (T : Tables) : List Record :=
  (T j.left).flatMap fun a =>
    (a.under j.l).joined ((having j.column (a.lookup j.key) (T j.right)).map fun b => b.under j.r)

def Source.records (T : Tables) : Source → List Record
  | table t => T t
  | leftJoin j => j.records T

/-- The cells that are shown of a record. -/
def Record.show (r : Record) (shown : List Shown) : List Cell := r.cells (shown.map Shown.column)

/-- A database with the tables may answer a selection with these rows: they show the records that meet the condition, in
an order that the columns allow. -/
def Selection.Gives (q : Selection) (ps : List Value) (T : Tables) (found : List (List Cell)) : Prop :=
  ∃ records : List Record, records.Perm ((q.source.records T).filter (q.condition.holds ps)) ∧
    (records.Pairwise fun r s => compareBy q.order r s ≠ .gt) ∧ found = records.map fun r => r.show q.shown

variable {ν : Type}

/-- Where records are in order as the rows of a listing are, the listing is the one answer. -/
theorem Selection.gives_iff_listed {q : Selection} {ps : List Value} {T : Tables} {p : Place ν} {rows : List ν}
    {record : ν → Record} (hrows : p.Distinct rows)
    (hrecords : ((q.source.records T).filter (q.condition.holds ps)).Perm (rows.map record))
    (horder : ∀ a b, compareBy q.order (record a) (record b) = p.compare a b) (found : List (List Cell)) :
    q.Gives ps T found ↔ found = (p.listed rows).map fun row => (record row).show q.shown := by
  have hsorted (n : List ν) : ((n.map record).Pairwise fun r s => compareBy q.order r s ≠ .gt) ↔
      n.Pairwise fun a b => p.compare a b ≠ .gt := by
    simp only [List.pairwise_map, horder]
  constructor
  · rintro ⟨records, hperm, hpairwise, rfl⟩
    obtain ⟨n, rfl, hn⟩ : ∃ n : List ν, records = n.map record ∧ n.Perm rows :=
      (iff_of_eq (congrFun (congrFun (List.eq_map_comp_perm record) records) rows)).2 (hperm.trans hrecords)
    rw [hrows.eq_listed hn ((hsorted n).1 hpairwise), List.map_map]
    rfl
  · rintro rfl
    refine ⟨(p.listed rows).map record, ?_, (hsorted _).2 (p.sorted_listed rows), ?_⟩
    · exact ((p.perm_listed rows).map record).trans hrecords.symm
    · rw [List.map_map]
      rfl

/-- At most one record is in order as it is. -/
theorem Selection.gives_iff_of_toList {q : Selection} {ps : List Value} {T : Tables} {record? : Option Record}
    (hrecords : (q.source.records T).filter (q.condition.holds ps) = record?.toList) (found : List (List Cell)) :
    q.Gives ps T found ↔ found = record?.toList.map fun r => r.show q.shown := by
  constructor
  · rintro ⟨records, hperm, -, rfl⟩
    rw [hrecords] at hperm
    rw [perm_toList hperm]
  · rintro rfl
    refine ⟨record?.toList, by rw [hrecords], ?_, rfl⟩
    cases record? with
    | none => exact .nil
    | some r => exact List.pairwise_singleton _ _

end Sql

end Forum.Database
