import Forum.Memory.Table
import Forum.Transaction

/-!
# Posts in memory

The store of the posts service as a table. The beginning and the end of transactions can be made to fail; a call that is
made to fail does nothing. Every call is counted.
-/

namespace Forum.Memory

/-- How often transactions were begun, committed and rolled back, failed calls included. -/
structure Journal where
  begun : Nat
  committed : Nat
  rolledBack : Nat
deriving DecidableEq, Repr

/-- The posts, which calls fail, and how long transactions may take, in milliseconds. -/
structure Posts where
  table : Table Post
  journal : Journal
  failBegin : Bool
  failCommit : Bool
  failRollback : Bool
  limit : Option Nat
deriving DecidableEq

namespace Posts

/-- A store without posts in which nothing fails. -/
def empty : Posts := ⟨.empty, ⟨0, 0, 0⟩, false, false, false, none⟩

/-- The table of the store. -/
def rows : Part Posts (Table Post) := ⟨table, fun t s => { s with table := t }⟩

/-- Posts in the order of listings. -/
def listed (posts : List Post) : List Post := posts.mergeSort Post.precedes

/-- The store of posts that a table is. -/
def tableStore : PostStore (Table Post) where
  create tx post := Table.putNew tx post.id.text post
  update tx post := Table.put tx post.id.text post
  delete tx id := Table.remove tx id.text
  page tx page := Table.ask tx fun r => .ok (page.of (listed r.values))
  find tx id := Table.ask tx fun r => (r.get? id.text).elim (.error (.postNotFound id)) .ok
  ofUser tx user := Table.ask tx fun r => .ok (r.values.filter fun p => p.user = user)

/-- The store of posts. -/
def store : PostStore Posts := rows.posts tableStore

/-- A call that is made to fail, or else made. -/
def orFail {α : Type} (fails : Bool) (reason : String) (a : Action Posts α) : Action Posts α :=
  if fails then throw (.transaction reason) else a

/-- The transactions of the store. -/
def transactions : Transactions Posts where
  begin := fun s =>
    let s := { s with journal := { s.journal with begun := s.journal.begun + 1 } }
    orFail s.failBegin "injected begin failure" (fun s =>
      let (tx, table) := s.table.begin
      (.ok tx, { s with table := table })) s
  commit tx := fun s =>
    let s := { s with journal := { s.journal with committed := s.journal.committed + 1 } }
    orFail s.failCommit "injected commit failure" (rows.lift (Table.change fun t => t.commit tx)) s
  rollback tx := fun s =>
    let s := { s with journal := { s.journal with rolledBack := s.journal.rolledBack + 1 } }
    orFail s.failRollback "injected rollback failure" (rows.lift (Table.change fun t => t.rollback tx)) s
  limit s := s.limit
  now _ := 0

end Posts

end Forum.Memory
