import Forum.Comment
import Forum.Page

/-!
# Statements

The statements that the stores send to the database: their text, and the values of the parameters `$1`, `$2` and so on
in it. Texts have single blanks between their words.

The database of the posts service has a table `posts`. The database of the comments service has a table `comments`, the
replica `posts`, and `deleted_posts` with the identifiers of posts that were deleted.
-/

namespace Forum.Database

open Calendar

/-- The value of a parameter: a text, a number of 64 bits with a sign, or a time in whole microseconds. -/
inductive Value where
  | text (text : String)
  | number (number : Int64)
  | time (time : Instant)
deriving DecidableEq, Repr

namespace Value

/-- A count as a number. One of 2 ^ 63 or more comes out negative. -/
def count (n : Nat) : Value := number (.ofNat n)

/-- A time as the database keeps it. -/
def micros (t : Instant) : Value := time t.toMicros

end Value

/-- A statement with parameters. -/
inductive Statement where
  | insertPost (post : Post)
  | updatePost (post : Post)
  | deletePost (id : PostId)
  | pageOfPosts (page : Page)
  | postById (id : PostId)
  | postsByUser (user : UserId)
  | insertComment (comment : Comment)
  | updateComment (comment : Comment)
  | deleteComment (id : CommentId)
  | pageOfComments (page : Page)
  | commentById (id : CommentId)
  | commentsByUser (user : UserId)
  | commentsByPost (post : PostId)
  /-- The post with each of its comments. -/
  | postWithComments (post : PostId)
  /-- Inserts a post into the replica unless it is there or was deleted. -/
  | replicatePost (post : Post)
  /-- Changes a post of the replica. -/
  | updateReplica (post : Post)
  /-- Removes a post from the replica and remembers that it was deleted. -/
  | buryPost (id : PostId)
  /-- Tells whether a post was deleted. -/
  | tombstoneById (id : PostId)
deriving DecidableEq, Repr

namespace Statement

/-- The columns of a post. -/
def postColumns : List String := ["id", "title", "description", "user_id", "date_created", "date_updated"]

/-- The columns of a comment. -/
def commentColumns : List String := ["id", "description", "post_id", "user_id", "date_created", "date_updated"]

/-- Columns with commas between them. -/
def listed (columns : List String) : String := String.intercalate ", " columns

/-- The end of a statement that asks for a page. -/
def paged : String := "ORDER BY date_created, id OFFSET $1 ROWS FETCH NEXT $2 ROWS ONLY"

/-- The text of a statement. -/
def sql : Statement → String
  | insertPost _ => s!"INSERT INTO posts ({listed postColumns}) VALUES ($1, $2, $3, $4, $5, $6)"
  | updatePost _ => "UPDATE posts SET title = $2, description = $3, date_updated = $4 WHERE id = $1"
  | deletePost _ => "DELETE FROM posts WHERE id = $1"
  | pageOfPosts _ => s!"SELECT {listed postColumns} FROM posts {paged}"
  | postById _ => s!"SELECT {listed postColumns} FROM posts WHERE id = $1"
  | postsByUser _ => s!"SELECT {listed postColumns} FROM posts WHERE user_id = $1 ORDER BY date_created, id"
  | insertComment _ => s!"INSERT INTO comments ({listed commentColumns}) VALUES ($1, $2, $3, $4, $5, $6)"
  | updateComment _ => "UPDATE comments SET description = $2, date_updated = $3 WHERE id = $1"
  | deleteComment _ => "DELETE FROM comments WHERE id = $1"
  | pageOfComments _ => s!"SELECT {listed commentColumns} FROM comments {paged}"
  | commentById _ => s!"SELECT {listed commentColumns} FROM comments WHERE id = $1"
  | commentsByUser _ => s!"SELECT {listed commentColumns} FROM comments WHERE user_id = $1 ORDER BY date_created, id"
  | commentsByPost _ => s!"SELECT {listed commentColumns} FROM comments WHERE post_id = $1 ORDER BY date_created, id"
  | postWithComments _ =>
    "SELECT p.id, p.title, p.description, p.user_id, p.date_created, p.date_updated, c.id AS comment_id, " ++
      "c.description AS comment_description, c.user_id AS comment_user_id, " ++
      "c.date_created AS comment_date_created, c.date_updated AS comment_date_updated " ++
      "FROM posts p LEFT JOIN comments c ON c.post_id = p.id WHERE p.id = $1 ORDER BY c.date_created, c.id"
  | replicatePost _ =>
    s!"INSERT INTO posts ({listed postColumns}) SELECT $1, $2, $3, $4, $5, $6 " ++
      "WHERE NOT EXISTS (SELECT 1 FROM deleted_posts WHERE id = $1) ON CONFLICT (id) DO NOTHING"
  | updateReplica _ => "UPDATE posts SET title = $2, description = $3, user_id = $4, date_updated = $5 WHERE id = $1"
  | buryPost _ =>
    "WITH tombstone AS ( INSERT INTO deleted_posts (id) VALUES ($1) ON CONFLICT (id) DO NOTHING ) " ++
      "DELETE FROM posts WHERE id = $1"
  | tombstoneById _ => "SELECT id FROM deleted_posts WHERE id = $1"

/-- The parameters of a page: how many rows are left out, and how many follow. -/
def pageParameters (p : Page) : List Value := [.count p.offset, .count p.rows.toNat]

/-- The values of the parameters. -/
def parameters : Statement → List Value
  | insertPost p | replicatePost p =>
    [.text p.id.text, .text p.title, .text p.description, .text p.user.text, .micros p.created, .micros p.updated]
  | updatePost p => [.text p.id.text, .text p.title, .text p.description, .micros p.updated]
  | updateReplica p => [.text p.id.text, .text p.title, .text p.description, .text p.user.text, .micros p.updated]
  | insertComment c =>
    [.text c.id.text, .text c.description, .text c.post.text, .text c.user.text, .micros c.created, .micros c.updated]
  | updateComment c => [.text c.id.text, .text c.description, .micros c.updated]
  | deletePost id | postById id | buryPost id | tombstoneById id | commentsByPost id | postWithComments id =>
    [.text id.text]
  | deleteComment id | commentById id => [.text id.text]
  | postsByUser user | commentsByUser user => [.text user.text]
  | pageOfPosts page | pageOfComments page => pageParameters page

end Statement

/-- A statement without parameters. -/
inductive Command where
  | begin
  | commit
  | rollback
  | createPosts
  | createTombstones
  | createComments
deriving DecidableEq, Repr

namespace Command

def sql : Command → String
  | begin => "BEGIN"
  | commit => "COMMIT"
  | rollback => "ROLLBACK"
  | createPosts =>
    "CREATE TABLE IF NOT EXISTS posts ( id TEXT PRIMARY KEY, title TEXT NOT NULL, description TEXT NOT NULL, " ++
      "user_id TEXT NOT NULL, date_created TIMESTAMPTZ NOT NULL, date_updated TIMESTAMPTZ NOT NULL ); " ++
      "CREATE INDEX IF NOT EXISTS idx_posts_user_id ON posts (user_id);"
  | createTombstones =>
    "CREATE TABLE IF NOT EXISTS deleted_posts ( id TEXT PRIMARY KEY, " ++
      "date_deleted TIMESTAMPTZ NOT NULL DEFAULT now() );"
  | createComments =>
    "CREATE TABLE IF NOT EXISTS comments ( id TEXT PRIMARY KEY, description TEXT NOT NULL, post_id TEXT NOT NULL, " ++
      "user_id TEXT NOT NULL, date_created TIMESTAMPTZ NOT NULL, date_updated TIMESTAMPTZ NOT NULL ); " ++
      "CREATE INDEX IF NOT EXISTS idx_comments_post_id ON comments (post_id); " ++
      "CREATE INDEX IF NOT EXISTS idx_comments_user_id ON comments (user_id);"

end Command

end Forum.Database
