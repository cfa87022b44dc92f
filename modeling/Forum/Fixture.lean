import Forum.Calendar.Instant
import Forum.Comment

/-!
# Fixtures

Records to try things out with.
-/

namespace Forum.Fixture

open Calendar

/-- The user of all fixtures. -/
def user : UserId := ⟨"5cf37266-3473-4006-984f-9325122678b7"⟩

/-- The time of all fixtures: the first of October 2018, at midnight. -/
def date : Instant := (Instant.of? ((Date.of? 2018 10 1).get (by decide)) 0 0).get (by decide)

/-- What is asked for to get a post of a title. -/
def newPost (title : String) : NewPost := ⟨title, title ++ " description", user.text⟩

/-- A post of a title. -/
def post (id title : String) : Post := (newPost title).toPost ⟨id⟩ date

/-- What is asked for to get a comment on a post. -/
def newComment (post description : String) : NewComment := ⟨description, post, user.text⟩

end Forum.Fixture
