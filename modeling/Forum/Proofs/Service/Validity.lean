import Forum.Proofs.Service.Life
import Forum.Proofs.Text.Cut

/-!
# What requests ask for

A request to a service asks for a milestone of one record (`PostRequest.milestone`, `CommentRequest.milestone`). What a
request that was checked creates is sound, if the identifier that was drawn for it is a UUID
(`NewPost.sound_of_validate`, `NewComment.sound_of_validate`), and what it changes stays sound
(`Post.Sound.apply`, `Comment.Sound.apply`).
-/

namespace Forum

open Calendar

/-! ## Checks -/

theorem trimmed_of_requireText {field value : String} (h : requireText field value = .ok ()) :
    Text.trimmed value ≠ "" := by
  intro htrimmed
  rw [requireText, if_pos ((Text.isBlankText_iff value).2 htrimmed)] at h
  nomatch h

theorem trimmed_of_requireTextIfGiven {field : String} {value : Option String}
    (h : requireTextIfGiven field value = .ok ()) {old : String} (hold : Text.trimmed old ≠ "") :
    Text.trimmed (value.getD old) ≠ "" := by
  cases value with
  | none => exact hold
  | some text => exact trimmed_of_requireText h

theorem isUuidText_of_requireUuid {field value : String} (h : requireUuid field value = .ok ()) :
    Uuid.isUuidText value = true := by
  unfold requireUuid at h
  split at h
  · assumption
  · nomatch h

/-- Checks one after the other succeed together. -/
theorem check_bind_eq_ok {c : Except Error Unit} {d : Unit → Except Error Unit} (h : (c >>= d) = .ok ()) :
    c = .ok () ∧ d () = .ok () := by
  cases c with
  | error e => nomatch h
  | ok x => exact ⟨rfl, h⟩

/-! ## Sound records -/

/-- A post that is kept under a key has the key as its identifier, texts that are not blank, and identifiers that are
UUIDs. -/
structure Post.Sound (key : String) (p : Post) : Prop where
  key : p.id.text = key
  title : Text.trimmed p.title ≠ ""
  description : Text.trimmed p.description ≠ ""
  id : Uuid.isUuidText p.id.text = true
  user : Uuid.isUuidText p.user.text = true

/-- A comment that is kept under a key has the key as its identifier, a text that is not blank, and identifiers that are
UUIDs. -/
structure Comment.Sound (key : String) (c : Comment) : Prop where
  key : c.id.text = key
  description : Text.trimmed c.description ≠ ""
  id : Uuid.isUuidText c.id.text = true
  post : Uuid.isUuidText c.post.text = true
  user : Uuid.isUuidText c.user.text = true

theorem NewPost.sound_of_validate {new : NewPost} (h : new.validate = .ok ()) {id : PostId}
    (hid : Uuid.isUuidText id.text = true) (now : Instant) : (new.toPost id now).Sound id.text := by
  obtain ⟨htitle, h⟩ := check_bind_eq_ok h
  obtain ⟨hdescription, huser⟩ := check_bind_eq_ok h
  exact ⟨rfl, trimmed_of_requireText htitle, trimmed_of_requireText hdescription, hid, isUuidText_of_requireUuid huser⟩

theorem NewComment.sound_of_validate {new : NewComment} (h : new.validate = .ok ()) {id : CommentId}
    (hid : Uuid.isUuidText id.text = true) (now : Instant) : (new.toComment id now).Sound id.text := by
  obtain ⟨hdescription, h⟩ := check_bind_eq_ok h
  obtain ⟨hpost, huser⟩ := check_bind_eq_ok h
  exact ⟨rfl, trimmed_of_requireText hdescription, hid, isUuidText_of_requireUuid hpost, isUuidText_of_requireUuid huser⟩

theorem Post.Sound.apply {key : String} {p : Post} (h : p.Sound key) {u : PostUpdate} (hu : u.validate = .ok ())
    (now : Instant) : (p.apply u now).Sound key := by
  obtain ⟨htitle, hdescription⟩ := check_bind_eq_ok hu
  exact ⟨h.key, trimmed_of_requireTextIfGiven htitle h.title, trimmed_of_requireTextIfGiven hdescription h.description,
    h.id, h.user⟩

theorem Comment.Sound.apply {key : String} {c : Comment} (h : c.Sound key) {u : CommentUpdate}
    (hu : u.validate = .ok ()) (now : Instant) : (c.apply u now).Sound key :=
  ⟨h.key, trimmed_of_requireTextIfGiven hu h.description, h.id, h.post, h.user⟩

/-! ## Requests and their milestones -/

namespace PostRequest

/-- The milestone of a post that the request asks for. -/
def milestone : PostRequest → Option (String × Milestone Post)
  | create id new now => some (id.text, .created (new.toPost id now))
  | update id _ now => some (id, .changed now)
  | delete id => some (id, .removed)
  | _ => none

/-- Only a creation asks for a new post. -/
theorem eq_create_of_milestone {r : PostRequest} {key : String} {first : Post}
    (h : r.milestone = some (key, .created first)) :
    ∃ id new now, r = create id new now ∧ key = id.text ∧ first = new.toPost id now := by
  cases r with
  | create id new now =>
    cases h
    exact ⟨id, new, now, rfl, rfl, rfl⟩
  | _ => cases h

/-- The identifiers that were drawn for the request. -/
def drawn : PostRequest → List String
  | create id _ _ => [id.text]
  | _ => []

end PostRequest

namespace CommentRequest

/-- The milestone of a comment that the request asks for. -/
def milestone : CommentRequest → Option (String × Milestone Comment)
  | create id new now => some (id.text, .created (new.toComment id now))
  | update id _ now => some (id, .changed now)
  | delete id => some (id, .removed)
  | _ => none

/-- Only a creation asks for a new comment. -/
theorem eq_create_of_milestone {r : CommentRequest} {key : String} {first : Comment}
    (h : r.milestone = some (key, .created first)) :
    ∃ id new now, r = create id new now ∧ key = id.text ∧ first = new.toComment id now := by
  cases r with
  | create id new now =>
    cases h
    exact ⟨id, new, now, rfl, rfl, rfl⟩
  | _ => cases h

/-- The identifiers that were drawn for the request. -/
def drawn : CommentRequest → List String
  | create id _ _ => [id.text]
  | _ => []

end CommentRequest

/-- What a milestone makes of the posts: one is only created where there is none. -/
abbrev MadePosts := Made Post.traits Post.Sound (· = none)

/-- What a milestone makes of the comments. -/
abbrev MadeComments := Made Comment.traits Comment.Sound fun _ => True

/-- What annals make of the posts. -/
abbrev MakesPosts := Makes Post.traits Post.Sound (· = none)

/-- What annals make of the comments. -/
abbrev MakesComments := Makes Comment.traits Comment.Sound fun _ => True

end Forum
