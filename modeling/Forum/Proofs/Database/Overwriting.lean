import Forum.Proofs.Database.Mirror
import Forum.Proofs.Service.Keeping

/-!
# Updates

An update is promised to overwrite those fields of a row that can change, and to fail where there is no row of the
identifier (`Edit.promised`). A database that keeps tables does that (`Edit.keptOver_of_ready`). In memory an update
takes the record over as it is, be there a row or not (`Table.put_of_view`). So it does what is promised just where
there is a row of which the record only differs in the fields that can change (`updates_kept_iff`).
-/

namespace Forum

open Database Session Sql Memory

/-! ## What an update is promised to do -/

/-- How rows are edited: what identifies them, the error where there is none, and a row with those fields of a record
that can change. -/
structure Edit (ν : Type) where
  id : ν → String
  missing : ν → Error
  overwritten : ν → ν → ν

def Post.edit : Edit Post where
  id p := p.id.text
  missing p := .postNotFound p.id
  overwritten old p := { old with title := p.title, description := p.description, updated := p.updated }

def Comment.edit : Edit Comment where
  id c := c.id.text
  missing c := .commentNotFound c.id
  overwritten old c := { old with description := c.description, updated := c.updated }

namespace Edit

variable {ν σ : Type} (e : Edit ν) {rows : Rows ν} {record row : ν}

/-- What an update is promised to answer, and the rows that are promised afterwards. -/
def promised (rows : Rows ν) (record : ν) : Except Error Unit × Rows ν :=
  match rows.get? (e.id record) with
  | none => (.error (e.missing record), rows)
  | some old => (.ok (), rows.insert (e.id record) (e.overwritten old record))

theorem promised_rows (rows : Rows ν) (record : ν) :
    (e.promised rows record).2 = edited rows (e.id record) fun old => e.overwritten old record := by
  unfold promised edited
  cases rows.get? (e.id record) <;> rfl

/-- To take a record over is what is promised just where it has nothing new but what can change. -/
theorem taken_eq_promised_iff :
    (.ok (), rows.insert (e.id record) record) = e.promised rows record ↔
      ∃ old, rows.get? (e.id record) = some old ∧ e.overwritten old record = record := by
  unfold promised
  cases rows.get? (e.id record) with
  | none => simp
  | some old =>
    constructor
    · intro heq
      have hrow := congrArg (fun r : Rows ν => r.get? (e.id record)) (Prod.mk.inj heq).2
      simp only [Rows.get?_insert, if_true] at hrow
      exact ⟨old, rfl, (Option.some.inj hrow).symm⟩
    · rintro ⟨_, ⟨⟩, hsame⟩
      show _ = (Except.ok (), rows.insert (e.id record) (e.overwritten old record))
      rw [hsame]

/-- An update of a repository in memory answers what is promised, and leaves in sight what is promised. -/
def Kept (table : σ → Table ν) (update : Action σ Unit) (party : Option Handle) (s : σ) (rows : Rows ν) (record : ν) :
    Prop :=
  ∃ rows', (table (update s).2).view party = .ok rows' ∧ ((update s).1, rows') = e.promised rows record

end Edit

/-! ## Updates in memory -/

namespace Memory.Table

variable {ν : Type} {t : Table ν} {party : Option Handle} {rows : Rows ν} {key : String}

theorem put_of_failing (h : t.failing.contains key = true) (party : Option Handle) (row : ν) :
    put party key row t = (.error (.infrastructure s!"injected write failure for {key}"), t) :=
  change_of_error (if_pos h)

/-- A record takes the place of the row of its key, be there one or not. -/
theorem put_of_view (hview : t.view party = .ok rows) (h : t.failing.contains key = false) (row : ν) :
    ∃ t', put party key row t = (.ok (), t') ∧ t'.view party = .ok (rows.insert key row) := by
  have hsound : ¬t.failing.contains key = true := fun hfailing => Bool.false_ne_true (h.symm.trans hfailing)
  cases party with
  | none =>
    obtain rfl := Except.ok.inj hview
    exact ⟨_, change_of_ok (if_neg hsound), rfl⟩
  | some tx =>
    rcases hs : t.stagedBy tx with e | ws
    · rw [view_some, hs] at hview
      cases hview
    have hopen := stagedBy_eq_ok hs
    rw [view_of_getElem? hopen] at hview
    obtain rfl := Except.ok.inj hview
    refine ⟨t.stage tx (ws ++ [(key, some row)]), change_of_ok ?_, ?_⟩
    · rw [write_some, if_neg hsound, hs]
      rfl
    · rw [view_of_getElem? (staged_stage hopen _), Rows.writeAll_append]
      rfl

section

variable {σ : Type} {p : Part σ (Table ν)} {s : σ}

/-- An update takes the record over as it is, unless writes of its key are made to fail. -/
structure TakesOver (table : σ → Table ν) (update : Action σ Unit) (party : Option Handle) (s : σ) (rows : Rows ν)
    (key : String) (record : ν) : Prop where
  barred : (table s).failing.contains key = true →
    update s = (.error (.infrastructure s!"injected write failure for {key}"), s)
  taken : (table s).failing.contains key = false →
    (update s).1 = .ok () ∧ (table (update s).2).view party = .ok (rows.insert key record)

theorem put_takesOver (hp : p.Lawful) (hview : (p.get s).view party = .ok rows) (key : String) (record : ν) :
    TakesOver p.get (p.lift (put party key record)) party s rows key record where
  barred h := by rw [Part.lift_of_eq (put_of_failing h party record), hp.put_get]
  taken h := by
    obtain ⟨t', hput, hview'⟩ := put_of_view hview h record
    rw [Part.lift_of_eq hput, hp.get_put]
    exact ⟨rfl, hview'⟩

/-- In memory an update does what is promised just where its writes go through and there is a row of which the record
only differs in what can change. -/
theorem put_kept_iff (e : Edit ν) (record : ν) (hmissing : ∀ reason, e.missing record ≠ .infrastructure reason)
    (hp : p.Lawful) (hview : (p.get s).view party = .ok rows) :
    e.Kept p.get (p.lift (put party (e.id record) record)) party s rows record ↔
      (p.get s).failing.contains (e.id record) = false ∧
        ∃ old, rows.get? (e.id record) = some old ∧ e.overwritten old record = record := by
  obtain ⟨hbarred, htaken⟩ := put_takesOver hp hview (e.id record) record
  unfold Edit.Kept
  cases h : (p.get s).failing.contains (e.id record) with
  | true =>
    rw [hbarred h]
    refine ⟨?_, fun hfalse => nomatch hfalse.1⟩
    rintro ⟨rows', -, heq⟩
    unfold Edit.promised at heq
    cases hrow : rows.get? (e.id record) with
    | none =>
      rw [hrow] at heq
      exact absurd (Except.error.inj (Prod.mk.inj heq).1).symm (hmissing _)
    | some old =>
      rw [hrow] at heq
      exact nomatch (Prod.mk.inj heq).1
  | false =>
    obtain ⟨hanswer, hview'⟩ := htaken h
    rw [hanswer, ← e.taken_eq_promised_iff]
    constructor
    · rintro ⟨rows', hrows', heq⟩
      obtain rfl := Except.ok.inj (hview'.symm.trans hrows')
      exact ⟨rfl, heq⟩
    · exact fun heq => ⟨_, hview', heq.2⟩

end

end Memory.Table

/-! ## Updates in the database -/

namespace Edit

variable {ν : Type} (e : Edit ν) {rows : Rows ν} {record : ν → Record} {s : Session} {tx : Option Handle} {T : Tables}

/-- A database with tables is sent one statement for an update. The update answers what is promised, and the table holds
afterwards what is promised. -/
def KeptOver (table : String) (record : ν → Record) (query : Query) (st : Statement) (update : Action Session Unit)
    (s : Session) (T : Tables) (rows : Rows ν) (row : ν) : Prop :=
  query.text = st.sql ∧ (update s).2 = s.told st ∧
    (∀ other, other ≠ table → (query.run st.parameters T).2 other = T other) ∧
      ∃ rows', ((query.run st.parameters T).2 table).Perm (rows'.values.map record) ∧
        ((update s).1, rows') = e.promised rows row

theorem keptOver_of_ready (row : ν) {table : String} {changes : List (String × Nat)} {st : Statement} (hs : s.Ready tx)
    (htext : (Query.update table changes ⟨"id", 1⟩).text = st.sql) (hkept : rows.KeptBy e.id)
    (hrows : (T table).Perm (rows.values.map record))
    (hid : ∀ old, Condition.holds ⟨"id", 1⟩ st.parameters (record old) = decide (e.id old = e.id row))
    (hchange : ∀ old, (record old).change changes st.parameters = record (e.overwritten old row))
    (hreply : s.replies.head? = some ((Query.update table changes ⟨"id", 1⟩).run st.parameters T).1) :
    e.KeptOver table record (.update table changes ⟨"id", 1⟩) st (orMissing (e.missing row) (execute tx st)) s T rows
      row := by
  have hcount : ((Query.update table changes ⟨"id", 1⟩).run st.parameters T).1 =
      .affected (if rows.contains (e.id row) then 1 else 0) :=
    congrArg Reply.affected (countP_records hkept hrows hid)
  have hhead : s.replies.headD (.rows []) = .affected (if rows.contains (e.id row) then 1 else 0) := by
    rw [List.headD_eq_head?_getD, hreply, hcount]
    rfl
  have hupdate := orMissing_of_ready hs (e.missing row) st
  rw [hhead] at hupdate
  refine ⟨htext, by rw [hupdate], fun other hother => if_neg hother, (e.promised rows row).2, ?_, Prod.ext ?_ rfl⟩
  · rw [promised_rows]
    have hmap := map_records hkept hrows hid hchange
    show ((T.set table _) table).Perm _
    rw [Tables.set, if_pos rfl]
    exact hmap
  · rw [hupdate]
    unfold promised Rows.contains
    cases rows.get? (e.id row) <;> rfl

end Edit

/-! ## Posts and comments -/

namespace Database

/-- The update of a post. -/
def postUpdate : Query := .update "posts" [("title", 2), ("description", 3), ("date_updated", 4)] ⟨"id", 1⟩

/-- The update of a comment. -/
def commentUpdate : Query := .update "comments" [("description", 2), ("date_updated", 3)] ⟨"id", 1⟩

theorem text_postUpdate (post : Post) : postUpdate.text = (Statement.updatePost post).sql := by
  show _ = (Statement.updatePost (Fixture.post "p" "first")).sql
  decide +kernel

theorem text_commentUpdate (comment : Comment) : commentUpdate.text = (Statement.updateComment comment).sql := by
  show _ = (Statement.updateComment ((Fixture.newComment "p" "first").toComment ⟨"c"⟩ Fixture.date)).sql
  decide +kernel

theorem byId_commentRecord (id : String) (c : Comment) : byId id (commentRecord c) = decide (c.id.text = id) := by
  show decide (Value.text c.id.text = Value.text id) = _
  simp

end Database

theorem Post.overwritten_eq_iff {old p : Post} :
    Post.edit.overwritten old p = p ↔ old.id = p.id ∧ old.user = p.user ∧ old.created = p.created := by
  cases old
  cases p
  simp [Post.edit]

theorem Comment.overwritten_eq_iff {old c : Comment} :
    Comment.edit.overwritten old c = c ↔
      old.id = c.id ∧ old.post = c.post ∧ old.user = c.user ∧ old.created = c.created := by
  cases old
  cases c
  simp [Comment.edit]

/-- An update in memory takes the record over, so what it does is what is promised just where there is a row that only
differs in what can change. In the database it is always what is promised. -/
theorem updates_kept_iff (tx : Option Handle) (post : Post) (comment : Comment) :
    (∀ (s : Memory.Posts) rows, s.table.view tx = .ok rows →
        Table.TakesOver Posts.table (Posts.store.update tx post) tx s rows post.id.text post ∧
          (Post.edit.Kept Posts.table (Posts.store.update tx post) tx s rows post ↔
            s.table.failing.contains post.id.text = false ∧ ∃ old, rows.get? post.id.text = some old ∧
              old.id = post.id ∧ old.user = post.user ∧ old.created = post.created)) ∧
      (∀ (s : Memory.Comments) rows, s.table.view tx = .ok rows →
        Table.TakesOver Comments.table (Comments.store.update tx comment) tx s rows comment.id.text comment ∧
          (Comment.edit.Kept Comments.table (Comments.store.update tx comment) tx s rows comment ↔
            s.table.failing.contains comment.id.text = false ∧ ∃ old, rows.get? comment.id.text = some old ∧
              old.id = comment.id ∧ old.post = comment.post ∧ old.user = comment.user ∧
                old.created = comment.created)) ∧
      (∀ s T (rows : Rows Post), Session.Ready tx s → rows.KeptBy Post.edit.id →
        (T "posts").Perm (rows.values.map postRecord) →
          s.replies.head? = some (postUpdate.run (Statement.updatePost post).parameters T).1 →
            Post.edit.KeptOver "posts" postRecord postUpdate (.updatePost post) (postStore.update tx post) s T rows
              { post with updated := post.updated.toMicros }) ∧
      ∀ s T (rows : Rows Comment), Session.Ready tx s → rows.KeptBy Comment.edit.id →
        (T "comments").Perm (rows.values.map commentRecord) →
          s.replies.head? = some (commentUpdate.run (Statement.updateComment comment).parameters T).1 →
            Comment.edit.KeptOver "comments" commentRecord commentUpdate (.updateComment comment)
              (commentStore.update tx comment) s T rows { comment with updated := comment.updated.toMicros } := by
  refine ⟨fun s rows hview => ⟨Table.put_takesOver Posts.rows_lawful hview _ post, ?_⟩,
    fun s rows hview => ⟨Table.put_takesOver Comments.rows_lawful hview _ comment, ?_⟩,
    fun s T rows hs hkept hrows hreply => ?_, fun s T rows hs hkept hrows hreply => ?_⟩
  · have hkept := Table.put_kept_iff Post.edit post (fun _ => nofun) Posts.rows_lawful hview
    simp only [Post.overwritten_eq_iff] at hkept
    exact hkept
  · have hkept := Table.put_kept_iff Comment.edit comment (fun _ => nofun) Comments.rows_lawful hview
    simp only [Comment.overwritten_eq_iff] at hkept
    exact hkept
  · exact Post.edit.keptOver_of_ready { post with updated := post.updated.toMicros } hs (text_postUpdate post) hkept
      hrows (byId_postRecord post.id.text) (fun _ => rfl) hreply
  · exact Comment.edit.keptOver_of_ready { comment with updated := comment.updated.toMicros } hs
      (text_commentUpdate comment) hkept hrows (byId_commentRecord comment.id.text) (fun _ => rfl) hreply

/-- A store with one post. -/
def onePost : Memory.Posts := (Posts.store.create none (Fixture.post "p" "first") .empty).2

/-- A database with this post. -/
def onePostTables : Tables := Tables.empty.set "posts" [postRecord (Fixture.post "p" "first")]

/-- The post with another title. -/
def retitled : Post := Fixture.post "p" "second"

/-- A comment on the post. -/
def remark : Comment := (Fixture.newComment "p" "first").toComment ⟨"c"⟩ Fixture.date

/-- A store with this comment. -/
def oneRemark : Memory.Comments := (Comments.store.create none remark .empty).2

/-- A database with this comment. -/
def oneRemarkTables : Tables := Tables.empty.set "comments" [commentRecord remark]

/-- The comment with another text. -/
def reworded : Comment := { remark with description := "second" }

theorem retitled_kept :
    (Post.edit.Kept Posts.table (Posts.store.update none retitled) none onePost onePost.table.rows retitled ∧
      Comment.edit.Kept Comments.table (Comments.store.update none reworded) none oneRemark oneRemark.table.rows
        reworded) ∧
      Post.edit.KeptOver "posts" postRecord postUpdate (.updatePost retitled) (postStore.update none retitled)
        (.new [.affected 1] [] none) onePostTables onePost.table.rows
        { retitled with updated := retitled.updated.toMicros } ∧
      Comment.edit.KeptOver "comments" commentRecord commentUpdate (.updateComment reworded)
        (commentStore.update none reworded) (.new [.affected 1] [] none) oneRemarkTables oneRemark.table.rows
        { reworded with updated := reworded.updated.toMicros } := by
  obtain ⟨hposts, hcomments, hpostTables, hcommentTables⟩ := updates_kept_iff none retitled reworded
  refine ⟨⟨(hposts onePost _ rfl).2.2 ⟨rfl, Fixture.post "p" "first", rfl, rfl, rfl, rfl⟩,
    (hcomments oneRemark _ rfl).2.2 ⟨rfl, remark, rfl, rfl, rfl, rfl, rfl⟩⟩, ?_, ?_⟩
  · refine hpostTables (.new [.affected 1] [] none) onePostTables _ ⟨rfl, rfl⟩ ?_ (.refl _) (by decide +kernel)
    show (Rows.empty.write ("p", some (Fixture.post "p" "first"))).KeptBy Post.edit.id
    exact Rows.keptBy_empty.write (Rows.Write.proper_some rfl)
  · refine hcommentTables (.new [.affected 1] [] none) oneRemarkTables _ ⟨rfl, rfl⟩ ?_ (.refl _) (by decide +kernel)
    show (Rows.empty.write ("c", some remark)).KeptBy Comment.edit.id
    exact Rows.keptBy_empty.write (Rows.Write.proper_some rfl)

/-- The post as if it had been created earlier. -/
def backdated : Post := { retitled with created := Calendar.Instant.millennium }

/-- An update of a post or comment that is not there inserts it, and an update of a post that is there replaces the time
when it was created. -/
theorem update_unkept :
    ¬Post.edit.Kept Posts.table (Posts.store.update none retitled) none .empty .empty retitled ∧
      ¬Comment.edit.Kept Comments.table (Comments.store.update none remark) none .empty .empty remark ∧
      ¬Post.edit.Kept Posts.table (Posts.store.update none backdated) none onePost onePost.table.rows backdated := by
  refine ⟨?_, ?_, fun hkept => ?_⟩
  · rintro ⟨_, -, heq⟩
    exact nomatch (Prod.mk.inj heq).1
  · rintro ⟨_, -, heq⟩
    exact nomatch (Prod.mk.inj heq).1
  · have hview : (Posts.rows.get onePost).view none = .ok onePost.table.rows := rfl
    have hiff := Table.put_kept_iff Post.edit backdated (fun _ => nofun) Posts.rows_lawful hview
    obtain ⟨-, old, hold, hsame⟩ := hiff.1 hkept
    obtain rfl := Option.some.inj hold
    exact absurd (Post.overwritten_eq_iff.1 hsame).2.2 (by decide)

end Forum
