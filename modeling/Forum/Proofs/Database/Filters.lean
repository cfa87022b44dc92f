import Forum.Proofs.Database.Mirror
import Forum.Proofs.Database.Selection
import Forum.Proofs.Service.Paging

/-!
# The rows of a user or a post

In memory the rows of a user or a post are answered in the order of their identifiers (`Place.finds_of_ascending`),
and a post with its comments likewise. A database that keeps tables is asked for a listing (`Lists`), and has no other
answer than that (`lists_posts`, `lists_comments`, `lists_joined`). So the answers have the same rows, and they are the
same just where the times of creation do not decrease with the identifiers (`filtered_rows`).
-/

namespace Forum

open Calendar Database Session Sql Sharing

/-! ## Some of the rows -/

/-- A query finds the rows of a kind, each once, in the order of the identifiers. They can be listed, and they are a
listing just where the times of creation do not decrease. -/
structure Place.Finds {σ ν : Type} (p : Place ν) (query : Action σ (List ν)) (s : σ) (rows : List ν) (kind : ν → Bool)
    (found : List ν) : Prop where
  answer : query s = (.ok found, s)
  mem_iff : ∀ row, row ∈ found ↔ row ∈ rows ∧ kind row = true
  nodup : found.Nodup
  ascending : found.Pairwise fun a b => p.id a < p.id b
  listed : (p.listed found).Perm found ∧ (p.listed found).Pairwise p.Before
  before_iff : found.Pairwise p.Before ↔ found.Pairwise p.Timely
  eq_listed_iff : found = p.listed found ↔ found.Pairwise p.Timely

/-- What is left of rows in the order of their identifiers is found in that order. -/
theorem Place.finds_of_ascending {σ ν : Type} {p : Place ν} {query : Action σ (List ν)} {s : σ} {rows : List ν}
    {kind : ν → Bool} (hanswer : query s = (.ok (rows.filter kind), s)) (h : rows.Pairwise fun a b => p.id a < p.id b) :
    p.Finds query s rows kind (rows.filter kind) := by
  have hascending := h.filter kind
  have hdistinct := distinct_of_ascending hascending
  exact {
    answer := hanswer
    mem_iff := fun row => List.mem_filter
    nodup := hdistinct.nodup
    ascending := hascending
    listed := ⟨p.perm_listed _, hdistinct.listed_before⟩
    before_iff := before_iff_timely hascending
    eq_listed_iff := hdistinct.eq_listed_iff.trans (before_iff_timely hascending) }

namespace Memory

variable {party : Option Handle}

/-- Of the posts in sight, those of the user are answered. -/
theorem Posts.ofUser_of_view {s : Posts} {rows : Rows Post} (h : s.table.view party = .ok rows) (user : UserId) :
    store.ofUser party user s = (.ok (rows.values.filter fun p => p.user = user), s) :=
  Table.ask_of_view rows_lawful h _

/-- Of the comments in sight, those of a kind are answered. -/
theorem Comments.matching_of_view {s : Comments} {rows : Rows Comment} (h : s.table.view party = .ok rows)
    (kind : Comment → Bool) : matching party kind s = (.ok (rows.values.filter kind), s) :=
  Table.ask_of_view rows_lawful h _

/-- Nothing is shown of a post that the replica does not have. -/
theorem Comments.withPost_of_none {s : Comments} {post : PostId} (h : s.replica.rows.get? post.text = none) :
    store.withPost party post s = (.ok [], s) := by
  simp only [store, h]

/-- A post of the replica is shown with its comments in sight. -/
theorem Comments.withPost_of_view {s : Comments} {rows : Rows Comment} (hview : s.table.view party = .ok rows)
    {post : PostId} {row : Post} (h : s.replica.rows.get? post.text = some row) :
    store.withPost party post s = (.ok (PostComment.rows row (rows.values.filter fun c => c.post = post)), s) := by
  simp only [store, h]
  exact Action.map_of_ok (matching_of_view hview _) _

end Memory

/-! ## Over tables -/

/-- The times of a comment are whole microseconds. -/
def Comment.AtMicros (c : Comment) : Prop := c.created.toMicros = c.created ∧ c.updated.toMicros = c.updated

instance (c : Comment) : Decidable c.AtMicros := inferInstanceAs (Decidable (_ ∧ _))

theorem UserId.text_inj {a b : UserId} : a.text = b.text ↔ a = b := by
  cases a
  cases b
  simp

theorem PostId.text_inj {a b : PostId} : a.text = b.text ↔ a = b := by
  cases a
  cases b
  simp

namespace Database

/-- Over a database with the tables a query sends one statement. That is a selection to which the database has one
answer only, and the query answers `found`. -/
def Lists {α : Type} (query : Option Handle → Action Session (List α)) (st : Statement) (T : Tables) (found : List α) :
    Prop :=
  ∃ q cells, selection? st = some q ∧ (∀ reply, q.Gives st.parameters T reply ↔ reply = cells) ∧
    ∀ tx s, Session.Ready tx s → s.replies.head? = some (.rows cells) → query tx s = (.ok found, s.told st)

/-- A reader that succeeds on each row reads all of them. -/
theorem mapM_of_ok {α β : Type} {f : α → Except Error β} {g : α → β} {xs : List α} (h : ∀ x ∈ xs, f x = .ok (g x)) :
    xs.mapM f = .ok (xs.map g) := by
  induction xs with
  | nil => rfl
  | cons x xs ih =>
    obtain ⟨hx, hxs⟩ := List.forall_mem_cons.1 h
    rw [List.mapM_cons, hx, ih hxs]
    rfl

/-- A query answers what its rows say. -/
theorem fetchAll_of_replies {ν α : Type} {tx : Option Handle} {s : Session} (hs : s.Ready tx) {reader : RowReader α}
    {st : Statement} {found : List ν} {cells : ν → List Cell} {said : ν → α}
    (hreply : s.replies.head? = some (.rows (found.map cells)))
    (hread : ∀ row ∈ found, reader.said (cells row) = .ok (said row)) :
    (fetchAll tx reader st).action s = (.ok (found.map said), s.told st) := by
  rw [fetchAll_of_ready hs, List.headD_eq_head?_getD, hreply]
  have hmap : (found.map cells).mapM reader.said = .ok (found.map said) := by
    rw [List.mapM_map]
    exact mapM_of_ok hread
  exact Prod.ext hmap rfl

/-- What is read from the first cells is what is said. -/
theorem said_of_ok {α : Type} {reader : RowReader α} {cells rest : List Cell} {a : α}
    (h : reader cells = .ok (a, rest)) : reader.said cells = .ok a := by
  rw [RowReader.said, h]

/-- Plain columns show their own cells. -/
theorem show_plain (r : Record) (columns : List String) : r.show (plain columns) = r.cells columns := by
  rw [Record.show, plain, List.map_map, show Shown.column ∘ (fun column => ⟨column, none⟩) = id from rfl, List.map_id]

/-- The rows of a kind are listed, where the records are ordered as the rows are. -/
theorem lists_of_table {ν : Type} {p : Place ν} {record : ν → Record} {T : Tables} {rows : List ν} {kind : ν → Bool}
    {reader : RowReader ν} {st : Statement} {columns : List String} {table : String} {c : Condition}
    (hst : selection? st = some ⟨plain columns, .table table, c, ["date_created", "id"]⟩)
    (hrows : (T table).Perm (rows.map record)) (hdistinct : p.Distinct rows)
    (hkind : ∀ row, c.holds st.parameters (record row) = kind row)
    (horder : ∀ a b, compareBy ["date_created", "id"] (record a) (record b) = p.compare a b)
    (hread : ∀ row ∈ rows, reader.said ((record row).cells columns) = .ok row) :
    Lists (fun tx => (fetchAll tx reader st).action) st T (p.listed (rows.filter kind)) := by
  have hrecords : ((T table).filter (c.holds st.parameters)).Perm ((rows.filter kind).map record) := by
    have hfilter := hrows.filter (c.holds st.parameters)
    rwa [List.filter_map, show c.holds st.parameters ∘ record = kind from funext hkind] at hfilter
  refine ⟨_, _, hst, Selection.gives_iff_listed (hdistinct.filter kind) hrecords horder, fun tx s hs hreply => ?_⟩
  have hfetch : (fetchAll tx reader st).action s = (.ok ((p.listed (rows.filter kind)).map id), s.told st) :=
    fetchAll_of_replies hs hreply fun row hrow => by
      rw [show_plain]
      exact hread row (List.mem_filter.1 ((p.perm_listed _).mem_iff.1 hrow)).1
  rw [List.map_id] at hfetch
  exact hfetch

/-! ## Posts and comments -/

/-- Records of posts are ordered as the posts are listed. -/
theorem compare_postRecord (a b : Post) :
    compareBy ["date_created", "id"] (postRecord a) (postRecord b) = Post.place.compare a b := by
  show (a.created.compare b.created).then ((Ord.compare a.id.text b.id.text).then .eq) = _
  rw [Ordering.then_eq]
  rfl

/-- Records of comments are ordered as the comments are listed. -/
theorem compare_commentRecord (a b : Comment) :
    compareBy ["date_created", "id"] (commentRecord a) (commentRecord b) = Comment.place.compare a b := by
  show (a.created.compare b.created).then ((Ord.compare a.id.text b.id.text).then .eq) = _
  rw [Ordering.then_eq]
  rfl

/-- A comment is read from its cells. -/
theorem RowReader.comment_cells {c : Comment} (hc : c.AtMicros) (rest : List Cell) :
    RowReader.comment (some c.id.text :: some c.description :: some c.post.text :: some c.user.text ::
      some c.created.text :: some c.updated.text :: rest) = .ok (c, rest) := by
  rw [RowReader.comment, bind_of_ok (text_some ..), bind_of_ok (text_some ..), bind_of_ok (text_some ..),
    bind_of_ok (text_some ..), bind_of_ok (time_text ..), bind_of_ok (time_text ..), hc.1, hc.2]
  rfl

/-- A comment with whole microseconds is read back from its record. -/
theorem said_commentRecord {c : Comment} (hc : c.AtMicros) :
    RowReader.comment.said ((commentRecord c).cells Statement.commentColumns) = .ok c :=
  said_of_ok (RowReader.comment_cells hc [])

/-- A database lists the posts of a user. -/
theorem lists_posts {T : Tables} {rows : List Post} (hrows : (T "posts").Perm (rows.map postRecord))
    (hdistinct : Post.place.Distinct rows) (hmicros : ∀ p ∈ rows, p.AtMicros) (user : UserId) :
    Lists (fun tx => postStore.ofUser tx user) (.postsByUser user) T
      (Post.place.listed (rows.filter fun p => p.user = user)) := by
  have hst : selection? (.postsByUser user) =
      some ⟨plain Statement.postColumns, .table "posts", ⟨"user_id", 1⟩, ["date_created", "id"]⟩ := rfl
  refine lists_of_table hst hrows hdistinct (fun p => ?_) compare_postRecord fun p hp => ?_
  · exact (holds_text rfl user.text).trans (decide_eq_decide.2 UserId.text_inj)
  · rw [← readPost_eq_said]
    exact readPost_cells (hmicros p hp)

/-- A database lists the comments of a user, and those on a post. -/
theorem lists_comments {T : Tables} {rows : List Comment} (hrows : (T "comments").Perm (rows.map commentRecord))
    (hdistinct : Comment.place.Distinct rows) (hmicros : ∀ c ∈ rows, c.AtMicros) :
    (∀ user : UserId, Lists (fun tx => commentStore.ofUser tx user) (.commentsByUser user) T
        (Comment.place.listed (rows.filter fun c => c.user = user))) ∧
      ∀ post : PostId, Lists (fun tx => commentStore.ofPost tx post) (.commentsByPost post) T
        (Comment.place.listed (rows.filter fun c => c.post = post)) := by
  have hread (c : Comment) (hc : c ∈ rows) := said_commentRecord (hmicros c hc)
  constructor
  · intro user
    have hst : selection? (.commentsByUser user) =
        some ⟨plain Statement.commentColumns, .table "comments", ⟨"user_id", 1⟩, ["date_created", "id"]⟩ := rfl
    exact lists_of_table hst hrows hdistinct
      (fun c => (holds_text rfl user.text).trans (decide_eq_decide.2 UserId.text_inj)) compare_commentRecord hread
  · intro post
    have hst : selection? (.commentsByPost post) =
        some ⟨plain Statement.commentColumns, .table "comments", ⟨"post_id", 1⟩, ["date_created", "id"]⟩ := rfl
    exact lists_of_table hst hrows hdistinct
      (fun c => (holds_text rfl post.text).trans (decide_eq_decide.2 PostId.text_inj)) compare_commentRecord hread

/-! ## A post with its comments -/

/-- A post with one of its comments as a record. -/
def joinedRecord (p : Post) (c : Comment) : Record := (postRecord p).under "p" ++ (commentRecord c).under "c"

namespace RowReader

theorem cell_cons (c : Cell) (rest : List Cell) : cell (c :: rest) = .ok (c, rest) := rfl

/-- A time that is there is read with whole microseconds. -/
theorem time?_text (column : Column) (t : Instant) (rest : List Cell) :
    time? column (some t.text :: rest) = .ok (some t.toMicros, rest) := by
  rw [time?, bind_of_ok (cell_cons ..)]
  show (some <$> timeOf column t.text) rest = _
  rw [timeOf_text]
  rfl

/-- A time that is not there is read as none. -/
theorem time?_null (column : Column) (rest : List Cell) : time? column (none :: rest) = .ok (none, rest) := rfl

/-- A post without a comment. -/
theorem postComment_alone {p : Post} (hp : p.AtMicros) :
    postComment.said (((postRecord p).under "p").show joinedColumns) = .ok ⟨p, none⟩ := by
  have hread : postComment (some p.id.text :: some p.title :: some p.description :: some p.user.text ::
      some p.created.text :: some p.updated.text :: [none, none, none, none, none]) = .ok (⟨p, none⟩, []) := by
    rw [postComment, bind_of_ok (post_cells hp _), bind_of_ok (cell_cons ..), bind_of_ok (cell_cons ..),
      bind_of_ok (cell_cons ..), bind_of_ok (time?_null ..), bind_of_ok (time?_null ..)]
    rfl
  exact said_of_ok hread

/-- A post with a comment on it. -/
theorem postComment_joined {p : Post} (hp : p.AtMicros) {c : Comment} (hc : c.AtMicros) (hpost : c.post = p.id) :
    postComment.said ((joinedRecord p c).show joinedColumns) = .ok ⟨p, some c⟩ := by
  have hread : postComment (some p.id.text :: some p.title :: some p.description :: some p.user.text ::
      some p.created.text :: some p.updated.text ::
        [some c.id.text, some c.description, some c.user.text, some c.created.text, some c.updated.text]) =
      .ok (⟨p, some c⟩, []) := by
    rw [postComment, bind_of_ok (post_cells hp _), bind_of_ok (cell_cons ..), bind_of_ok (cell_cons ..),
      bind_of_ok (cell_cons ..), bind_of_ok (time?_text ..), bind_of_ok (time?_text ..), hc.1, hc.2, ← hpost]
    rfl
  exact said_of_ok hread

end RowReader

/-- The same records in another order are joined to the same rows in another order. -/
theorem joined_perm (r : Record) {l m : List Record} (h : l.Perm m) : (r.joined l).Perm (r.joined m) := by
  cases l with
  | nil => rw [h.nil_eq]
  | cons a l =>
    cases m with
    | nil => exact absurd h.eq_nil (List.cons_ne_nil a l)
    | cons b m => exact h.map _

/-- Rows of one post are ordered as its comments are listed. -/
theorem compare_joinedRecord (p : Post) (a b : Comment) :
    compareBy ["c.date_created", "c.id"] (joinedRecord p a) (joinedRecord p b) = Comment.place.compare a b := by
  show (a.created.compare b.created).then ((Ord.compare a.id.text b.id.text).then .eq) = _
  rw [Ordering.then_eq]
  rfl

/-- The posts of the replica with the comments on them. -/
def postsWithComments : Join := ⟨"posts", "p", "comments", "c", "post_id", "id"⟩

/-- A post with the records of the comments on it. -/
def beside (T : Tables) (p : Post) : List Record :=
  ((postRecord p).under "p").joined
    (((T "comments").filter (Condition.holds ⟨"post_id", 1⟩ [.text p.id.text])).map fun c => c.under "c")

/-- A record that goes with a post has its identifier. -/
theorem lookup_beside {T : Tables} {p : Post} {r : Record} (h : r ∈ beside T p) :
    r.lookup "p.id" = some (.text p.id.text) := by
  have hpost : ((postRecord p).under "p").lookup "p.id" = some (.text p.id.text) := rfl
  unfold beside Record.joined at h
  split at h
  · rw [List.mem_singleton.1 h, hpost]
  · obtain ⟨c, -, rfl⟩ := List.mem_map.1 h
    rw [List.lookup_append, hpost]
    rfl

/-- All rows beside a post have its identifier. -/
theorem filter_beside (T : Tables) (p : Post) (id : String) :
    (beside T p).filter (Condition.holds ⟨"p.id", 1⟩ [.text id]) =
      if byId id (postRecord p) = true then beside T p else [] := by
  rw [byId_postRecord]
  split
  · rename_i hid
    exact List.filter_eq_self.2 fun r hr => (holds_text (lookup_beside hr) id).trans hid
  · rename_i hid
    exact List.filter_eq_nil_iff.2 fun r hr => by rwa [holds_text (lookup_beside hr)]

/-- What is put in for the elements of a kind is put in for the others not at all. -/
theorem flatMap_ite {α β : Type} (l : List α) (q : α → Bool) (g : α → List β) :
    (l.flatMap fun a => if q a = true then g a else []) = (l.filter q).flatMap g := by
  induction l with
  | nil => rfl
  | cons a l ih =>
    rw [List.flatMap_cons, List.filter_cons, ih]
    split <;> rfl

/-- Of the posts with their comments, those of an identifier. -/
theorem filter_records_join {T : Tables} {replica : Memory.Rows Post}
    (hposts : (T "posts").Perm (replica.values.map postRecord)) (hkept : replica.KeptBy fun p => p.id.text)
    (id : String) :
    (postsWithComments.records T).filter (Condition.holds ⟨"p.id", 1⟩ [.text id]) =
      (replica.get? id).toList.flatMap (beside T) := by
  let beside' (a : Record) : List Record :=
    (a.under "p").joined ((having "post_id" (a.lookup "id") (T "comments")).map fun c => c.under "c")
  have hjoin : (postsWithComments.records T).filter (Condition.holds ⟨"p.id", 1⟩ [.text id]) =
      (T "posts").flatMap fun a => if byId id a = true then beside' a else [] := by
    show ((T "posts").flatMap beside').filter _ = _
    rw [List.filter_flatMap]
    refine List.flatMap_congr fun a ha => ?_
    obtain ⟨p, -, rfl⟩ := List.mem_map.1 (hposts.mem_iff.1 ha)
    exact filter_beside T p id
  rw [hjoin, flatMap_ite, filter_records hkept hposts (byId_postRecord id), List.flatMap_map]
  rfl

/-- The selection of a post with its comments. -/
def joinedSelection : Selection :=
  ⟨joinedColumns, .leftJoin postsWithComments, ⟨"p.id", 1⟩, ["c.date_created", "c.id"]⟩

variable {T : Tables} {post : PostId}

/-- Where no comment goes with a post, or there is no such post, there is at most one row. -/
theorem lists_alone {p? : Option Post} (hmicros : ∀ p ∈ p?.toList, p.AtMicros)
    (hrecords : (postsWithComments.records T).filter (Condition.holds ⟨"p.id", 1⟩ [.text post.text]) =
      p?.toList.map fun p => (postRecord p).under "p") :
    Lists (fun tx => commentStore.withPost tx post) (.postWithComments post) T (p?.toList.map fun p => ⟨p, none⟩) := by
  rw [← Option.toList_map] at hrecords
  refine ⟨joinedSelection, _, rfl, Selection.gives_iff_of_toList hrecords, fun tx s hs hreply => ?_⟩
  rw [Option.toList_map, List.map_map] at hreply
  exact fetchAll_of_replies hs hreply fun p hp => RowReader.postComment_alone (hmicros p hp)

/-- Where comments go with a post, there is a row for each of them. -/
theorem lists_beside {p : Post} {found : List Comment} (hp : p.AtMicros)
    (hfound : ∀ c ∈ found, c.AtMicros ∧ c.post = p.id) (hdistinct : Comment.place.Distinct found)
    (hrecords : ((postsWithComments.records T).filter (Condition.holds ⟨"p.id", 1⟩ [.text post.text])).Perm
      (found.map (joinedRecord p))) :
    Lists (fun tx => commentStore.withPost tx post) (.postWithComments post) T
      ((Comment.place.listed found).map fun c => ⟨p, some c⟩) := by
  refine ⟨joinedSelection, _, rfl, Selection.gives_iff_listed hdistinct hrecords (compare_joinedRecord p),
    fun tx s hs hreply => fetchAll_of_replies hs hreply fun c hc => ?_⟩
  obtain ⟨hc, hpost⟩ := hfound c ((Comment.place.perm_listed found).mem_iff.1 hc)
  exact RowReader.postComment_joined hp hc hpost

/-- A post is shown with the comments that go with it, as a listing. -/
theorem lists_rows {p : Post} {found : List Comment} (hp : p.AtMicros)
    (hfound : ∀ c ∈ found, c.AtMicros ∧ c.post = p.id) (hdistinct : Comment.place.Distinct found)
    (hcomments : ((T "comments").filter (Condition.holds ⟨"post_id", 1⟩ [.text p.id.text])).Perm
      (found.map commentRecord))
    (hrecords : (postsWithComments.records T).filter (Condition.holds ⟨"p.id", 1⟩ [.text post.text]) = beside T p) :
    Lists (fun tx => commentStore.withPost tx post) (.postWithComments post) T
      (PostComment.rows p (Comment.place.listed found)) := by
  have hbeside : (beside T p).Perm
      (((postRecord p).under "p").joined ((found.map commentRecord).map fun c => c.under "c")) :=
    joined_perm _ (hcomments.map _)
  have hlisted := Comment.place.perm_listed found
  cases found with
  | nil =>
    have halone : ∀ q ∈ (some p).toList, q.AtMicros := fun q hq => by rwa [List.mem_singleton.1 hq]
    rw [hlisted.eq_nil]
    exact lists_alone halone (hrecords.trans (List.perm_singleton.1 hbeside))
  | cons c found =>
    have hrows : PostComment.rows p (Comment.place.listed (c :: found)) =
        (Comment.place.listed (c :: found)).map fun c => ⟨p, some c⟩ := by
      cases h : Comment.place.listed (c :: found) with
      | nil => exact absurd (h ▸ hlisted).nil_eq nofun
      | cons d listed => rfl
    rw [hrows]
    refine lists_beside hp hfound hdistinct ?_
    rw [hrecords]
    refine hbeside.trans (.of_eq ?_)
    rw [List.map_map]
    exact List.map_map

/-- A post of the replica is listed with its comments. -/
theorem lists_joined {replica : Memory.Rows Post} {rows : List Comment}
    (hposts : (T "posts").Perm (replica.values.map postRecord)) (hkept : replica.KeptBy fun p => p.id.text)
    (hpostMicros : ∀ p ∈ replica.values, p.AtMicros) (hrows : (T "comments").Perm (rows.map commentRecord))
    (hdistinct : Comment.place.Distinct rows) (hmicros : ∀ c ∈ rows, c.AtMicros) (post : PostId) :
    Lists (fun tx => commentStore.withPost tx post) (.postWithComments post) T
      ((replica.get? post.text).elim [] fun p =>
        PostComment.rows p (Comment.place.listed (rows.filter fun c => c.post = post))) := by
  have hrecords := filter_records_join hposts hkept post.text
  cases hrow : replica.get? post.text with
  | none =>
    rw [hrow] at hrecords
    have hnone : ∀ p ∈ (none : Option Post).toList, p.AtMicros := fun p hp => absurd hp List.not_mem_nil
    exact lists_alone hnone hrecords
  | some p =>
    rw [hrow, Option.toList_some, List.flatMap_singleton] at hrecords
    have hid : p.id = post := PostId.text_inj.1 (hkept _ _ hrow)
    have hp : p.AtMicros := hpostMicros p (List.mem_map.2 ⟨_, Memory.Rows.mem_of_lookup hrow, rfl⟩)
    refine lists_rows hp (fun c hc => ?_) (hdistinct.filter _) ?_ hrecords
    · obtain ⟨hc, hpost⟩ := List.mem_filter.1 hc
      exact ⟨hmicros c hc, (of_decide_eq_true hpost).trans hid.symm⟩
    · have hfilter := hrows.filter (Condition.holds ⟨"post_id", 1⟩ [.text p.id.text])
      have hkind : Condition.holds ⟨"post_id", 1⟩ [.text p.id.text] ∘ commentRecord = fun c => decide (c.post = post) :=
        funext fun c => (holds_text rfl p.id.text).trans (decide_eq_decide.2 (hid ▸ PostId.text_inj))
      rwa [List.filter_map, hkind] at hfilter

/-- The tables of the comments service hold rows that could be in tables. -/
structure HoldsComments (T : Tables) (replica : Memory.Rows Post) (rows : Memory.Rows Comment) : Prop where
  posts : (T "posts").Perm (replica.values.map postRecord)
  kept : replica.KeptBy fun p => p.id.text
  postMicros : ∀ p ∈ replica.values, p.AtMicros
  comments : (T "comments").Perm (rows.values.map commentRecord)
  commentMicros : ∀ c ∈ rows.values, c.AtMicros

end Database

/-- Which comments were found can be told from the rows of a post. -/
theorem PostComment.rows_injective (p : Post) : Function.Injective (PostComment.rows p) := by
  have hcomments (found : List Comment) : (PostComment.rows p found).filterMap (·.comment) = found := by
    cases found with
    | nil => rfl
    | cons c found =>
      show (((c :: found).map fun c => (⟨p, some c⟩ : PostComment)).filterMap _) = _
      rw [List.filterMap_map]
      exact List.filterMap_some
  exact Function.LeftInverse.injective hcomments

section

open Memory

/-- Whatever several parties have done, and whoever asks: of the rows in sight, those of a user or a post are found in
memory by their identifiers, and a post is shown with the comments found. A database with these rows lists them. The
answers are the same just where the times of creation do not decrease with the identifiers. -/
theorem filtered_rows (ds : List (Deed PostCall)) (replica : Replica) (ds' : List (Deed CommentCall))
    (party : Option Handle) (user : UserId) (post : PostId) :
    (∀ rows, (Posts.used ds).table.view party = .ok rows →
        ∃ found, Post.place.Finds (Posts.store.ofUser party user) (Posts.used ds) rows.values (fun p => p.user = user)
            found ∧
          ∀ T, (T "posts").Perm (rows.values.map postRecord) → (∀ p ∈ rows.values, p.AtMicros) →
            Lists (fun tx => postStore.ofUser tx user) (.postsByUser user) T (Post.place.listed found)) ∧
      ∀ rows, (Comments.used replica ds').table.view party = .ok rows →
        (∃ found, Comment.place.Finds (Comments.store.ofUser party user) (Comments.used replica ds') rows.values
              (fun c => c.user = user) found ∧
            ∀ T, HoldsComments T replica.rows rows →
              Lists (fun tx => commentStore.ofUser tx user) (.commentsByUser user) T (Comment.place.listed found)) ∧
          ∃ found, Comment.place.Finds (Comments.store.ofPost party post) (Comments.used replica ds') rows.values
              (fun c => c.post = post) found ∧
            Comments.store.withPost party post (Comments.used replica ds') =
              (.ok ((replica.rows.get? post.text).elim [] fun p => PostComment.rows p found),
                Comments.used replica ds') ∧
            (∀ p, PostComment.rows p found = PostComment.rows p (Comment.place.listed found) ↔
              found.Pairwise Comment.place.Timely) ∧
            ∀ T, HoldsComments T replica.rows rows →
              Lists (fun tx => commentStore.ofPost tx post) (.commentsByPost post) T (Comment.place.listed found) ∧
                Lists (fun tx => commentStore.withPost tx post) (.postWithComments post) T
                  ((replica.rows.get? post.text).elim [] fun p =>
                    PostComment.rows p (Comment.place.listed found)) := by
  refine ⟨fun rows hview => ?_, fun rows hview => ?_⟩
  · have hascending := (Posts.keptBy_view hview).ascending
    exact ⟨_, Place.finds_of_ascending (Posts.ofUser_of_view hview user) hascending,
      fun T hrows hmicros => lists_posts hrows (Place.distinct_of_ascending hascending) hmicros user⟩
  · have hascending := (Comments.keptBy_view hview).ascending
    have hdistinct := Place.distinct_of_ascending hascending
    have hofUser := Place.finds_of_ascending
      (Comments.matching_of_view hview fun c => c.user = user : Comments.store.ofUser party user _ = _) hascending
    have hofPost := Place.finds_of_ascending
      (Comments.matching_of_view hview fun c => c.post = post : Comments.store.ofPost party post _ = _) hascending
    refine ⟨⟨_, hofUser, fun T h => (lists_comments h.comments hdistinct h.commentMicros).1 user⟩,
      _, hofPost, ?_, fun p => (PostComment.rows_injective p).eq_iff.trans hofPost.eq_listed_iff,
      fun T h => ⟨(lists_comments h.comments hdistinct h.commentMicros).2 post,
        lists_joined h.posts h.kept h.postMicros h.comments hdistinct h.commentMicros post⟩⟩
    have hreplica := Comments.used_replica replica ds'
    cases hrow : replica.rows.get? post.text with
    | none => exact Comments.withPost_of_none (by rw [hreplica, hrow])
    | some p => exact Comments.withPost_of_view hview (by rw [hreplica, hrow])

/-- A replica with one post. -/
def onePostReplica : Replica := (Replica.empty.insert (Fixture.post "a" "first")).2

/-- Two comments on that post, of which the last one by identifier was created first. -/
def lateComments : List (Deed CommentCall) :=
  [.call none (.create ((Fixture.newComment "a" "second").toComment ⟨"m"⟩ Fixture.date)),
    .call none (.create ((Fixture.newComment "a" "first").toComment ⟨"n"⟩ Instant.millennium))]

/-- The tables of a database with the same rows. -/
def sameTables : Tables :=
  (Tables.empty.set "posts" (onePostReplica.rows.values.map postRecord)).set "comments"
    ((Comments.used onePostReplica lateComments).table.rows.values.map commentRecord)

/-- The tables hold the post of the replica and the two comments on it. -/
theorem sameTables_hold :
    HoldsComments sameTables onePostReplica.rows (Comments.used onePostReplica lateComments).table.rows where
  posts := .refl _
  kept := (Rows.keptBy_empty.write (Rows.Write.proper_some rfl) :
    (Rows.empty.write ("a", some (Fixture.post "a" "first"))).KeptBy fun p => p.id.text)
  postMicros := by decide +kernel
  comments := .refl _
  commentMicros := by decide +kernel

/-- Three posts of a user, two comments of that user, and the one post with these comments, found and listed. -/
theorem three_posts_listed :
    (∃ found, Post.place.Finds (Posts.store.ofUser none Fixture.user) (Posts.used threePosts)
        (Posts.used threePosts).table.rows.values (fun p => p.user = Fixture.user) found ∧
      Lists (fun tx => postStore.ofUser tx Fixture.user) (.postsByUser Fixture.user)
        (Tables.empty.set "posts" ((Posts.used threePosts).table.rows.values.map postRecord))
        (Post.place.listed found)) ∧
      (∃ found, Comment.place.Finds (Comments.store.ofUser none Fixture.user)
          (Comments.used onePostReplica lateComments) (Comments.used onePostReplica lateComments).table.rows.values
            (fun c => c.user = Fixture.user) found ∧
        Lists (fun tx => commentStore.ofUser tx Fixture.user) (.commentsByUser Fixture.user) sameTables
          (Comment.place.listed found)) ∧
      ∃ found, Comment.place.Finds (Comments.store.ofPost none ⟨"a"⟩) (Comments.used onePostReplica lateComments)
          (Comments.used onePostReplica lateComments).table.rows.values (fun c => c.post = ⟨"a"⟩) found ∧
        Comments.store.withPost none ⟨"a"⟩ (Comments.used onePostReplica lateComments) =
          (.ok (PostComment.rows (Fixture.post "a" "first") found), Comments.used onePostReplica lateComments) ∧
        Lists (fun tx => commentStore.ofPost tx ⟨"a"⟩) (.commentsByPost ⟨"a"⟩) sameTables
          (Comment.place.listed found) ∧
        Lists (fun tx => commentStore.withPost tx ⟨"a"⟩) (.postWithComments ⟨"a"⟩) sameTables
          (PostComment.rows (Fixture.post "a" "first") (Comment.place.listed found)) := by
  obtain ⟨hposts, hcomments⟩ := filtered_rows threePosts onePostReplica lateComments none Fixture.user ⟨"a"⟩
  obtain ⟨posts, hfound, hlists⟩ := hposts _ rfl
  obtain ⟨⟨mine, hmine, hlistsMine⟩, comments, hbeside, hshown, -, hlistsBeside⟩ := hcomments _ rfl
  obtain ⟨hofPost, hwithPost⟩ := hlistsBeside sameTables sameTables_hold
  exact ⟨⟨posts, hfound, hlists _ (.refl _) (by decide +kernel)⟩, ⟨mine, hmine, hlistsMine sameTables sameTables_hold⟩,
    comments, hbeside, hshown, hofPost, hwithPost⟩

/-- The posts of a user, and the comments on a post alone and beside it, that are found out of order. -/
theorem filtered_out_of_order :
    (∃ found, Posts.store.ofUser none Fixture.user (Posts.used threePosts) = (.ok found, Posts.used threePosts) ∧
        ¬found.Pairwise Post.place.Before) ∧
      ∃ found, Comments.store.ofPost none ⟨"a"⟩ (Comments.used onePostReplica lateComments) =
          (.ok found, Comments.used onePostReplica lateComments) ∧
        Comments.store.withPost none ⟨"a"⟩ (Comments.used onePostReplica lateComments) =
          (.ok (PostComment.rows (Fixture.post "a" "first") found), Comments.used onePostReplica lateComments) ∧
        ¬found.Pairwise Comment.place.Before :=
  ⟨⟨_, Posts.ofUser_of_view rfl _, by decide +kernel⟩, _, Comments.matching_of_view rfl _,
    Comments.withPost_of_view rfl rfl, by decide +kernel⟩

end

end Forum
