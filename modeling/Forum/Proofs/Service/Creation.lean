import Forum.Fixture
import Forum.Proofs.Service.Ledger

/-!
# What a creation replaces

The rows of a repository that several parties share are what the ledger of their deeds says (`Kept.rows`), and this is
kept by every deed (`Kept.deed`). A creation in sight of no row of its key replaces one just where it was overtaken:
since it was asked for, another write of the key took effect and left a row (`creations_replace_iff_overtaken`). A post
is only created in sight of no row of its id. That no creation ever replaces a row is wrong of both repositories
(`creation_replaces`).
-/

namespace Forum.Memory

open Sharing Table

variable {κ ν : Type}

/-- A table that is shared is as its ledger says. -/
structure Kept (may : Effect ν → Option ν → Prop) (start : Rows ν) (l : Ledger ν) (m : Shared (Table ν)) : Prop where
  fair : l.Fair start
  rows : m.state.rows = l.rows start
  names : Names m.named m.state.staged.length
  staged : ∀ {name tx ws}, m.named name = some tx → m.state.staged[tx]? = some (some ws) → ws = writes (l.staged name)
  made_may : ∀ e ∈ l.made, may e.effect e.saw
  staged_may : ∀ name, ∀ e ∈ l.staged name, may e.effect e.saw

section

variable {effect : κ → Answer → Option (Effect ν)} {may : Effect ν → Option ν → Prop} {start : Rows ν} {l : Ledger ν}
  {m : Shared (Table ν)} {name : String} {tx : Handle} {ws : List (Rows.Write ν)} {f : Effect ν}

/-- What the transaction of a name stages now is staged there and in the ledger. -/
theorem Kept.settled (h : Kept may start l m) {l' : Ledger ν} (hfair : l'.Fair start) (hname : m.named name = some tx)
    {rows : Rows ν} (hrows : rows = l'.rows start) {v : Option (List (Rows.Write ν))}
    (hv : ∀ ws, v = some ws → ws = writes (l'.staged name)) (hother : ∀ y, y ≠ name → l'.staged y = l.staged y)
    (hmade : ∀ e ∈ l'.made, may e.effect e.saw) (hstaged : ∀ e ∈ l'.staged name, may e.effect e.saw) :
    Kept may start l' { m with state := m.state.settled rows tx v } where
  fair := hfair
  rows := hrows
  names := (m.state.length_settled rows tx v).symm ▸ h.names
  staged {y tx' ws} hy hws := by
    by_cases hyname : y = name
    · subst hyname
      obtain rfl := Option.some.inj (hname.symm.trans hy)
      rw [Table.settled, List.getElem?_set_self (h.names.lt hname)] at hws
      exact hv ws (Option.some.inj hws)
    · have hne : tx ≠ tx' := fun heq => hyname (h.names.distinct (heq ▸ hy) hname)
      rw [Table.settled, List.getElem?_set_ne hne] at hws
      rw [hother y hyname]
      exact h.staged hy hws
  made_may := hmade
  staged_may y e he := by
    by_cases hyname : y = name
    · exact hstaged e (hyname ▸ he)
    · exact h.staged_may y e (hother y hyname ▸ he)

theorem Kept.begun (h : Kept may start l m) (name : String) :
    Kept may start (l.stage name []) ((⟨m.state.begin.2, m.named⟩ : Shared (Table ν)).name name m.state.begin.1) where
  fair := h.fair.stage name (Ledger.queued_nil start l)
  rows := h.rows
  names := names_begin h.names name
  staged {y tx ws} hy hws := by
    simp only [Shared.name, Table.begin] at hy hws
    split at hy
    · rename_i hyname
      rw [← Option.some.inj hy, List.getElem?_concat_length] at hws
      rw [hyname, l.staged_stage_self, ← Option.some.inj (Option.some.inj hws)]
      rfl
    · rename_i hyname
      rw [List.getElem?_append_left (h.names.lt hy)] at hws
      rw [l.staged_stage_other hyname]
      exact h.staged hy hws
  made_may := h.made_may
  staged_may y e he := by
    by_cases hy : y = name
    · rw [hy, l.staged_stage_self] at he
      cases he
    · rw [l.staged_stage_other hy] at he
      exact h.staged_may y e he

theorem Kept.made (h : Kept may start l m) (hmay : may f (m.state.rows.get? f.key)) :
    Kept may start (l.enter start none f)
      { m with state := { m.state with rows := m.state.rows.write f.write } } where
  fair := h.fair.enter none f
  rows := by
    show m.state.rows.write f.write = start.writeAll (writes (l.made ++ [_]))
    rw [writes_append, Rows.writeAll_append, h.rows]
    rfl
  names := h.names
  staged := h.staged
  made_may e he := by
    rcases List.mem_append.1 he with he | he
    · exact h.made_may e he
    · rw [List.mem_singleton.1 he]
      rw [h.rows] at hmay
      exact hmay
  staged_may := h.staged_may

theorem Kept.stagedMore (h : Kept may start l m) (hname : m.named name = some tx)
    (hws : m.state.staged[tx]? = some (some ws)) (hmay : may f ((m.state.rows.writeAll ws).get? f.key)) :
    Kept may start (l.enter start (some name) f)
      { m with state := m.state.settled m.state.rows tx (some (ws ++ [f.write])) } := by
  have hes := h.staged hname hws
  have hself : (l.enter start (some name) f).staged name = l.staged name ++ [l.grant start (some name) f] :=
    l.staged_stage_self name _
  refine h.settled (h.fair.enter (some name) f) hname h.rows ?_ (fun y hy => l.staged_stage_other hy _) h.made_may ?_
  · rintro _ ⟨⟩
    rw [hself, writes_append, hes]
    rfl
  · intro e he
    rcases List.mem_append.1 (hself ▸ he) with he | he
    · exact h.staged_may name e he
    · rw [List.mem_singleton.1 he]
      rw [hes, h.rows] at hmay
      exact hmay

theorem Kept.committed (h : Kept may start l m) (hname : m.named name = some tx)
    (hws : m.state.staged[tx]? = some (some ws)) :
    Kept may start ((l.make (l.staged name)).stage name [])
      { m with state := m.state.settled (m.state.rows.writeAll ws) tx none } := by
  refine h.settled ((h.fair.make (h.fair.staged name)).stage name (Ledger.queued_nil start _)) hname ?_
    (fun _ hv => nomatch hv) (fun y hy => Ledger.staged_stage_other _ hy _) ?_ ?_
  · show m.state.rows.writeAll ws = start.writeAll (writes (l.made ++ l.staged name))
    rw [writes_append, Rows.writeAll_append, h.rows, h.staged hname hws]
    rfl
  · intro e he
    rcases List.mem_append.1 he with he | he
    · exact h.made_may e he
    · exact h.staged_may name e he
  · intro e he
    rw [Ledger.staged_stage_self] at he
    cases he

theorem Kept.rolledBack (h : Kept may start l m) (hname : m.named name = some tx) :
    Kept may start (l.stage name []) { m with state := m.state.settled m.state.rows tx none } := by
  refine h.settled (h.fair.stage name (Ledger.queued_nil start l)) hname h.rows (fun _ hv => nomatch hv)
    (fun y hy => l.staged_stage_other hy _) h.made_may ?_
  intro e he
  rw [l.staged_stage_self] at he
  cases he

/-- A deed, noted with what is told of it, keeps the table as the ledger says. -/
theorem Kept.deed (h : Kept may start l m) {d : Deed κ} {result : Told × Shared (Table ν)}
    (hresult : DeedResult effect may m d result) : Kept may start (l.note effect start (d, result.1)) result.2 := by
  cases hresult with
  | refused hrefused =>
    rw [l.note_refused d hrefused]
    exact h
  | looked hnone =>
    simp only [Ledger.note, hnone]
    exact h
  | begun => exact h.begun _
  | made hsome hmay =>
    simp only [Ledger.note, hsome]
    exact h.made hmay
  | staged hname hws hsome hmay =>
    simp only [Ledger.note, hsome]
    exact h.stagedMore hname hws hmay
  | committed hname hws => exact h.committed hname hws
  | rolledBack hname hws => exact h.rolledBack hname
  | barred => exact ⟨h.fair, h.rows, h.names, h.staged, h.made_may, h.staged_may⟩

variable {faults : Faults} {run : κ → Option Handle → Action (Table ν) Answer}

/-- Deeds one after the other, each noted with what is told of it, keep the table as the ledger says. -/
theorem Kept.deeds (hrun : ∀ c party t, CallResult effect may c party t (run c party t)) (ds : List (Deed κ)) :
    ∀ {l : Ledger ν} {m : Shared (Table ν)}, Kept may start l m →
      Kept may start ((record (repository faults run) ds m).foldl (Ledger.note effect start) l)
        (after (repository faults run) ds m) := by
  induction ds with
  | nil => exact fun h => h
  | cons d ds ih => exact fun h => ih (h.deed (deed_result hrun _ d))

theorem kept_new (may : Effect ν → Option ν → Prop) (t : Table ν) : Kept may t.rows .empty (.new t) where
  fair := Ledger.fair_empty t.rows
  rows := rfl
  names := ⟨nofun, nofun⟩
  staged h := nomatch h
  made_may _ he := nomatch he
  staged_may _ _ he := nomatch he

end

/-! ## The rule of creations -/

/-- Rows are what a ledger says, and what creations replace shows in the ledger. -/
structure Accounted (start : Rows ν) (l : Ledger ν) (rows : Rows ν) : Prop where
  /-- The rows are those at the start with all writes that took effect. -/
  rows : rows = l.rows start
  /-- What takes effect as soon as it is asked for finds what was in sight. -/
  atOnce : ∀ {i e}, l.made[i]? = some e → e.asked = i → (l.before start i).get? e.key = e.saw
  /-- A creation in sight of no row replaces one just where it was overtaken. -/
  replaces : ∀ {i e row}, l.made[i]? = some e → e.effect = .creates e.key row → e.saw = none →
    ((l.before start i).contains e.key = true ↔ l.Overtaken e i)
  /-- Of two creations of one row that nothing removes in between, the second was overtaken, or asked for in sight of a
  row. -/
  twice : ∀ {i j e f row row'}, i < j → l.made[i]? = some e → l.made[j]? = some f → e.effect = .creates f.key row →
    f.effect = .creates f.key row' → (∀ k g, i < k → k < j → l.made[k]? = some g → g.effect ≠ .removes f.key) →
    l.Overtaken f j ∨ f.saw ≠ none

theorem Kept.accounted {may : Effect ν → Option ν → Prop} {start : Rows ν} {l : Ledger ν} {m : Shared (Table ν)}
    (h : Kept may start l m) : Accounted start l m.state.rows where
  rows := h.rows
  atOnce he hi := h.fair.found_at_once he hi
  replaces he _ hsaw := h.fair.contains_iff he hsaw
  twice {i j e f row row'} hij he hf hcreates _ hkept := by
    by_cases hsaw : f.saw = none
    · have hrow : e.effect.write = (f.key, some row) := by rw [hcreates]; rfl
      exact .inl ((h.fair.contains_iff hf hsaw).1 (Ledger.contains_of_kept hij he hrow hkept))
    · exact .inr hsaw

/-- What the parties are told by a store of posts. -/
def Posts.ledger (ds : List (Deed PostCall)) (s : Posts) : Ledger Post :=
  .of PostCall.effect s.table.rows (record Posts.repository ds (.new s))

/-- What the parties are told by a database of comments. -/
def Comments.ledger (ds : List (Deed CommentCall)) (s : Comments) : Ledger Comment :=
  .of CommentCall.effect s.table.rows (record Comments.repository ds (.new s))

theorem Posts.kept (ds : List (Deed PostCall)) (s : Posts) :
    Kept Unseen s.table.rows (ledger ds s) ((after repository ds (.new s)).on table) := by
  obtain ⟨hrecord, hafter⟩ := repository_wraps.run_eq ds (.new s)
  rw [ledger, Ledger.of, hrecord, hafter]
  exact Kept.deeds call_result ds (kept_new Unseen s.table)

theorem Comments.kept (ds : List (Deed CommentCall)) (s : Comments) :
    Kept (fun _ _ => True) s.table.rows (ledger ds s) ((after repository ds (.new s)).on table) := by
  obtain ⟨hrecord, hafter⟩ := repository_wraps.run_eq ds (.new s)
  rw [ledger, Ledger.of, hrecord, hafter]
  exact Kept.deeds (call_result s.replica) ds (kept_new _ s.table)

/-- Whatever the parties do, a creation that is granted in sight of no row of its id replaces a row just where it was
overtaken. Posts are only created so, and comments also in sight of a row. -/
theorem creations_replace_iff_overtaken (ds : List (Deed PostCall)) (s : Posts) (ds' : List (Deed CommentCall))
    (s' : Comments) :
    (Accounted s.table.rows (Posts.ledger ds s) (after Posts.repository ds (.new s)).state.table.rows ∧
        ∀ e ∈ (Posts.ledger ds s).made, Unseen e.effect e.saw) ∧
      Accounted s'.table.rows (Comments.ledger ds' s') (after Comments.repository ds' (.new s')).state.table.rows :=
  ⟨⟨(Posts.kept ds s).accounted, (Posts.kept ds s).made_may⟩, (Comments.kept ds' s').accounted⟩

/-- Two transactions that create one post and are both committed. -/
def twins : List (Deed PostCall) :=
  [.begin "a", .begin "b", .call (some "a") (.create (Fixture.post "p" "first")),
    .call (some "b") (.create (Fixture.post "p" "second")), .commit "a", .commit "b"]

/-- One comment, created twice. -/
def echo : List (Deed CommentCall) :=
  ["first", "second"].map fun text => .call none (.create ((Fixture.newComment "p" text).toComment ⟨"c"⟩ Fixture.date))

/-- What is noted when the second of two transactions creates the post. -/
def secondTwin : Grant Post := ⟨.creates "p" (Fixture.post "p" "second"), 0, none⟩

/-- What is noted when the comment is created once more, in sight of the first one. -/
def secondEcho : Grant Comment :=
  ⟨.creates "c" ((Fixture.newComment "p" "second").toComment ⟨"c"⟩ Fixture.date), 1,
    some ((Fixture.newComment "p" "first").toComment ⟨"c"⟩ Fixture.date)⟩

theorem twins_made : (Posts.ledger twins .empty).made[1]? = some secondTwin := by decide +kernel

theorem echo_made : (Comments.ledger echo .empty).made[1]? = some secondEcho := by decide +kernel

theorem second_twin_overtaken :
    (Posts.ledger twins .empty).Overtaken secondTwin 1 ∧
      ((Comments.ledger echo .empty).Overtaken secondEcho 1 ∨ secondEcho.saw ≠ none) := by
  obtain ⟨⟨hposts, hunseen⟩, hcomments⟩ := creations_replace_iff_overtaken twins .empty echo .empty
  have hsaw : secondTwin.saw = none := hunseen secondTwin (List.mem_of_getElem? twins_made) _ _ rfl
  have hfirst : (Comments.ledger echo .empty).made[0]? =
      some ⟨.creates "c" ((Fixture.newComment "p" "first").toComment ⟨"c"⟩ Fixture.date), 0, none⟩ := by decide +kernel
  refine ⟨(hposts.replaces twins_made rfl hsaw).1 (by decide +kernel), ?_⟩
  exact hcomments.twice Nat.zero_lt_one hfirst echo_made rfl rfl fun k g _ _ => by omega

/-- No creation ever replaces a row. -/
def NeverReplaces (start : Rows ν) (l : Ledger ν) : Prop :=
  ∀ i e row, l.made[i]? = some e → e.effect = .creates e.key row → (l.before start i).contains e.key = false

/-- Of two creations of one row both are granted and take effect, of posts within two transactions, of comments at
once. -/
theorem creation_replaces :
    ¬NeverReplaces .empty (Posts.ledger twins .empty) ∧ ¬NeverReplaces .empty (Comments.ledger echo .empty) :=
  ⟨fun h => absurd (h 1 _ _ twins_made rfl) (by decide +kernel),
    fun h => absurd (h 1 _ _ echo_made rfl) (by decide +kernel)⟩

end Forum.Memory
