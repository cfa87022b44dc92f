import Mathlib.Data.List.Basic
import Mathlib.Data.List.InsertIdx
import Forum.Proofs.Broker.Consumer

/-!
# Members under other names

A consumer never looks at what its members are called, only at which of them are live. So whatever it does, it does the
same when its members have other names, as long as the same ones are live (`Alike`): it hands out the same messages, to
the members of those names (`rename_join`, `rename_pump`, `rename_expire`, `rename_settle`).
-/

namespace Forum.Memory

/-! ## Renaming -/

/-- An entry for a member of another name. -/
def Pending.rename (ρ : Nat → Nat) (p : Pending) : Pending := { p with member := ρ p.member }

/-- A message on its way to a member of another name. -/
def HandOut.rename (ρ : Nat → Nat) (h : HandOut) : HandOut := { h with member := ρ h.member }

/-- A consumer whose members have other names. -/
def Consumer.rename (ρ : Nat → Nat) (c : Consumer) : Consumer :=
  { c with members := c.members.map ρ, pending := c.pending.map (Pending.rename ρ) }

section

variable (ρ : Nat → Nat) (ps : List Pending)

/-- The entry of a message is renamed with all others. -/
theorem Pending.find?_rename (seq : Nat) :
    find? (ps.map (rename ρ)) seq = (find? ps seq).map (rename ρ) := List.find?_map

/-- The entries for other messages are renamed. -/
theorem Pending.erase_rename (seq : Nat) : erase (ps.map (rename ρ)) seq = (erase ps seq).map (rename ρ) :=
  List.filter_map

/-- An entry and those that it is put among are renamed. -/
theorem Pending.insert_rename (p : Pending) :
    insert (ps.map (rename ρ)) (p.rename ρ) = (insert ps p).map (rename ρ) := by
  simp only [insert, List.map_append, List.map_cons, List.filter_map]
  rfl

end

/-- Different hand-outs have different names. -/
theorem HandOut.rename_injective {ρ : Nat → Nat} (hρ : Function.Injective ρ) :
    Function.Injective (HandOut.rename ρ) := by
  intro g h heq
  obtain ⟨durable, seq, member, delivery, wait⟩ := g
  simp only [rename, HandOut.mk.injEq] at heq
  obtain ⟨rfl, rfl, hmember, rfl, rfl⟩ := heq
  rw [hρ hmember]

namespace Consumer

variable {ρ : Nat → Nat} {live live' : Nat → Bool} {log : List StoredMessage} {c : Consumer}

/-- The members are live under their other names as they are under their own. -/
def Alike (ρ : Nat → Nat) (live live' : Nat → Bool) (members : List Nat) : Prop :=
  ∀ member ∈ members, live' (ρ member) = live member

/-- Fewer members are alike as well. -/
theorem Alike.subset {members members' : List Nat} (h : Alike ρ live live' members) (hsub : members' ⊆ members) :
    Alike ρ live live' members' := fun member hm => h member (hsub hm)

/-- A consumer and its hand-outs under other names. -/
def renamed (ρ : Nat → Nat) (result : Consumer × List HandOut) : Consumer × List HandOut :=
  (result.1.rename ρ, result.2.map (HandOut.rename ρ))

/-! ## Turns -/

/-- The turn goes to the same member under its new name. -/
theorem rename_choose {members : List Nat} (h : Alike ρ live live' members) (turn : UInt64) :
    choose live' (members.map ρ) turn =
      ((choose live members turn).1.map ρ, (choose live members turn).2.1.map ρ, (choose live members turn).2.2) := by
  induction members, turn using choose.induct live with
  | case1 turn =>
    rw [choose, choose, dif_pos rfl, List.map_nil, dif_pos rfl]
    rfl
  | case2 members turn _ hlt _ hl =>
    have hlt' : turn.toNat % (members.map ρ).length < (members.map ρ).length := by simpa using hlt
    have hl' : live' (members.map ρ)[turn.toNat % (members.map ρ).length] = true := by
      simp only [List.getElem_map, List.length_map]
      rw [h _ (List.getElem_mem hlt)]
      exact hl
    rw [choose_of_live hlt hl, choose_of_live hlt' hl']
    simp only [List.getElem_map, List.length_map, Option.map_some]
  | case3 members turn _ hlt _ hl ih =>
    have hlt' : turn.toNat % (members.map ρ).length < (members.map ρ).length := by simpa using hlt
    have hl' : ¬live' (members.map ρ)[turn.toNat % (members.map ρ).length] = true := by
      simp only [List.getElem_map, List.length_map]
      rw [h _ (List.getElem_mem hlt)]
      exact hl
    rw [choose_of_not_live hlt hl, choose_of_not_live hlt' hl', List.length_map, List.eraseIdx_map]
    exact ih (h.subset (List.eraseIdx_sublist _ _).subset)

/-- A message is offered to the same member under its new name. -/
theorem rename_offer (h : Alike ρ live live' c.members) (m : StoredMessage) (count : Nat) :
    (c.rename ρ).offer live' m count =
      ((c.offer live m count).1.map (HandOut.rename ρ), (c.offer live m count).2.rename ρ) := by
  have hchoose := rename_choose h c.turn
  unfold offer
  rcases hc : choose live c.members c.turn with ⟨_ | member, members, turn⟩
  · rw [hc] at hchoose
    simp only [rename, hchoose]
    rfl
  · rw [hc] at hchoose
    simp only [rename, hchoose, Option.map_some, ← Pending.insert_rename]
    rfl

/-- No member comes in by an offer. -/
theorem offer_members (live : Nat → Bool) (c : Consumer) (m : StoredMessage) (count : Nat) :
    (c.offer live m count).2.members ⊆ c.members := by
  obtain ⟨members, turn, hleaves, ⟨-, ho⟩ | ⟨member, -, -, ho⟩⟩ := offer_cases live c m count
  · rw [ho]
    exact hleaves.sublist.subset
  · rw [ho]
    exact hleaves.sublist.subset

/-! ## First deliveries -/

/-- Messages are handed to the same members under their new names. -/
theorem rename_consider (ms : List StoredMessage) (h : Alike ρ live live' c.members) :
    consider live' ms (c.rename ρ) = renamed ρ (consider live ms c) := by
  induction ms generalizing c with
  | nil => rfl
  | cons m ms ih =>
    have hsubject : (c.rename ρ).subject = c.subject := rfl
    rw [consider, consider, hsubject]
    by_cases hs : m.subject = c.subject
    · rw [if_pos hs, if_pos hs, rename_offer h]
      have hmembers := offer_members live c m 1
      rcases ho : c.offer live m 1 with ⟨_ | g, d⟩
      · rfl
      · rw [ho] at hmembers
        have hrest : consider live' ms { d.rename ρ with cursor := (d.rename ρ).cursor + 1 } =
            renamed ρ (consider live ms { d with cursor := d.cursor + 1 }) :=
          ih (c := { d with cursor := d.cursor + 1 }) (h.subset hmembers)
        simp only [Option.map_some, hrest]
        rfl
    · rw [if_neg hs, if_neg hs]
      exact ih (c := { c with cursor := c.cursor + 1 }) h

/-- Pumping hands out to the same members under their new names. -/
theorem rename_pump (log : List StoredMessage) (h : Alike ρ live live' c.members) :
    (c.rename ρ).pump live' log = renamed ρ (c.pump live log) := rename_consider _ h

/-! ## Redeliveries -/

/-- A redelivery goes to the same member under its new name. -/
theorem rename_redeliver (log : List StoredMessage) (h : Alike ρ live live' c.members) (seq count : Nat) :
    (c.rename ρ).redeliver live' log seq count = renamed ρ (c.redeliver live log seq count) := by
  have hspent : (c.rename ρ).isSpent count = c.isSpent count := rfl
  unfold redeliver
  rw [hspent]
  split
  · have herase := Pending.erase_rename ρ c.pending seq
    simp only [renamed, rename, List.map_nil, ← herase]
  · cases log[seq - 1]? with
    | none => rfl
    | some m =>
      simp only [rename_offer h, renamed]
      cases (c.offer live m (count + 1)).1 <;> rfl

/-- A redelivery takes no members in. -/
theorem redeliver_members (live : Nat → Bool) (log : List StoredMessage) (c : Consumer) (seq count : Nat) :
    (c.redeliver live log seq count).1.members ⊆ c.members := by
  unfold redeliver
  split
  · exact fun _ hm => hm
  · cases log[seq - 1]? with
    | none => exact fun _ hm => hm
    | some m => exact offer_members live c m (count + 1)

/-- Redeliveries go to the same members under their new names. -/
theorem rename_redeliverAll (log : List StoredMessage) (ps : List Pending) (h : Alike ρ live live' c.members) :
    redeliverAll live' log (ps.map (Pending.rename ρ)) (c.rename ρ) = renamed ρ (redeliverAll live log ps c) := by
  induction ps generalizing c with
  | nil => rfl
  | cons p ps ih =>
    have hfirst : (c.rename ρ).redeliver live' log (p.rename ρ).seq (p.rename ρ).count =
        renamed ρ (c.redeliver live log p.seq p.count) := rename_redeliver log h p.seq p.count
    have hrest := ih (h.subset (redeliver_members live log c p.seq p.count))
    simp only [List.map_cons, redeliverAll, hfirst, renamed, List.map_append]
    simp only [hrest, renamed]

/-- Redeliveries take no members in. -/
theorem redeliverAll_members (live : Nat → Bool) (log : List StoredMessage) (ps : List Pending) (c : Consumer) :
    (redeliverAll live log ps c).1.members ⊆ c.members := by
  induction ps generalizing c with
  | nil => exact fun _ hm => hm
  | cons p ps ih => exact fun _ hm => redeliver_members live log c p.seq p.count (ih _ hm)

/-- The same pending messages are without their members. -/
theorem rename_orphans (hρ : Function.Injective ρ) (h : Alike ρ live live' c.members) :
    (c.rename ρ).orphans live' = (c.orphans live).map (Pending.rename ρ) := by
  have hsame (p : Pending) : ((c.members.map ρ).contains (ρ p.member) && live' (ρ p.member)) =
      (c.members.contains p.member && live p.member) := by
    by_cases hp : p.member ∈ c.members
    · rw [h p.member hp, List.contains_iff_mem.2 hp, List.contains_iff_mem.2 (List.mem_map_of_mem hp)]
    · have hp' : ρ p.member ∉ c.members.map ρ := fun hmem => hp ((List.mem_map_of_injective hρ).1 hmem)
      simp [hp, hp']
  simp only [orphans, rename, List.filter_map, Function.comp_def, Pending.rename, hsame]

/-- A member enters under its new name. -/
theorem rename_enter {member : Nat} (h : Alike ρ live live' (c.members ++ [member])) :
    (c.rename ρ).enter live' (ρ member) = (c.enter live member).rename ρ := by
  have hlive : (c.members.map ρ).filter live' = (c.members.filter live).map ρ := by
    rw [List.filter_map]
    exact congrArg _ (List.filter_congr fun i hi => h i (List.mem_append_left _ hi))
  simp only [enter, rename, hlive, List.map_append, List.map_singleton]

/-- A join is a redelivery of what was left behind, and then a pump. -/
theorem join_eq {member : Nat} {result : Consumer × List HandOut}
    (h : redeliverAll live log ((c.enter live member).orphans live) (c.enter live member) = result) :
    c.join live log member = ((result.1.pump live log).1, result.2 ++ (result.1.pump live log).2) := by
  subst h
  rfl

/-- A member joins under its new name, and all hand-outs are renamed. -/
theorem rename_join (hρ : Function.Injective ρ) (log : List StoredMessage) {member : Nat}
    (h : Alike ρ live live' (c.members ++ [member])) :
    (c.rename ρ).join live' log (ρ member) = renamed ρ (c.join live log member) := by
  have hmembers : (c.enter live member).members ⊆ c.members ++ [member] :=
    List.append_subset.2 ⟨fun i hi => List.mem_append_left _ (List.mem_filter.1 hi).1, List.subset_append_right _ _⟩
  have hfirst := rename_redeliverAll log ((c.enter live member).orphans live) (h.subset hmembers)
  have hsecond := rename_pump log ((h.subset hmembers).subset
    (redeliverAll_members live log ((c.enter live member).orphans live) (c.enter live member)))
  rw [← rename_orphans hρ (h.subset hmembers), ← rename_enter h] at hfirst
  rw [join_eq hfirst, join_eq rfl]
  simp only [renamed, hsecond, List.map_append]

/-- A timer that goes off hands out to the same member under its new name. -/
theorem rename_expire (log : List StoredMessage) (h : Alike ρ live live' c.members) (seq count : Nat) :
    (c.rename ρ).expire live' log seq count = renamed ρ (c.expire live log seq count) := by
  have hfind : ((Pending.find? (c.rename ρ).pending seq).any fun p => p.count = count) =
      (Pending.find? c.pending seq).any fun p => p.count = count := by
    simp only [rename, Pending.find?_rename, Option.any_map]
    rfl
  unfold expire
  rw [hfind]
  split
  · exact rename_redeliver log h seq count
  · rfl

/-! ## Settling -/

/-- A settlement does not depend on the names of members. -/
theorem rename_settle (ρ : Nat → Nat) (c : Consumer) (seq : Nat) (giveUp : Bool) :
    (c.rename ρ).settle seq giveUp = (c.settle seq giveUp).rename ρ := by
  have hfind : (Pending.find? (c.rename ρ).pending seq).isSome = (Pending.find? c.pending seq).isSome := by
    simp only [rename, Pending.find?_rename, Option.isSome_map]
  unfold settle
  rw [hfind]
  split
  · simp only [rename, Pending.erase_rename]
  · rfl

end Consumer

end Forum.Memory
