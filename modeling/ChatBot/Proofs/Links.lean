import ChatBot.Links
import ChatBot.Proofs.OrderedMap

/-!
# Links in both directions

Links that go both ways are kept so by joining and parting chats, and no chat is left with an empty
set (`Links.Mutual`).
-/

namespace ChatBot.Links

variable {l l' : Links} {a b c d : Chat}

/-! ## The sets -/

theorem isLinked_iff : l.isLinked a b ↔ (l.targets a).get? b = some () := by
  rw [isLinked, OrderedMap.contains, Option.isSome_iff_exists]
  exact ⟨fun ⟨_, h⟩ => h, fun h => ⟨_, h⟩⟩

theorem mem_linkedWith_iff : b ∈ l.linkedWith a ↔ l.isLinked a b := by
  rw [isLinked_iff, linkedWith, OrderedMap.mem_keys_iff]
  exact ⟨fun ⟨_, h⟩ => h, fun h => ⟨_, h⟩⟩

/-- No chat has an empty set. -/
def Filled (l : Links) : Prop :=
  ∀ chat set, l.sets.get? chat = some set → set.isEmpty = false

theorem targets_eq {set : OrderedMap Chat Unit} (h : l.sets.get? a = some set) :
    l.targets a = set := by
  rw [targets, h, Option.getD_some]

/-- The sets are those that are not empty. -/
theorem Filled.get?_sets (h : l.Filled) (chat : Chat) :
    l.sets.get? chat = if (l.targets chat).isEmpty then none else some (l.targets chat) := by
  cases hset : l.sets.get? chat with
  | none =>
    have htargets : l.targets chat = .empty := by rw [targets, hset, Option.getD_none]
    rw [htargets]
    rfl
  | some set =>
    rw [targets_eq hset, h chat set hset]
    rfl

/-- Links without empty sets are known by which chats are linked. -/
theorem ext_isLinked (hl : l.Filled) (hl' : l'.Filled)
    (h : ∀ a b, l.isLinked a b ↔ l'.isLinked a b) : l = l' := by
  have htargets : ∀ chat, l.targets chat = l'.targets chat := fun chat =>
    OrderedMap.ext_get? fun target => Option.ext fun _ =>
      isLinked_iff.symm.trans ((h chat target).trans isLinked_iff)
  have hsets : l.sets = l'.sets := OrderedMap.ext_get? fun chat => by
    rw [hl.get?_sets, hl'.get?_sets, htargets]
  cases l
  cases l'
  cases hsets
  rfl

/-! ## One direction -/

theorem targets_add (l : Links) (a b c : Chat) :
    (l.add a b).targets c = if a = c then (l.targets c).insert b () else l.targets c := by
  simp only [add, targets, OrderedMap.get?_insert, OrderedMap.isEq_compare_iff]
  split
  next h =>
    subst h
    rfl
  next => rfl

theorem isLinked_add : (l.add a b).isLinked c d ↔ (a = c ∧ b = d) ∨ l.isLinked c d := by
  rw [isLinked_iff, isLinked_iff, targets_add]
  split
  next h =>
    rw [OrderedMap.get?_insert]
    simp only [OrderedMap.isEq_compare_iff]
    split
    next h' => simp [h, h']
    next h' => simp [h']
  next h => simp [h]

theorem Filled.add (h : l.Filled) (a b : Chat) : (l.add a b).Filled := by
  intro chat set hset
  simp only [Links.add, OrderedMap.get?_insert] at hset
  split at hset
  · cases hset
    exact OrderedMap.isEmpty_insert _ b ()
  · exact h chat set hset

theorem targets_remove (l : Links) (a b c : Chat) :
    (l.remove a b).targets c = if a = c then (l.targets c).erase b else l.targets c := by
  unfold remove
  split
  next hnone =>
    split
    next h =>
      subst h
      have htargets : l.targets a = .empty := by rw [targets, hnone, Option.getD_none]
      rw [htargets]
      rfl
    next => rfl
  next set hset =>
    rw [← targets_eq hset]
    dsimp only
    split
    next hleft =>
      simp only [targets, OrderedMap.get?_erase, OrderedMap.isEq_compare_iff]
      split
      next h =>
        subst h
        exact (OrderedMap.eq_empty_of_isEmpty hleft).symm
      next => rfl
    next =>
      simp only [targets, OrderedMap.get?_insert, OrderedMap.isEq_compare_iff]
      split
      next h =>
        subst h
        rfl
      next => rfl

theorem isLinked_remove : (l.remove a b).isLinked c d ↔ ¬(a = c ∧ b = d) ∧ l.isLinked c d := by
  rw [isLinked_iff, isLinked_iff, targets_remove]
  split
  next h =>
    rw [OrderedMap.get?_erase]
    simp only [OrderedMap.isEq_compare_iff]
    split
    next h' => simp [h, h']
    next h' => simp [h']
  next h => simp [h]

theorem Filled.remove (h : l.Filled) (a b : Chat) : (l.remove a b).Filled := by
  unfold Links.remove
  split
  next => exact h
  next set _ =>
    dsimp only
    split
    next =>
      intro chat other hother
      simp only [OrderedMap.get?_erase] at hother
      split at hother
      · contradiction
      · exact h chat other hother
    next hleft =>
      intro chat other hother
      simp only [OrderedMap.get?_insert] at hother
      split at hother
      · cases hother
        exact Bool.eq_false_iff.2 hleft
      · exact h chat other hother

/-! ## Joining and parting -/

theorem isLinked_join : (l.join a b).isLinked c d ↔
    (c = a ∧ d = b ∨ c = b ∧ d = a) ∨ l.isLinked c d := by
  rw [join, isLinked_add, isLinked_add, @eq_comm _ c, @eq_comm _ c, @eq_comm _ d, @eq_comm _ d]
  tauto

theorem isLinked_part : (l.part a b).isLinked c d ↔
    ¬(c = a ∧ d = b ∨ c = b ∧ d = a) ∧ l.isLinked c d := by
  rw [part, isLinked_remove, isLinked_remove, @eq_comm _ c, @eq_comm _ c, @eq_comm _ d,
    @eq_comm _ d]
  tauto

/-- Links go both ways, no chat is linked with itself, and none has an empty set. -/
structure Mutual (l : Links) : Prop where
  symm : ∀ a b, l.isLinked a b → l.isLinked b a
  irrefl : ∀ a, ¬l.isLinked a a
  filled : l.Filled

theorem mutual_empty : empty.Mutual where
  symm _ _ h := by contradiction
  irrefl _ h := by contradiction
  filled _ _ h := by contradiction

namespace Mutual

theorem join (h : l.Mutual) (hab : a ≠ b) : (l.join a b).Mutual where
  symm c d hcd := by
    rw [isLinked_join] at hcd ⊢
    exact hcd.imp (fun hcd => hcd.symm.imp And.symm And.symm) (h.symm c d)
  irrefl c hcc := by
    rw [isLinked_join] at hcc
    rcases hcc with (⟨rfl, rfl⟩ | ⟨rfl, rfl⟩) | hcc
    · exact hab rfl
    · exact hab rfl
    · exact h.irrefl c hcc
  filled := (h.filled.add a b).add b a

theorem part (h : l.Mutual) (a b : Chat) : (l.part a b).Mutual where
  symm c d hcd := by
    rw [isLinked_part] at hcd ⊢
    exact ⟨fun hdc => hcd.1 (hdc.symm.imp And.symm And.symm), h.symm c d hcd.2⟩
  irrefl c hcc := h.irrefl c (isLinked_part.1 hcc).2
  filled := (h.filled.remove a b).remove b a

/-- Linked chats cannot be linked once more. -/
theorem join_eq_self (h : l.Mutual) (hab : l.isLinked a b) : l.join a b = l := by
  refine ext_isLinked ((h.filled.add a b).add b a) h.filled fun c d => ?_
  rw [isLinked_join, or_iff_right_iff_imp]
  rintro (⟨rfl, rfl⟩ | ⟨rfl, rfl⟩)
  · exact hab
  · exact h.symm _ _ hab

/-- Chats that are not linked cannot be parted. -/
theorem part_eq_self (h : l.Mutual) (hab : ¬l.isLinked a b) : l.part a b = l := by
  refine ext_isLinked ((h.filled.remove a b).remove b a) h.filled fun c d => ?_
  rw [isLinked_part, and_iff_right_iff_imp]
  rintro hcd (⟨rfl, rfl⟩ | ⟨rfl, rfl⟩)
  · exact hab hcd
  · exact hab (h.symm _ _ hcd)

end Mutual

/-- The links with two chats linked with each other, or not. -/
def assign (l : Links) (a b : Chat) (linked : Bool) : Links :=
  if linked then l.join a b else l.part a b

theorem isLinked_assign (l : Links) (a b c d : Chat) (linked : Bool) :
    (l.assign a b linked).isLinked c d ↔
      if s(a, b) = s(c, d) then linked = true else l.isLinked c d := by
  have hpair : s(a, b) = s(c, d) ↔ (c = a ∧ d = b) ∨ (c = b ∧ d = a) := by
    rw [Sym2.eq_iff, eq_comm (a := c), eq_comm (a := d), eq_comm (a := c), eq_comm (a := d)]
    tauto
  cases linked with
  | true =>
    rw [assign, if_pos rfl, isLinked_join, ← hpair]
    split
    next h => exact iff_of_true (.inl h) rfl
    next h => exact or_iff_right h
  | false =>
    rw [assign, if_neg Bool.false_ne_true, isLinked_part, ← hpair]
    split
    next h => exact iff_of_false (fun hcd => hcd.1 h) Bool.false_ne_true
    next h => exact and_iff_right h

theorem Filled.assign (h : l.Filled) (a b : Chat) (linked : Bool) :
    (l.assign a b linked).Filled := by
  unfold Links.assign
  split
  · exact (h.add a b).add b a
  · exact (h.remove a b).remove b a

/-- Links of different pairs of chats can be set in any order, even if the pairs share a chat. -/
theorem Filled.assign_comm (h : l.Filled) (hne : s(a, b) ≠ s(c, d)) (linked linked' : Bool) :
    (l.assign a b linked).assign c d linked' = (l.assign c d linked').assign a b linked := by
  refine ext_isLinked ((h.assign a b linked).assign c d linked')
    ((h.assign c d linked').assign a b linked) fun x y => ?_
  simp only [isLinked_assign]
  by_cases hab : s(a, b) = s(x, y)
  · rw [if_pos hab, if_pos hab, if_neg fun hcd => hne (hab.trans hcd.symm)]
  · rw [if_neg hab, if_neg hab]

/-! ## Groups -/

/-- The groups say which chats are linked. -/
theorem isLinked_iff_mem_groups : l.isLinked a b ↔ ∃ g ∈ l.groups, g.1 = a ∧ b ∈ g.2 := by
  rw [isLinked_iff]
  constructor
  · intro h
    rw [targets] at h
    cases hset : l.sets.get? a with
    | none =>
      rw [hset] at h
      contradiction
    | some set =>
      rw [hset, Option.getD_some] at h
      have hgroup : (a, set.keys) ∈ l.groups :=
        List.mem_map.2 ⟨_, OrderedMap.get?_eq_some_iff.1 hset, rfl⟩
      exact ⟨_, hgroup, rfl, OrderedMap.mem_keys_iff.2 ⟨_, h⟩⟩
  · rintro ⟨g, hg, rfl, hb⟩
    obtain ⟨⟨chat, set⟩, hset, rfl⟩ := List.mem_map.1 hg
    rw [targets_eq (OrderedMap.get?_eq_some_iff.2 hset)]
    exact (OrderedMap.mem_keys_iff.1 hb).choose_spec

/-- No group is empty. -/
theorem Filled.ne_nil_of_mem_groups (h : l.Filled) {g : Chat × List Chat} (hg : g ∈ l.groups) :
    g.2 ≠ [] := by
  obtain ⟨⟨chat, set⟩, hset, rfl⟩ := List.mem_map.1 hg
  have hfilled := h chat set (OrderedMap.get?_eq_some_iff.2 hset)
  intro hkeys
  rw [OrderedMap.isEmpty, List.map_eq_nil_iff.1 hkeys] at hfilled
  contradiction

end ChatBot.Links
