import ChatBot.Directory
import ChatBot.Proofs.OrderedMap

/-!
# Numbers of chats

The two indices of a directory are inverse to each other, and the chats that were asked for have the
numbers from 1 on without a gap, in the order in which they were first asked for
(`Directory.holds_addAll`). So a chat has the same number whenever it is asked for
(`Directory.number_addAll`).
-/

namespace ChatBot

/-- The elements of a list, each where it comes first, go on with the next one if that is new. -/
theorem eraseDups_concat [BEq α] [LawfulBEq α] (l : List α) (a : α) :
    (l ++ [a]).eraseDups = if a ∈ l then l.eraseDups else l.eraseDups ++ [a] := by
  rw [List.eraseDups_append, List.removeAll]
  split
  next h => simp [h]
  next h => simp [h, List.eraseDups_cons]

namespace Directory

/-- Some chats with the numbers from 1 on. -/
def numbered (chats : List Chat) : List (Nat × Chat) := chats.mapIdx fun i chat => (i + 1, chat)

/-- A directory holds some chats: they are numbered in their order, and both indices say the
same. -/
structure Holds (d : Directory) (chats : List Chat) : Prop where
  entries : d.entries = numbered chats
  numbers : ∀ chat n, d.numbers.get? chat = some n ↔ d.get? n = some chat

theorem mem_numbered_iff {chats : List Chat} {n : Nat} {chat : Chat} :
    (n, chat) ∈ numbered chats ↔ n ≠ 0 ∧ chats[n - 1]? = some chat := by
  rw [numbered, List.mem_iff_getElem?]
  simp only [List.getElem?_mapIdx, Option.map_eq_some_iff, Prod.mk.injEq]
  constructor
  · intro h
    obtain ⟨i, _, hi, rfl, rfl⟩ := h
    exact ⟨Nat.succ_ne_zero i, hi⟩
  · intro h
    obtain ⟨hn, hchat⟩ := h
    exact ⟨n - 1, chat, hchat, Nat.succ_pred_eq_of_ne_zero hn, rfl⟩

theorem mem_numbered_idxOf {chats : List Chat} {chat : Chat} (h : chat ∈ chats) :
    (chats.idxOf chat + 1, chat) ∈ numbered chats :=
  mem_numbered_iff.2 ⟨Nat.succ_ne_zero _, List.getElem?_idxOf h⟩

/-- More chats after the others change no number. -/
theorem mem_numbered_of_isPrefix {chats chats' : List Chat} (h : chats <+: chats')
    {entry : Nat × Chat} (hentry : entry ∈ numbered chats) : entry ∈ numbered chats' := by
  obtain ⟨rest, rfl⟩ := h
  rw [numbered, List.mapIdx_append]
  exact List.mem_append_left _ hentry

theorem le_length_of_mem_numbered {chats : List Chat} {n : Nat} {chat : Chat}
    (h : (n, chat) ∈ numbered chats) : n ≤ chats.length := by
  have hlt := (List.getElem?_eq_some_iff.1 (mem_numbered_iff.1 h).2).1
  omega

variable {d : Directory} {chats : List Chat} {chat : Chat} {n : Nat}

namespace Holds

theorem empty : empty.Holds [] where
  entries := rfl
  numbers _ _ := ⟨nofun, nofun⟩

theorem get?_eq_some_iff (h : d.Holds chats) : d.get? n = some chat ↔ (n, chat) ∈ numbered chats := by
  rw [Directory.get?, OrderedMap.get?_eq_some_iff, ← h.entries]
  rfl

theorem get?_eq (h : d.Holds chats) (n : Nat) :
    d.get? n = if n = 0 then none else chats[n - 1]? := by
  ext c
  rw [h.get?_eq_some_iff, mem_numbered_iff]
  split
  next hn => simp [hn]
  next hn => exact and_iff_right hn

theorem number_unique (h : d.Holds chats) {m : Nat} (hm : d.get? m = some chat)
    (hn : d.get? n = some chat) : m = n := by
  rw [← h.numbers] at hm hn
  exact Option.some.inj (hm.symm.trans hn)

/-- The greatest number is the last one, so the next one leaves no gap. -/
theorem nextNumber (h : d.Holds chats) (hfew : chats.length + 1 < 2 ^ 32) :
    d.nextNumber = chats.length + 1 := by
  have hentries : d.byNumber.bindings = numbered chats := h.entries
  unfold Directory.nextNumber OrderedMap.keys
  rw [hentries, List.getLast?_map, numbered, List.getLast?_mapIdx]
  cases hlast : chats.getLast? with
  | none =>
    rw [List.getLast?_eq_none_iff.1 hlast]
    rfl
  | some last =>
    have hne : chats ≠ [] := by
      intro hnil
      rw [hnil] at hlast
      contradiction
    have hpos := List.length_pos_of_ne_nil hne
    simp only [Option.map_some, UInt32.toNat_add, UInt32.toNat_ofNat', Nat.sub_add_cancel hpos]
    have hone : UInt32.toNat 1 = 1 := rfl
    rw [hone]
    omega

/-- A chat that is held keeps its number. -/
theorem number_of_mem (h : d.Holds chats) (hchat : chat ∈ chats) :
    d.number chat = (chats.idxOf chat + 1, d) := by
  have hget : d.get? (chats.idxOf chat + 1) = some chat :=
    h.get?_eq_some_iff.2 (mem_numbered_idxOf hchat)
  rw [Directory.number, (h.numbers chat _).2 hget]

theorem numbers_eq_none (h : d.Holds chats) (hchat : chat ∉ chats) :
    d.numbers.get? chat = none := by
  apply Option.eq_none_iff_forall_not_mem.2
  intro n hn
  have hmem := h.get?_eq_some_iff.1 ((h.numbers chat n).1 hn)
  exact hchat (List.mem_of_getElem? (mem_numbered_iff.1 hmem).2)

/-- A new chat gets the next number, and then it is held as the last one. -/
theorem number_of_notMem (h : d.Holds chats) (hchat : chat ∉ chats)
    (hfew : chats.length + 1 < 2 ^ 32) :
    (d.number chat).1 = chats.length + 1 ∧ (d.number chat).2.Holds (chats ++ [chat]) := by
  have hnone := h.numbers_eq_none hchat
  have hentries : d.byNumber.bindings = numbered chats := h.entries
  have hbelow : ∀ c, (chats.length + 1, c) ∉ numbered chats := by
    intro c hc
    have hle := le_length_of_mem_numbered hc
    omega
  rw [Directory.number, hnone, h.nextNumber hfew]
  refine ⟨rfl, ?_, ?_⟩
  · have habove : ∀ k ∈ d.byNumber.keys, compare (chats.length + 1) k = .gt := by
      intro k hk
      obtain ⟨c, hc⟩ := OrderedMap.mem_keys_iff.1 hk
      have hle := le_length_of_mem_numbered (h.get?_eq_some_iff.1 hc)
      rw [Nat.compare_eq_gt]
      omega
    rw [Directory.entries, OrderedMap.bindings_insert_of_forall_gt habove, hentries, numbered,
      numbered, List.mapIdx_concat]
  · intro c m
    rw [Directory.get?, OrderedMap.get?_insert, OrderedMap.get?_insert]
    simp only [OrderedMap.isEq_compare_iff]
    by_cases hc : chat = c
    · subst hc
      by_cases hm : chats.length + 1 = m
      · simp [hm]
      · have hfree : d.byNumber.get? m ≠ some chat := by
          intro hget
          rw [(h.numbers chat m).2 hget] at hnone
          contradiction
        rw [if_pos rfl, if_neg hm, Option.some.injEq]
        exact iff_of_false hm hfree
    · by_cases hm : chats.length + 1 = m
      · subst hm
        have hfree : d.numbers.get? c ≠ some (chats.length + 1) := by
          intro hget
          exact hbelow c (h.get?_eq_some_iff.1 ((h.numbers c _).1 hget))
        rw [if_neg hc, if_pos rfl, Option.some.injEq]
        exact iff_of_false hfree hc
      · rw [if_neg hc, if_neg hm]
        exact h.numbers c m

end Holds

/-! ## Any calls -/

variable {calls before after : List Chat}

theorem addAll_concat (d : Directory) (calls : List Chat) (chat : Chat) :
    d.addAll (calls ++ [chat]) = ((d.addAll calls).number chat).2 :=
  List.foldl_concat ..

theorem addAll_append (d : Directory) (before after : List Chat) :
    d.addAll (before ++ after) = (d.addAll before).addAll after :=
  List.foldl_append

/-- After any calls of an empty directory, the chats are held in the order in which they came
first. -/
theorem holds_addAll (hfew : calls.eraseDups.length < 2 ^ 32) :
    (empty.addAll calls).Holds calls.eraseDups := by
  -- The last call is the one that can add a chat, so the induction takes that off.
  induction calls using List.reverseRecOn with
  | nil => exact .empty
  | append_singleton calls chat ih =>
    rw [eraseDups_concat] at hfew ⊢
    rw [addAll_concat]
    split at hfew
    next hmem =>
      have hold := ih hfew
      rw [if_pos hmem, hold.number_of_mem (List.mem_eraseDups.2 hmem)]
      exact hold
    next hnew =>
      rw [List.length_append, List.length_singleton] at hfew
      have hold := ih (by omega)
      have hnotMem : chat ∉ calls.eraseDups := fun hmem => hnew (List.mem_eraseDups.1 hmem)
      rw [if_neg hnew]
      exact (hold.number_of_notMem hnotMem hfew).2

/-- What was there first stays there. -/
theorem eraseDups_isPrefix (before after : List Chat) :
    before.eraseDups <+: (before ++ after).eraseDups := by
  rw [List.eraseDups_append]
  exact List.prefix_append _ _

/-- Whenever a chat is asked for, it has the number of its place among the different chats. -/
theorem number_addAll (hfew : (before ++ chat :: after).eraseDups.length < 2 ^ 32) :
    (empty.addAll before).number chat =
      ((before ++ chat :: after).eraseDups.idxOf chat + 1, empty.addAll (before ++ [chat])) := by
  have hsplit : before ++ chat :: after = (before ++ [chat]) ++ after := by simp
  rw [hsplit] at hfew ⊢
  obtain ⟨rest, hrest⟩ := eraseDups_isPrefix (before ++ [chat]) after
  have hmem : chat ∈ (before ++ [chat]).eraseDups := List.mem_eraseDups.2 (by simp)
  rw [← hrest, List.length_append, eraseDups_concat] at hfew
  rw [← hrest, List.idxOf_append_of_mem hmem, addAll_concat, eraseDups_concat]
  refine Prod.ext ?_ rfl
  split at hfew
  next hold =>
    have hheld : (empty.addAll before).Holds before.eraseDups := holds_addAll (by omega)
    rw [if_pos hold, hheld.number_of_mem (List.mem_eraseDups.2 hold)]
  next hnew =>
    rw [List.length_append, List.length_singleton] at hfew
    have hheld : (empty.addAll before).Holds before.eraseDups := holds_addAll (by omega)
    have hnotMem : chat ∉ before.eraseDups := fun hold => hnew (List.mem_eraseDups.1 hold)
    rw [if_neg hnew, (hheld.number_of_notMem hnotMem (by omega)).1,
      List.idxOf_append_of_notMem hnotMem, List.idxOf_cons_self]

end Directory

end ChatBot
