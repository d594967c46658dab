import ChatBot.Proofs.Bot.Operation

/-!
# Linked chats

Whatever is linked, unlinked or restored, links go both ways, no chat is linked with itself and none
keeps an empty set. Linking and unlinking change one pair of chats and no other
(`links_go_both_ways`).
-/

namespace ChatBot.Bot

variable {b : Bot} {x y c d : Chat}

/-! ## Linking -/

theorem link_eq_true_iff : (b.link x y).1 = true ↔ x ≠ y ∧ y ∉ b.links.linkedWith x := by
  rw [Links.mem_linkedWith_iff, link]
  split
  next h => simp [h]
  next h => simp [h]

theorem mem_linkedWith_link : d ∈ (b.link x y).2.links.linkedWith c ↔
    x ≠ y ∧ (c = x ∧ d = y ∨ c = y ∧ d = x) ∨ d ∈ b.links.linkedWith c := by
  rw [Links.mem_linkedWith_iff, Links.mem_linkedWith_iff, link]
  split
  next h => simp [h]
  next h =>
    have hlinks : ∀ p : Bot, (if !b.links.isLinked x y then p.persist else p).links = p.links := by
      intro p
      split
      · rfl
      · rfl
    dsimp only
    rw [hlinks, Links.isLinked_join, and_iff_right h]

/-! ## Unlinking -/

theorem unlink_eq_true_iff : (b.unlink x y).1 = true ↔ y ∈ b.links.linkedWith x :=
  Links.mem_linkedWith_iff.symm

theorem mem_linkedWith_unlink : d ∈ (b.unlink x y).2.links.linkedWith c ↔
    ¬(c = x ∧ d = y ∨ c = y ∧ d = x) ∧ d ∈ b.links.linkedWith c := by
  have hlinks : (b.unlink x y).2.links = b.links.part x y := by
    unfold unlink
    dsimp only
    split
    · rfl
    · rfl
  rw [Links.mem_linkedWith_iff, Links.mem_linkedWith_iff, hlinks, Links.isLinked_part]

/-! ## All states -/

/-- **Links go both ways.** In every bot that comes of a new one, whatever was restored on the way,
two chats are linked in both directions or not at all, no chat is linked with itself, and no chat is
kept without a link. Two chats can be linked if they differ and are not linked yet, and unlinked if
they are linked; all other pairs stay as they were. -/
theorem links_go_both_ways (h : Reachable b) :
    (∀ x y, y ∈ b.links.linkedWith x ↔ x ∈ b.links.linkedWith y) ∧
    (∀ x, x ∉ b.links.linkedWith x) ∧
    (∀ x set, b.links.sets.get? x = some set → set.isEmpty = false) ∧
    (∀ r ∈ b.snapshot.links, r.linked ≠ []) ∧
    (∀ x y,
      ((b.link x y).1 = true ↔ x ≠ y ∧ y ∉ b.links.linkedWith x) ∧
      ∀ c d, d ∈ (b.link x y).2.links.linkedWith c ↔
        x ≠ y ∧ (c = x ∧ d = y ∨ c = y ∧ d = x) ∨ d ∈ b.links.linkedWith c) ∧
    ∀ x y,
      ((b.unlink x y).1 = true ↔ y ∈ b.links.linkedWith x) ∧
      ∀ c d, d ∈ (b.unlink x y).2.links.linkedWith c ↔
        ¬(c = x ∧ d = y ∨ c = y ∧ d = x) ∧ d ∈ b.links.linkedWith c := by
  have hlinks := h.sound.links
  refine ⟨fun x y => ?_, fun x => ?_, hlinks.filled, fun r hr => ?_,
    fun x y => ⟨link_eq_true_iff, fun c d => mem_linkedWith_link⟩,
    fun x y => ⟨unlink_eq_true_iff, fun c d => mem_linkedWith_unlink⟩⟩
  · rw [Links.mem_linkedWith_iff, Links.mem_linkedWith_iff]
    exact ⟨hlinks.symm x y, hlinks.symm y x⟩
  · rw [Links.mem_linkedWith_iff]
    exact hlinks.irrefl x
  · obtain ⟨g, hg, rfl⟩ := List.mem_map.1 hr
    exact hlinks.filled.ne_nil_of_mem_groups hg

theorem links_go_both_ways_restored :
    let x : Chat := ⟨⟨"Console"⟩, "x"⟩
    let y : Chat := ⟨⟨"Console"⟩, "y"⟩
    let stored : Snapshot := { Snapshot.empty with links := [⟨x, [y, x, y]⟩, ⟨y, [y]⟩, ⟨y, []⟩] }
    let b := echoing.perform (.restore (.ofMedium (.memory stored)))
    Reachable b ∧ x ∈ b.links.linkedWith y ∧ (b.link y x).1 = false ∧
      (b.unlink y x).1 = true ∧ y ∉ (b.unlink y x).2.links.linkedWith x := by
  intro x y stored b
  have hb : Reachable b := reachable_echoing.step (.restore (.ofMedium (.memory stored)))
  obtain ⟨hsymm, -, -, -, hlink, hunlink⟩ := links_go_both_ways hb
  have hyx : x ∈ b.links.linkedWith y := (hsymm x y).1 (by decide)
  refine ⟨hb, hyx, Bool.eq_false_iff.2 fun h => ?_, (hunlink y x).1.2 hyx, fun h => ?_⟩
  · exact ((hlink y x).1.1 h).2 hyx
  · exact (((hunlink y x).2 x y).1 h).1 (.inr ⟨rfl, rfl⟩)

end ChatBot.Bot
