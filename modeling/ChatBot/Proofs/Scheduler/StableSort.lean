import Mathlib

/-!
# Sorting by time

A stable sort is known by its order and by what it has at each key. The buckets of a list, one for
each key in ascending order, are therefore the sorted list.
-/

namespace ChatBot

variable {α τ : Type} [LinearOrder τ] (key : α → τ)

/-- A list in the order of a key; what has the same key stays in order. -/
def sortedBy (l : List α) : List α := l.mergeSort fun a b => key a ≤ key b

theorem sortedBy_perm (l : List α) : (sortedBy key l).Perm l := List.mergeSort_perm _ _

theorem pairwise_sortedBy (l : List α) : (sortedBy key l).Pairwise fun a b => key a ≤ key b := by
  have h : (sortedBy key l).Pairwise fun a b => decide (key a ≤ key b) :=
    List.pairwise_mergeSort (fun a b c => by simpa using le_trans)
      (fun a b => by simpa using le_total _ _) l
  exact h.imp fun h => by simpa using h

variable {key} in
theorem key_eq_of_mem_filter {l : List α} {t : τ} {a : α} (h : a ∈ l.filter (key · = t)) :
    key a = t :=
  of_decide_eq_true (List.mem_filter.1 h).2

/-- What has the same key stays in order. -/
theorem filter_sortedBy (l : List α) (t : τ) :
    (sortedBy key l).filter (key · = t) = l.filter (key · = t) := by
  have hle : (l.filter (key · = t)).Pairwise fun a b => decide (key a ≤ key b) :=
    List.pairwise_of_forall_mem_list fun a ha b hb => by
      rw [key_eq_of_mem_filter ha, key_eq_of_mem_filter hb]
      exact decide_eq_true le_rfl
  have hsub := List.sublist_mergeSort (fun a b c => by simpa using le_trans)
    (fun a b => by simpa using le_total _ _) hle List.filter_sublist
  have hsub := hsub.filter (key · = t)
  rw [List.filter_filter] at hsub
  simp only [Bool.and_self] at hsub
  refine (hsub.eq_of_length ?_).symm
  exact ((sortedBy_perm key l).filter _).length_eq.symm

/-- Sorted lists that agree at each key are equal. -/
theorem eq_of_filter_eq {l l' : List α} (h : l.Pairwise fun a b => key a ≤ key b)
    (h' : l'.Pairwise fun a b => key a ≤ key b)
    (hfilter : ∀ t, l.filter (key · = t) = l'.filter (key · = t)) : l = l' := by
  induction l generalizing l' with
  | nil =>
    cases l' with
    | nil => rfl
    | cons b l' => simpa using hfilter (key b)
  | cons a l ih =>
    cases l' with
    | nil => simpa using hfilter (key a)
    | cons b l' =>
      rw [List.pairwise_cons] at h h'
      have hmem : ∀ c, c ∈ a :: l ↔ c ∈ b :: l' := fun c => by
        have := hfilter (key c)
        have hc : ∀ xs : List α, c ∈ xs ↔ c ∈ xs.filter (key · = key c) := by simp
        rw [hc, this, ← hc]
      -- Each head is in the other list, so neither key is above the other.
      have hab : key a = key b := by
        refine le_antisymm ?_ ?_
        · rcases List.mem_cons.1 ((hmem b).2 List.mem_cons_self) with rfl | hb
          · exact le_rfl
          · exact h.1 b hb
        · rcases List.mem_cons.1 ((hmem a).1 List.mem_cons_self) with rfl | ha
          · exact le_rfl
          · exact h'.1 a ha
      have hhead := hfilter (key a)
      simp only [List.filter_cons, hab, decide_true, if_true, List.cons.injEq] at hhead
      obtain ⟨rfl, -⟩ := hhead
      refine congrArg _ (ih h.2 h'.2 fun t => ?_)
      have ht := hfilter t
      rw [List.filter_cons, List.filter_cons] at ht
      split at ht
      · exact (List.cons.inj ht).2
      · exact ht

theorem sortedBy_eq_self {l : List α} (h : l.Pairwise fun a b => key a ≤ key b) :
    sortedBy key l = l :=
  List.mergeSort_of_pairwise (h.imp fun h => decide_eq_true h)

/-- Sorting and leaving out can be done in any order. -/
theorem sortedBy_filter (p : α → Bool) (l : List α) :
    sortedBy key (l.filter p) = (sortedBy key l).filter p := by
  refine eq_of_filter_eq key (pairwise_sortedBy key _) ((pairwise_sortedBy key l).filter p)
    fun t => ?_
  rw [filter_sortedBy, List.filter_comm, List.filter_comm (l := sortedBy key l), filter_sortedBy]

theorem flatMap_filter_eq_nil (l : List α) {ts : List τ} {t : τ} (ht : t ∉ ts) :
    (ts.flatMap fun u => (l.filter (key · = u)).filter (key · = t)) = [] := by
  rw [List.flatMap_eq_nil_iff]
  intro u hu
  rw [List.filter_eq_nil_iff]
  intro a ha hat
  rw [decide_eq_true_eq, key_eq_of_mem_filter ha] at hat
  exact ht (hat ▸ hu)

/-- The buckets of a list, in the order of their keys, are the sorted list. -/
theorem flatMap_filter_eq_sortedBy {l : List α} {ts : List τ} (hts : ts.Pairwise (· < ·))
    (hl : ∀ a ∈ l, key a ∈ ts) : (ts.flatMap fun t => l.filter (key · = t)) = sortedBy key l := by
  refine eq_of_filter_eq key ?_ (pairwise_sortedBy key l) fun t => ?_
  · rw [List.pairwise_flatMap]
    refine ⟨fun t _ => List.pairwise_of_forall_mem_list fun a ha b hb => ?_,
      hts.imp fun h a ha b hb => ?_⟩
    · rw [key_eq_of_mem_filter ha, key_eq_of_mem_filter hb]
    · rw [key_eq_of_mem_filter ha, key_eq_of_mem_filter hb]
      exact h.le
  rw [filter_sortedBy, List.filter_flatMap]
  by_cases ht : t ∈ ts
  · obtain ⟨xs, ys, rfl⟩ := List.append_of_mem ht
    have hnodup : (xs ++ t :: ys).Nodup := hts.imp fun h => h.ne
    rw [List.nodup_middle, List.nodup_cons, List.mem_append, not_or] at hnodup
    rw [List.flatMap_append, List.flatMap_cons, flatMap_filter_eq_nil key l hnodup.1.1,
      flatMap_filter_eq_nil key l hnodup.1.2, List.filter_filter]
    simp
  · rw [flatMap_filter_eq_nil key l ht, eq_comm, List.filter_eq_nil_iff]
    intro a ha hat
    exact ht (by simpa [← of_decide_eq_true hat] using hl a ha)

end ChatBot
