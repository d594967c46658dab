import Mathlib
import ChatBot.Counters

/-!
# What counters show

Each move of a counter adds one to what it shows, and nothing to what the others show. So it adds
one to what a family of counters shows together, if it is one of them (`Counters.total_bump`).
-/

namespace ChatBot.Counters

theorem lookup_cons_self (c : Counter) (n : Nat) (rest : List (Counter × Nat)) :
    ((c, n) :: rest).lookup c = some n := by
  rw [List.lookup_cons, beq_self_eq_true]

theorem lookup_cons_of_ne {c d : Counter} (h : d ≠ c) (n : Nat) (rest : List (Counter × Nat)) :
    ((c, n) :: rest).lookup d = rest.lookup d := by
  rw [List.lookup_cons, beq_eq_false_iff_ne.2 h]

theorem lookup_go (counts : List (Counter × Nat)) (c d : Counter) :
    ((bump.go c counts).lookup d).getD 0 = (counts.lookup d).getD 0 + if c = d then 1 else 0 := by
  induction counts with
  | nil =>
    rw [bump.go]
    split
    next h =>
      subst h
      rw [lookup_cons_self]
      rfl
    next h => rw [lookup_cons_of_ne (Ne.symm h), Nat.add_zero]
  | cons e rest ih =>
    obtain ⟨c', n⟩ := e
    rw [bump.go]
    rcases eq_or_ne d c' with rfl | hd
    · split
      next h =>
        subst h
        rw [lookup_cons_self, lookup_cons_self, if_pos rfl]
        rfl
      next h => rw [lookup_cons_self, lookup_cons_self, if_neg (Ne.symm h), Nat.add_zero]
    · rw [lookup_cons_of_ne hd, ← ih]
      split
      next h =>
        subst h
        rw [lookup_cons_of_ne hd, ih, if_neg (Ne.symm hd), Nat.add_zero]
      next => rw [lookup_cons_of_ne hd]

theorem get_bump (cs : Counters) (c d : Counter) :
    (cs.bump c).get d = cs.get d + if c = d then 1 else 0 :=
  lookup_go cs.counts c d

/-- Moves of counters add up. -/
theorem get_foldl_bump (moves : List Counter) (cs : Counters) (d : Counter) :
    (moves.foldl bump cs).get d = cs.get d + moves.count d := by
  induction moves generalizing cs with
  | nil => rfl
  | cons c moves ih =>
    rw [List.foldl_cons, ih, get_bump, List.count_cons, Nat.add_assoc,
      Nat.add_comm (List.count d moves)]
    simp only [beq_iff_eq]

/-! ## Families of counters -/

/-- What the counters of a family show together. -/
noncomputable def total (cs : Counters) (family : String → Counter) : Nat :=
  ∑ᶠ name, cs.get (family name)

variable {family : String → Counter}

theorem finite_support_get (cs : Counters) : cs.get.support.Finite := by
  refine (List.finite_toSet (cs.counts.map (·.1))).subset fun c hc => ?_
  by_contra hnone
  refine hc ?_
  rw [get, List.lookup_eq_none_iff.2, Option.getD_none]
  rintro ⟨d, n⟩ hd
  refine bne_iff_ne.2 ?_
  rintro rfl
  exact hnone (List.mem_map_of_mem (f := (·.1)) hd)

/-- A move of a counter adds to what its family shows, and to no other family. -/
theorem total_bump (hfamily : family.Injective) (cs : Counters) (c : Counter)
    [Decidable (c ∈ Set.range family)] :
    (cs.bump c).total family = cs.total family + if c ∈ Set.range family then 1 else 0 := by
  have hfinite : (fun name => cs.get (family name)).HasFiniteSupport :=
    cs.finite_support_get.preimage hfamily.injOn
  have hmoved : (fun name => if c = family name then 1 else 0).HasFiniteSupport := by
    refine ((Set.finite_singleton c).preimage hfamily.injOn).subset fun name hname => ?_
    exact (ite_ne_right_iff.1 hname).1.symm
  have hmove : ∑ᶠ name, (if c = family name then 1 else 0) =
      if c ∈ Set.range family then 1 else 0 := by
    split
    next h =>
      obtain ⟨name, rfl⟩ := h
      rw [finsum_eq_single _ name fun _ hne => if_neg fun heq => hne (hfamily heq).symm,
        if_pos rfl]
    next h =>
      exact finsum_eq_zero_of_forall_eq_zero fun name => if_neg fun heq => h ⟨name, heq.symm⟩
  simp only [total, get_bump]
  rw [finsum_add_distrib hfinite hmoved, hmove]

theorem total_foldl_bump (hfamily : family.Injective) {p : Counter → Bool}
    (hp : ∀ c, p c ↔ c ∈ Set.range family) (moves : List Counter) (cs : Counters) :
    (moves.foldl bump cs).total family = cs.total family + moves.countP p := by
  classical
  induction moves generalizing cs with
  | nil => rfl
  | cons c moves ih =>
    rw [List.foldl_cons, ih, total_bump hfamily, List.countP_cons, Nat.add_assoc,
      Nat.add_comm (List.countP p moves)]
    simp only [hp]

end ChatBot.Counters
