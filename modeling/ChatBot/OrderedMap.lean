/-!
# Finite maps in ascending key order

A map is the list of its bindings, strictly ascending by key, so equal maps are equal lists.
-/

namespace ChatBot

open Std

/-- A finite map, as its bindings in strictly ascending key order. -/
structure OrderedMap (κ : Type) (α : Type) [Ord κ] where
  bindings : List (κ × α)
  ascending : bindings.Pairwise (fun a b => compare a.1 b.1 = .lt)

namespace OrderedMap

variable {κ α : Type} [Ord κ]

theorem ext {m n : OrderedMap κ α} (h : m.bindings = n.bindings) : m = n := by
  cases m; cases n; cases h; rfl

def empty : OrderedMap κ α := ⟨[], .nil⟩

instance : EmptyCollection (OrderedMap κ α) := ⟨empty⟩

instance : Inhabited (OrderedMap κ α) := ⟨empty⟩

/-! ## Bindings in ascending order -/

/-- Puts `a` at `k`, replacing what was there. -/
def put (k : κ) (a : α) : List (κ × α) → List (κ × α)
  | [] => [(k, a)]
  | b :: bs =>
    match compare k b.1 with
    | .lt => (k, a) :: b :: bs
    | .eq => (k, a) :: bs
    | .gt => b :: put k a bs

theorem mem_put {k : κ} {a : α} {b : κ × α} :
    ∀ {bs : List (κ × α)}, b ∈ put k a bs → b = (k, a) ∨ b ∈ bs
  | [], h => .inl (by simpa [put] using h)
  | c :: bs, h => by
    unfold put at h
    split at h
    · simpa using h
    · rcases List.mem_cons.1 h with h | h
      · exact .inl h
      · exact .inr (.tail _ h)
    · rcases List.mem_cons.1 h with rfl | h
      · exact .inr (.head _)
      · exact (mem_put h).imp id (.tail _)

theorem ascending_put [TransOrd κ] [LawfulEqOrd κ] {k : κ} {a : α} :
    ∀ {bs : List (κ × α)}, bs.Pairwise (fun a b => compare a.1 b.1 = .lt) →
      (put k a bs).Pairwise (fun a b => compare a.1 b.1 = .lt)
  | [], _ => by simp [put]
  | c :: bs, h => by
    have hc := List.pairwise_cons.1 h
    unfold put
    split <;> rename_i hk
    · refine List.pairwise_cons.2 ⟨fun b hb => ?_, h⟩
      rcases List.mem_cons.1 hb with rfl | hb
      · exact hk
      · exact TransCmp.lt_trans hk (hc.1 b hb)
    · cases LawfulEqOrd.eq_of_compare hk
      exact List.pairwise_cons.2 ⟨hc.1, hc.2⟩
    · refine List.pairwise_cons.2 ⟨fun b hb => ?_, ascending_put hc.2⟩
      rcases mem_put hb with rfl | hb
      · exact OrientedCmp.lt_of_gt hk
      · exact hc.1 b hb

/-! ## Operations -/

/-- The value at `k`. -/
def get? (m : OrderedMap κ α) (k : κ) : Option α :=
  (m.bindings.find? fun b => (compare b.1 k).isEq).map (·.2)

def contains (m : OrderedMap κ α) (k : κ) : Bool := (m.get? k).isSome

/-- The map with `a` at `k`, whatever was there before. -/
def insert [TransOrd κ] [LawfulEqOrd κ] (m : OrderedMap κ α) (k : κ) (a : α) : OrderedMap κ α :=
  ⟨put k a m.bindings, ascending_put m.ascending⟩

/-- The map without a binding for `k`. -/
def erase (m : OrderedMap κ α) (k : κ) : OrderedMap κ α :=
  ⟨m.bindings.filter fun b => !(compare b.1 k).isEq, m.ascending.filter _⟩

/-- The map without its first bindings, as far as their keys satisfy `p`. -/
def dropWhile (m : OrderedMap κ α) (p : κ → Bool) : OrderedMap κ α :=
  ⟨m.bindings.dropWhile fun b => p b.1, m.ascending.sublist (List.dropWhile_sublist _)⟩

/-! ## What a map holds -/

theorem find?_put [TransOrd κ] [LawfulEqOrd κ] {k k' : κ} {a : α} {bs : List (κ × α)} :
    (put k a bs).find? (fun b => (compare b.1 k').isEq) =
      if (compare k k').isEq then some (k, a) else bs.find? fun b => (compare b.1 k').isEq := by
  induction bs with
  | nil => by_cases h : (compare k k').isEq <;> simp [put, h]
  | cons b bs ih =>
    unfold put
    split <;> rename_i hk
    · by_cases h : (compare k k').isEq <;> simp [h]
    · cases LawfulEqOrd.eq_of_compare hk
      by_cases h : (compare b.1 k').isEq <;> simp [h]
    · by_cases hb : (compare b.1 k').isEq
      · cases LawfulEqOrd.eq_of_compare (Ordering.isEq_iff_eq_eq.1 hb)
        simp [hk]
      · simp [hb, ih]

theorem get?_insert [TransOrd κ] [LawfulEqOrd κ] (m : OrderedMap κ α) (k k' : κ) (a : α) :
    (m.insert k a).get? k' = if (compare k k').isEq then some a else m.get? k' := by
  by_cases h : (compare k k').isEq <;> simp [get?, insert, find?_put, h]

theorem find?_filter_ne [LawfulEqOrd κ] {k k' : κ} {bs : List (κ × α)} :
    (bs.filter fun b => !(compare b.1 k).isEq).find? (fun b => (compare b.1 k').isEq) =
      if (compare k k').isEq then none else bs.find? fun b => (compare b.1 k').isEq := by
  induction bs with
  | nil => simp
  | cons b bs ih =>
    by_cases hb : (compare b.1 k).isEq
    · cases LawfulEqOrd.eq_of_compare (Ordering.isEq_iff_eq_eq.1 hb)
      by_cases h : (compare b.1 k').isEq <;> simp_all
    · by_cases h : (compare b.1 k').isEq
      · cases LawfulEqOrd.eq_of_compare (Ordering.isEq_iff_eq_eq.1 h)
        have hne : (compare k b.1).isEq = false := by
          rw [Bool.eq_false_iff]
          intro hk
          cases LawfulEqOrd.eq_of_compare (Ordering.isEq_iff_eq_eq.1 hk)
          exact hb h
        simp [hb, hne]
      · simp [hb, h, ih]

theorem get?_erase [LawfulEqOrd κ] (m : OrderedMap κ α) (k k' : κ) :
    (m.erase k).get? k' = if (compare k k').isEq then none else m.get? k' := by
  simp only [get?, erase, find?_filter_ne]
  by_cases h : (compare k k').isEq <;> simp [h]

theorem isEq_compare_iff [LawfulEqOrd κ] {k k' : κ} : (compare k k').isEq ↔ k = k' := by
  rw [Ordering.isEq_iff_eq_eq, LawfulEqOrd.compare_eq_iff_eq]

def keys (m : OrderedMap κ α) : List κ := m.bindings.map (·.1)

def values (m : OrderedMap κ α) : List α := m.bindings.map (·.2)

def size (m : OrderedMap κ α) : Nat := m.bindings.length

def isEmpty (m : OrderedMap κ α) : Bool := m.bindings.isEmpty

theorem eq_empty_of_isEmpty {m : OrderedMap κ α} (h : m.isEmpty) : m = empty :=
  ext (List.isEmpty_iff.1 h)

theorem isEmpty_insert [TransOrd κ] [LawfulEqOrd κ] (m : OrderedMap κ α) (k : κ) (a : α) :
    (m.insert k a).isEmpty = false := by
  show (put k a m.bindings).isEmpty = false
  cases m.bindings with
  | nil => rfl
  | cons b bs =>
    unfold put
    split
    · rfl
    · rfl
    · rfl

end OrderedMap

end ChatBot
