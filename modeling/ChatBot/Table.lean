import ChatBot.OrderedMap

/-!
# Tables

A table has rows under keys, and a row has values under names. A row that loses its last value is
dropped, so tables that hold the same are equal.
-/

namespace ChatBot

open Std

/-- A map of rows, of which none is empty. -/
structure Table (κ α : Type) [Ord κ] where
  rows : OrderedMap κ (OrderedMap String α)
  filled : ∀ b ∈ rows.bindings, b.2.isEmpty = false

namespace Table

variable {κ α : Type} [Ord κ] [TransOrd κ] [LawfulEqOrd κ]

omit [TransOrd κ] [LawfulEqOrd κ] in
theorem ext {t u : Table κ α} (h : t.rows = u.rows) : t = u := by
  cases t; cases u; cases h; rfl

def empty : Table κ α := ⟨.empty, fun _ h => nomatch h⟩

instance : Inhabited (Table κ α) := ⟨empty⟩

/-- The row under a key; it is empty if the table has none. -/
def row (t : Table κ α) (k : κ) : OrderedMap String α := (t.rows.get? k).getD .empty

/-- The value under a key and a name. -/
def get? (t : Table κ α) (k : κ) (name : String) : Option α := (t.rows.get? k).bind (·.get? name)

def contains (t : Table κ α) (k : κ) (name : String) : Bool := (t.get? k name).isSome

/-- The table with `a` under a key and a name, whatever was there before. -/
def insert (t : Table κ α) (k : κ) (name : String) (a : α) : Table κ α :=
  ⟨t.rows.insert k ((t.row k).insert name a), fun b h => by
    rcases OrderedMap.mem_put h with rfl | h
    · exact OrderedMap.isEmpty_insert _ name a
    · exact t.filled b h⟩

/-- The table without a value under a key and a name. -/
def erase (t : Table κ α) (k : κ) (name : String) : Table κ α :=
  let left := (t.row k).erase name
  if h : left.isEmpty then
    ⟨t.rows.erase k, fun b hb => t.filled b (List.mem_filter.1 hb).1⟩
  else
    ⟨t.rows.insert k left, fun b hb => by
      rcases OrderedMap.mem_put hb with rfl | hb
      · exact Bool.eq_false_iff.2 h
      · exact t.filled b hb⟩

/-! ## What a table holds -/

variable {t : Table κ α} {k k' : κ} {name name' : String} {a : α}

omit [TransOrd κ] [LawfulEqOrd κ] in
theorem get?_row (t : Table κ α) (k : κ) (name : String) :
    (t.row k).get? name = t.get? k name := by
  unfold row get?
  cases t.rows.get? k with
  | none => rfl
  | some r => rfl

theorem row_insert [DecidableEq κ] (t : Table κ α) (k k' : κ) (name : String) (a : α) :
    (t.insert k name a).row k' = if k = k' then (t.row k').insert name a else t.row k' := by
  simp only [row, insert, OrderedMap.get?_insert, OrderedMap.isEq_compare_iff]
  split
  next h =>
    subst h
    rfl
  next => rfl

theorem get?_insert [DecidableEq κ] (t : Table κ α) (k k' : κ) (name name' : String) (a : α) :
    (t.insert k name a).get? k' name' =
      if k = k' ∧ name = name' then some a else t.get? k' name' := by
  rw [← get?_row, row_insert, ← get?_row]
  by_cases h : k = k'
  · simp only [h, if_true, true_and, OrderedMap.get?_insert, OrderedMap.isEq_compare_iff]
  · simp only [h, if_false, false_and]

theorem row_erase [DecidableEq κ] (t : Table κ α) (k k' : κ) (name : String) :
    (t.erase k name).row k' = if k = k' then (t.row k').erase name else t.row k' := by
  unfold erase
  dsimp only
  split
  next hleft =>
    simp only [row, OrderedMap.get?_erase, OrderedMap.isEq_compare_iff]
    split
    next h =>
      subst h
      exact (OrderedMap.eq_empty_of_isEmpty hleft).symm
    next => rfl
  next =>
    simp only [row, OrderedMap.get?_insert, OrderedMap.isEq_compare_iff]
    split
    next h =>
      subst h
      rfl
    next => rfl

theorem get?_erase [DecidableEq κ] (t : Table κ α) (k k' : κ) (name name' : String) :
    (t.erase k name).get? k' name' =
      if k = k' ∧ name = name' then none else t.get? k' name' := by
  rw [← get?_row, row_erase, ← get?_row]
  by_cases h : k = k'
  · simp only [h, if_true, true_and, OrderedMap.get?_erase, OrderedMap.isEq_compare_iff]
  · simp only [h, if_false, false_and]

end Table

end ChatBot
