import Mathlib
import ChatBot.Table

/-!
# What ordered maps and tables hold

Bindings and look-ups say the same of a map, so a map is known by its look-ups, and a first part of
a map is the part below a bound. A table is known by its look-ups too, as its rows are and as it has
no empty ones.
-/

namespace ChatBot

/-- What holds at first and goes on to hold with each element holds after all of them. -/
theorem foldl_induction {f : β → α → β} {b : β} {l : List α} {I : List α → β → Prop} (h : I [] b)
    (hstep : ∀ done x rest b, l = done ++ x :: rest → I done b → I (done ++ [x]) (f b x)) :
    I l (l.foldl f b) := by
  suffices H : ∀ rest done b, done ++ rest = l → I done b → I l (rest.foldl f b) from
    H l [] b rfl h
  intro rest
  induction rest with
  | nil =>
    rintro done b rfl hb
    rwa [List.append_nil]
  | cons x rest ih =>
    intro done b hl hb
    refine ih (done ++ [x]) (f b x) ?_ (hstep done x rest b hl.symm hb)
    rw [List.append_assoc]
    exact hl

namespace OrderedMap

open Std

variable {κ α : Type} [Ord κ] {m : OrderedMap κ α} {k k' : κ} {a : α}

/-! ## Keys -/

theorem keys_ascending (m : OrderedMap κ α) :
    m.keys.Pairwise fun k k' => compare k k' = .lt :=
  List.pairwise_map.2 m.ascending

theorem keys_nodup [TransOrd κ] (m : OrderedMap κ α) : m.keys.Nodup := by
  refine m.keys_ascending.imp fun h => ?_
  rintro rfl
  rw [ReflOrd.compare_self] at h
  contradiction

theorem eq_of_mem_bindings [TransOrd κ] {b b' : κ × α} (hb : b ∈ m.bindings)
    (hb' : b' ∈ m.bindings) (h : b.1 = b'.1) : b = b' :=
  List.inj_on_of_nodup_map m.keys_nodup hb hb' h

/-! ## Look-ups -/

/-- A look-up gives the binding of its key. -/
theorem get?_eq_some_iff [TransOrd κ] [LawfulEqOrd κ] :
    m.get? k = some a ↔ (k, a) ∈ m.bindings := by
  rw [get?, Option.map_eq_some_iff]
  constructor
  · rintro ⟨⟨k', a'⟩, hfind, rfl⟩
    have hk := List.find?_some hfind
    rw [isEq_compare_iff] at hk
    obtain rfl : k' = k := hk
    exact List.mem_of_find?_eq_some hfind
  · intro h
    have hsome : (m.bindings.find? fun b => (compare b.1 k).isEq).isSome :=
      List.find?_isSome.2 ⟨_, h, isEq_compare_iff.2 rfl⟩
    obtain ⟨b, hfind⟩ := Option.isSome_iff_exists.1 hsome
    have hk := List.find?_some hfind
    rw [isEq_compare_iff] at hk
    exact ⟨b, hfind, by rw [eq_of_mem_bindings (List.mem_of_find?_eq_some hfind) h hk]⟩

variable [TransOrd κ] [LawfulEqOrd κ]

theorem mem_keys_iff : k ∈ m.keys ↔ ∃ a, m.get? k = some a := by
  simp only [get?_eq_some_iff, keys, List.mem_map]
  constructor
  · rintro ⟨⟨k, a⟩, h, rfl⟩
    exact ⟨a, h⟩
  · rintro ⟨a, h⟩
    exact ⟨_, h, rfl⟩

theorem mem_values_iff : a ∈ m.values ↔ ∃ k, m.get? k = some a := by
  simp only [get?_eq_some_iff, values, List.mem_map]
  constructor
  · rintro ⟨⟨k, a⟩, h, rfl⟩
    exact ⟨k, h⟩
  · rintro ⟨k, h⟩
    exact ⟨_, h, rfl⟩

omit [TransOrd κ] in
theorem get?_foldl_erase [DecidableEq κ] (ks : List κ) (m : OrderedMap κ α) (k : κ) :
    (ks.foldl erase m).get? k = if k ∈ ks then none else m.get? k := by
  induction ks generalizing m with
  | nil => simp
  | cons k' ks ih =>
    rw [List.foldl_cons, ih, get?_erase]
    simp only [isEq_compare_iff, List.mem_cons]
    by_cases hk : k = k'
    · simp [hk]
    · simp [hk, Ne.symm hk]

/-! ## Equality -/

/-- A map is known by its look-ups. -/
theorem ext_get? {n : OrderedMap κ α} (h : ∀ k, m.get? k = n.get? k) : m = n := by
  have : Std.Irrefl fun a b : κ × α => compare a.1 b.1 = .lt := ⟨fun a hlt => by
    rw [ReflOrd.compare_self] at hlt
    contradiction⟩
  have : Std.Antisymm fun a b : κ × α => compare a.1 b.1 = .lt := ⟨fun a b hlt hgt => by
    rw [OrientedCmp.gt_of_lt hgt] at hlt
    contradiction⟩
  refine ext (m.ascending.eq_of_mem_iff n.ascending fun ⟨k, a⟩ => ?_)
  rw [← get?_eq_some_iff, ← get?_eq_some_iff, h]

/-- The map with some value at `k`, or without any. -/
def assign (m : OrderedMap κ α) (k : κ) : Option α → OrderedMap κ α
  | some a => m.insert k a
  | none => m.erase k

theorem get?_assign [DecidableEq κ] (m : OrderedMap κ α) (k k' : κ) (value : Option α) :
    (m.assign k value).get? k' = if k = k' then value else m.get? k' := by
  cases value with
  | none =>
    rw [assign, get?_erase]
    simp only [isEq_compare_iff]
  | some a =>
    rw [assign, get?_insert]
    simp only [isEq_compare_iff]

theorem assign_comm [DecidableEq κ] (m : OrderedMap κ α) (h : k ≠ k') (value value' : Option α) :
    (m.assign k value).assign k' value' = (m.assign k' value').assign k value := by
  refine ext_get? fun other => ?_
  simp only [get?_assign]
  by_cases hk : k = other
  · rw [if_pos hk, if_pos hk, if_neg fun hk' => h (hk.trans hk'.symm)]
  · rw [if_neg hk, if_neg hk]

/-- All bindings of a map, one after the other, make up the map. -/
theorem foldl_insert_bindings (m : OrderedMap κ α) :
    m.bindings.foldl (fun n b => n.insert b.1 b.2) empty = m := by
  refine ext_get? fun k => Option.ext fun a => ?_
  rw [m.get?_eq_some_iff]
  have h := foldl_induction (f := fun (n : OrderedMap κ α) (b : κ × α) => n.insert b.1 b.2)
    (b := empty) (l := m.bindings) (I := fun done n => ∀ k a, n.get? k = some a ↔ (k, a) ∈ done)
    (fun _ _ => ⟨nofun, nofun⟩) ?_
  · exact h k a
  · rintro done ⟨k, a⟩ rest n hl hn k' a'
    rw [get?_insert, List.mem_append, List.mem_singleton, ← hn, Prod.mk.injEq]
    split
    next hk =>
      rw [isEq_compare_iff] at hk
      subst hk
      rw [Option.some.injEq, eq_comm, and_iff_right rfl, hn, iff_or_self]
      intro hmem
      have hold : (k, a') ∈ m.bindings := hl ▸ List.mem_append_left _ hmem
      have hnew : (k, a) ∈ m.bindings := hl ▸ by simp
      exact (Prod.mk.inj (eq_of_mem_bindings hold hnew rfl)).2
    next hk =>
      rw [isEq_compare_iff] at hk
      rw [or_iff_left]
      exact fun h => hk h.1.symm

/-! ## Records -/

variable {ρ : Type}

/-- Of the records that are put into a map, the last one of a key counts. -/
theorem get?_foldl_insert [DecidableEq κ] (key : ρ → κ) (value : ρ → α) (rs : List ρ)
    (m : OrderedMap κ α) (k : κ) :
    (rs.foldl (fun m r => m.insert (key r) (value r)) m).get? k =
      ((rs.reverse.find? (key · = k)).map value).or (m.get? k) := by
  induction rs generalizing m with
  | nil => rfl
  | cons r rs ih =>
    rw [List.foldl_cons, ih, get?_insert, List.reverse_cons, List.find?_append]
    simp only [isEq_compare_iff]
    cases rs.reverse.find? (key · = k) with
    | some last => rfl
    | none =>
      by_cases hr : key r = k
      · simp [hr]
      · simp [hr]

/-- Records that are put into a map once more change nothing. -/
theorem foldl_insert_foldl_insert [DecidableEq κ] (key : ρ → κ) (value : ρ → α) (rs : List ρ)
    (m : OrderedMap κ α) :
    rs.foldl (fun m r => m.insert (key r) (value r))
        (rs.foldl (fun m r => m.insert (key r) (value r)) m) =
      rs.foldl (fun m r => m.insert (key r) (value r)) m := by
  refine ext_get? fun k => ?_
  rw [get?_foldl_insert, get?_foldl_insert, ← Option.or_assoc, Option.or_self]

/-! ## Insertion of a new key -/

omit [TransOrd κ] [LawfulEqOrd κ] in
theorem exists_put_eq_append {bs : List (κ × α)} (h : ∀ b ∈ bs, compare k b.1 ≠ .eq) (a : α) :
    ∃ xs ys, bs = xs ++ ys ∧ put k a bs = xs ++ (k, a) :: ys := by
  induction bs with
  | nil => exact ⟨[], [], rfl, rfl⟩
  | cons b bs ih =>
    unfold put
    split
    next => exact ⟨[], b :: bs, rfl, rfl⟩
    next heq => exact absurd heq (h b List.mem_cons_self)
    next =>
      obtain ⟨xs, ys, hbs, hput⟩ := ih fun c hc => h c (List.mem_cons_of_mem b hc)
      exact ⟨b :: xs, ys, congrArg _ hbs, congrArg _ hput⟩

/-- A new key comes between the others, which stay in order. -/
theorem exists_values_insert (h : m.get? k = none) (a : α) :
    ∃ xs ys, m.values = xs ++ ys ∧ (m.insert k a).values = xs ++ a :: ys := by
  have hfree : ∀ b ∈ m.bindings, compare k b.1 ≠ .eq := by
    rintro b hb heq
    rw [LawfulEqOrd.compare_eq_iff_eq] at heq
    subst heq
    rw [get?_eq_some_iff.2 hb] at h
    contradiction
  obtain ⟨xs, ys, hbs, hput⟩ := exists_put_eq_append hfree a
  refine ⟨xs.map (·.2), ys.map (·.2), ?_, ?_⟩
  · rw [values, hbs, List.map_append]
  · show (put k a m.bindings).map (·.2) = _
    rw [hput, List.map_append, List.map_cons]

omit [TransOrd κ] [LawfulEqOrd κ] in
theorem put_eq_append {bs : List (κ × α)} (h : ∀ b ∈ bs, compare k b.1 = .gt) (a : α) :
    put k a bs = bs ++ [(k, a)] := by
  induction bs with
  | nil => rfl
  | cons b bs ih =>
    rw [List.forall_mem_cons] at h
    rw [put, h.1]
    exact congrArg (b :: ·) (ih h.2)

/-- A key above all others comes last. -/
theorem bindings_insert_of_forall_gt (h : ∀ k' ∈ m.keys, compare k k' = .gt) (a : α) :
    (m.insert k a).bindings = m.bindings ++ [(k, a)] := by
  apply put_eq_append
  intro b hb
  exact h b.1 (List.mem_map_of_mem hb)

/-! ## The part below a bound -/

variable {p : κ → Bool}

omit [TransOrd κ] [LawfulEqOrd κ] in
/-- The first bindings with a property that smaller keys inherit are all bindings with it. -/
theorem span_bindings (m : OrderedMap κ α) (hp : ∀ k k', compare k k' = .lt → p k' → p k) :
    m.bindings.takeWhile (fun b => p b.1) = m.bindings.filter (fun b => p b.1) ∧
      m.bindings.dropWhile (fun b => p b.1) = m.bindings.filter (fun b => !p b.1) := by
  have h := m.ascending
  generalize m.bindings = bs at h
  induction bs with
  | nil => exact ⟨rfl, rfl⟩
  | cons b bs ih =>
    rw [List.pairwise_cons] at h
    by_cases hb : p b.1
    · simpa [hb] using ih h.2
    · have hbs : ∀ c ∈ bs, p c.1 = false := fun c hc =>
        Bool.eq_false_iff.2 fun hpc => hb (hp _ _ (h.1 c hc) hpc)
      have hfilter : bs.filter (fun c => !p c.1) = bs :=
        List.filter_eq_self.2 fun c hc => by rw [hbs c hc]; rfl
      simp only [List.takeWhile_cons, List.dropWhile_cons, List.filter_cons, hb, hfilter]
      simpa using hbs

theorem get?_dropWhile (m : OrderedMap κ α) (hp : ∀ k k', compare k k' = .lt → p k' → p k)
    (k : κ) : (m.dropWhile p).get? k = if p k then none else m.get? k := by
  ext a
  have hmem : (k, a) ∈ (m.dropWhile p).bindings ↔ (k, a) ∈ m.bindings ∧ !p k := by
    rw [← List.mem_filter (p := fun b : κ × α => !p b.1), ← (span_bindings m hp).2]
    rfl
  rw [get?_eq_some_iff, hmem, ← get?_eq_some_iff]
  by_cases hk : p k <;> simp [hk]

end OrderedMap

/-! ## Tables -/

namespace Table

open Std

variable {κ α : Type} [Ord κ] [TransOrd κ] [LawfulEqOrd κ] {t u : Table κ α} {k : κ} {a : α}

/-- The rows of a table are those that are not empty. -/
theorem get?_rows (t : Table κ α) (k : κ) :
    t.rows.get? k = if (t.row k).isEmpty then none else some (t.row k) := by
  cases h : t.rows.get? k with
  | none =>
    have hrow : t.row k = .empty := by rw [row, h, Option.getD_none]
    rw [hrow]
    rfl
  | some r =>
    have hrow : t.row k = r := by rw [row, h, Option.getD_some]
    have hfilled := t.filled _ (OrderedMap.get?_eq_some_iff.1 h)
    rw [hrow, hfilled]
    rfl

/-- A table is known by its look-ups. -/
theorem ext_get? (h : ∀ k name, t.get? k name = u.get? k name) : t = u := by
  have hrow : ∀ k, t.row k = u.row k := fun k =>
    OrderedMap.ext_get? fun name => by rw [get?_row, get?_row, h]
  exact ext (OrderedMap.ext_get? fun k => by rw [get?_rows, get?_rows, hrow])

omit [TransOrd κ] [LawfulEqOrd κ] in
/-- The values of a row are those that are found under its key. -/
theorem mem_values_row_iff : a ∈ (t.row k).values ↔ ∃ name, t.get? k name = some a := by
  rw [OrderedMap.mem_values_iff]
  simp only [get?_row]

end Table

end ChatBot
