import Mathlib
import ChatBot.Variables

/-!
# What replaces variables

The search for the longest name narrows candidates down character by character. It finds the longest
of all names at the front of a text (`Variables.longest?_eq_some_iff`). So a text with values in
place of variables is what one scan from left to right makes of it (`Variables.scan_iff`).
-/

namespace ChatBot.Variables

variable {α : Type}

/-! ## The longest name -/

/-- A variable whose name is at the front of a text, and there is no variable with a longer one. -/
structure Longest (vars : List (List Char × α)) (s name : List Char) (a : α) (after : List Char) :
    Prop where
  mem : (name, a) ∈ vars
  split : s = name ++ after
  longest : ∀ v ∈ vars, v.1 <+: s → v.1.length ≤ name.length

theorem mem_narrow_iff {c : Char} {candidates : List (List Char × α)} {name : List Char} {a : α} :
    (name, a) ∈ narrow c candidates ↔ (c :: name, a) ∈ candidates := by
  rw [narrow, List.mem_filterMap]
  constructor
  · rintro ⟨⟨d, a'⟩, hmem, h⟩
    cases d with
    | nil => contradiction
    | cons d name' =>
      dsimp only at h
      split at h
      next hdc =>
        cases h
        rwa [← hdc]
      next => contradiction
  · intro hmem
    exact ⟨_, hmem, if_pos rfl⟩

/-- Names of candidates that are at the front of a text start as it does. -/
theorem forall_prefix_cons {c : Char} {rest : List Char} {candidates : List (List Char × α)}
    {n : Nat} (h : ∀ v ∈ narrow c candidates, v.1 <+: rest → v.1.length ≤ n) :
    ∀ v ∈ candidates, v.1 <+: c :: rest → v.1.length ≤ n + 1 := by
  rintro ⟨name, a⟩ hmem hprefix
  cases name with
  | nil => exact Nat.zero_le _
  | cons d name =>
    obtain ⟨rfl, htail⟩ := List.cons_prefix_cons.1 hprefix
    exact Nat.succ_le_succ (h (name, a) (mem_narrow_iff.2 hmem) htail)

/-- Either a candidate is at the front of the text and the longest one is found, or none is and what
was found before counts. -/
theorem longestFrom_cases (candidates : List (List Char × α)) (best : Option (α × List Char))
    (s : List Char) :
    (∃ name a after, Longest candidates s name a after ∧ name ≠ [] ∧
      longestFrom candidates best s = some (a, after)) ∨
    (∀ v ∈ candidates, v.1 <+: s → v.1 = []) ∧ longestFrom candidates best s = best := by
  induction s generalizing candidates best with
  | nil => exact .inr ⟨fun v _ h => List.prefix_nil.1 h, rfl⟩
  | cons c rest ih =>
    rw [longestFrom]
    set left := narrow c candidates
    have hnone : (∀ v ∈ left, ¬v.1 <+: rest) →
        ∀ v ∈ candidates, v.1 <+: c :: rest → v.1 = [] := by
      rintro h ⟨name, a⟩ hmem hprefix
      cases name with
      | nil => rfl
      | cons d name =>
        obtain ⟨rfl, htail⟩ := List.cons_prefix_cons.1 hprefix
        exact absurd htail (h (name, a) (mem_narrow_iff.2 hmem))
    split
    next hnil =>
      right
      rw [hnil]
      refine ⟨hnone fun v hv => ?_, rfl⟩
      rw [hnil] at hv
      exact absurd hv List.not_mem_nil
    next =>
      rcases ih left _ with ⟨name, a, after, hlongest, -, hfound⟩ | ⟨hempty, hfound⟩
      · refine .inl ⟨c :: name, a, after, ?_, List.cons_ne_nil _ _, hfound⟩
        exact ⟨mem_narrow_iff.1 hlongest.mem, congrArg _ hlongest.split,
          forall_prefix_cons hlongest.longest⟩
      · rw [hfound]
        split
        next name a hfind =>
          -- A candidate ends here, and no longer one goes on.
          obtain rfl : name = [] := by simpa using List.find?_some hfind
          have hmem := List.mem_of_find?_eq_some hfind
          refine .inl ⟨[c], a, rest, ⟨mem_narrow_iff.1 hmem, rfl, ?_⟩, List.cons_ne_nil _ _, rfl⟩
          refine forall_prefix_cons fun v hv hprefix => ?_
          exact (congrArg List.length (hempty v hv hprefix)).le
        next hfind =>
          refine .inr ⟨hnone fun v hv hprefix => ?_, rfl⟩
          have hv' := List.find?_eq_none.1 hfind v hv
          exact hv' (decide_eq_true (hempty v hv hprefix))

variable {vars : List (List Char × α)} {s name after : List Char} {a : α}

/-- The longest name at the front of a text is known by the text. -/
theorem Longest.unique (hnodup : (vars.map (·.1)).Nodup) {name' after' : List Char} {a' : α}
    (h : Longest vars s name a after) (h' : Longest vars s name' a' after') :
    name = name' ∧ a = a' ∧ after = after' := by
  have hprefix : name <+: s := ⟨after, h.split.symm⟩
  have hprefix' : name' <+: s := ⟨after', h'.split.symm⟩
  have hlength : name.length = name'.length :=
    (h'.longest _ h.mem hprefix).antisymm (h.longest _ h'.mem hprefix')
  have hname : name = name' :=
    (List.prefix_of_prefix_length_le hprefix hprefix' hlength.le).eq_of_length hlength
  subst hname
  have hvar := List.inj_on_of_nodup_map hnodup h.mem h'.mem rfl
  exact ⟨rfl, (Prod.mk.inj hvar).2, List.append_cancel_left (h.split.symm.trans h'.split)⟩

theorem longest?_eq_none_iff (hne : ∀ v ∈ vars, v.1 ≠ []) :
    longest? vars s = none ↔ ∀ v ∈ vars, ¬v.1 <+: s := by
  rw [longest?]
  rcases longestFrom_cases vars none s with ⟨name, a, after, hlongest, -, hfound⟩ | ⟨hnone, hfound⟩
  · rw [hfound]
    refine iff_of_false nofun fun h => ?_
    exact h _ hlongest.mem ⟨after, hlongest.split.symm⟩
  · rw [hfound]
    exact iff_of_true rfl fun v hv hprefix => hne v hv (hnone v hv hprefix)

theorem longest?_eq_some_iff (hne : ∀ v ∈ vars, v.1 ≠ []) (hnodup : (vars.map (·.1)).Nodup) :
    longest? vars s = some (a, after) ↔ ∃ name, Longest vars s name a after := by
  rw [longest?]
  rcases longestFrom_cases vars none s with ⟨name, b, rest, hlongest, -, hfound⟩ | ⟨hnone, hfound⟩
  · rw [hfound, Option.some.injEq, Prod.mk.injEq]
    constructor
    · rintro ⟨rfl, rfl⟩
      exact ⟨name, hlongest⟩
    · rintro ⟨name', h⟩
      exact (hlongest.unique hnodup h).2
  · rw [hfound]
    refine iff_of_false nofun fun ⟨name, h⟩ => ?_
    exact hne _ h.mem (hnone _ h.mem ⟨after, h.split.symm⟩)

/-! ## The scan -/

/-- One scan of a text from left to right. It copies every character but the sign. At a sign the
longest name that follows counts: its value is written, and the scan goes on after the name. If no
name follows, or the longest one has no value, the sign is copied alone. -/
inductive Scan (vars : List (List Char × Option (List Char))) : List Char → List Char → Prop
  | nil : Scan vars [] []
  | copy {c : Char} {rest out : List Char} : c ≠ sign → Scan vars rest out →
    Scan vars (c :: rest) (c :: out)
  | value {rest name value after out : List Char} : Longest vars rest name (some value) after →
    Scan vars after out → Scan vars (sign :: rest) (value ++ out)
  | noValue {rest name after out : List Char} : Longest vars rest name none after →
    Scan vars rest out → Scan vars (sign :: rest) (sign :: out)
  | noName {rest out : List Char} : (∀ v ∈ vars, ¬v.1 <+: rest) → Scan vars rest out →
    Scan vars (sign :: rest) (sign :: out)

section

variable {vars vars' : List (List Char × Option (List Char))} {rest out value : List Char}

theorem substitute_cons_of_ne {c : Char} (h : c ≠ sign) :
    substitute vars (c :: rest) = c :: substitute vars rest := by
  rw [substitute, if_neg h]

/-- Characters before the first sign are copied. -/
theorem substitute_append_of_notMem {before : List Char} (h : sign ∉ before) (s : List Char) :
    substitute vars (before ++ s) = before ++ substitute vars s := by
  induction before with
  | nil => rfl
  | cons c before ih =>
    rw [List.mem_cons, not_or] at h
    rw [List.cons_append, substitute_cons_of_ne (Ne.symm h.1), ih h.2, List.cons_append]

theorem substitute_sign_of_value (h : longest? vars rest = some (some value, after)) :
    substitute vars (sign :: rest) = value ++ substitute vars after := by
  rw [substitute, if_pos rfl]
  split
  next hfound =>
    rw [h] at hfound
    cases hfound
    rfl
  next hnone => exact absurd h (hnone _ _)

theorem substitute_sign_of_none (h : ∀ value after, longest? vars rest ≠ some (some value, after)) :
    substitute vars (sign :: rest) = sign :: substitute vars rest := by
  rw [substitute, if_pos rfl]
  split
  next hfound => exact absurd hfound (h _ _)
  next => rfl

/-- A text with values in place of variables is what the scan makes of it, and nothing else is. -/
theorem scan_iff (hne : ∀ v ∈ vars, v.1 ≠ []) (hnodup : (vars.map (·.1)).Nodup) :
    Scan vars s out ↔ out = substitute vars s := by
  constructor
  · intro h
    induction h with
    | nil => rw [substitute]
    | copy hc _ ih => rw [substitute_cons_of_ne hc, ih]
    | value hlongest _ ih =>
      rw [substitute_sign_of_value ((longest?_eq_some_iff hne hnodup).2 ⟨_, hlongest⟩), ih]
    | noValue hlongest _ ih =>
      rw [substitute_sign_of_none fun value after => ?_, ih]
      rw [(longest?_eq_some_iff hne hnodup).2 ⟨_, hlongest⟩]
      simp
    | noName hnone _ ih =>
      rw [substitute_sign_of_none fun value after => ?_, ih]
      rw [(longest?_eq_none_iff hne).2 hnone]
      simp
  · rintro rfl
    induction s using substitute.induct vars with
    | case1 =>
      rw [substitute]
      exact .nil
    | case2 rest value after hfound ih =>
      obtain ⟨name, hlongest⟩ := (longest?_eq_some_iff hne hnodup).1 hfound
      rw [substitute_sign_of_value hfound]
      exact .value hlongest ih
    | case3 rest hnone ih =>
      rw [substitute_sign_of_none hnone]
      cases hfound : longest? vars rest with
      | none => exact .noName ((longest?_eq_none_iff hne).1 hfound) ih
      | some found =>
        obtain ⟨a, after⟩ := found
        obtain ⟨name, hlongest⟩ := (longest?_eq_some_iff hne hnodup).1 hfound
        cases a with
        | none => exact .noValue hlongest ih
        | some value => exact absurd hfound (hnone value after)
    | case4 c rest hc ih =>
      rw [substitute_cons_of_ne hc]
      exact .copy hc ih

/-- The order of the variables does not matter. -/
theorem substitute_perm (hne : ∀ v ∈ vars, v.1 ≠ []) (hnodup : (vars.map (·.1)).Nodup)
    (h : vars.Perm vars') (s : List Char) : substitute vars s = substitute vars' s := by
  have hne' : ∀ v ∈ vars', v.1 ≠ [] := fun v hv => hne v (h.mem_iff.2 hv)
  have hnodup' : (vars'.map (·.1)).Nodup := (h.map _).nodup_iff.1 hnodup
  refine (scan_iff hne' hnodup').1 ?_
  have hscan := (scan_iff hne hnodup (s := s)).2 rfl
  generalize substitute vars s = out at hscan
  have hlongest {s name after : List Char} {a : Option (List Char)}
      (hv : Longest vars s name a after) : Longest vars' s name a after :=
    ⟨h.mem_iff.1 hv.mem, hv.split, fun v hv' => hv.longest v (h.mem_iff.2 hv')⟩
  induction hscan with
  | nil => exact .nil
  | copy hc _ ih => exact .copy hc ih
  | value hv _ ih => exact .value (hlongest hv) ih
  | noValue hv _ ih => exact .noValue (hlongest hv) ih
  | noName hnone _ ih => exact .noName (fun v hv => hnone v (h.mem_iff.2 hv)) ih

end

end ChatBot.Variables
