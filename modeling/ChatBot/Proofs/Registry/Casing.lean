import ChatBot.Proofs.Registry.Vocabulary

/-!
# Aliases in any case

The case of a name makes no difference when an alias is looked up or removed. It makes none when one
is added either, unless the name has a letter in title case and no uppercase character: such a name
is not lowercased, and no look-up finds it (`Registry.addAlias?_in_any_case`).
-/

namespace ChatBot

namespace Text

/-! ## Letters in title case -/

/-- The letters in title case: the digraphs with a capital first part, and the Greek capitals with a
subscript iota. -/
def titlecaseSpans : List CodeSpan := solid
  [(0x1C5, 0x1C5), (0x1C8, 0x1C8), (0x1CB, 0x1CB), (0x1F2, 0x1F2), (0x1F88, 0x1F8F),
   (0x1F98, 0x1F9F), (0x1FA8, 0x1FAF), (0x1FBC, 0x1FBC), (0x1FCC, 0x1FCC), (0x1FFC, 0x1FFC)]

def isTitlecase (c : Char) : Bool := inSpans titlecaseSpans c

/-- The code points of a span in order. -/
def CodeSpan.codes (s : CodeSpan) : List Nat :=
  List.range' s.first ((s.last - s.first) / s.step + 1) s.step

theorem CodeSpan.mem_codes {s : CodeSpan} {code : Nat} (h : s.contains code) : code ∈ s.codes := by
  obtain ⟨hfirst, hlast, hstep⟩ := contains_iff.1 h
  refine List.mem_range'.2 ⟨(code - s.first) / s.step, ?_, ?_⟩
  · exact Nat.lt_succ_of_le (Nat.div_le_div_right (Nat.sub_le_sub_right hlast _))
  · rw [Nat.mul_div_cancel' (Nat.dvd_of_mod_eq_zero hstep)]
    omega

/-- Only spans that meet a shift are looked through for its code points. -/
theorem cased_of_shift : lowercaseShifts.all fun m =>
    let near := (titlecaseSpans ++ uppercaseSpans).filter fun s =>
      s.first ≤ m.span.last && m.span.first ≤ s.last
    m.span.codes.all fun code => near.any (·.contains code) := by
  decide +kernel

theorem shifted_of_titlecase : titlecaseSpans.all fun s =>
    s.codes.all fun code => ¬IsLowered (Char.ofNat code) := by
  decide +kernel

/-- A character with another lowercase form is uppercase or in title case. -/
theorem isTitlecase_or_isUppercase {c : Char} (h : inSpans (lowercaseShifts.map (·.span)) c) :
    isTitlecase c ∨ isUppercase c := by
  obtain ⟨s, hs, hc⟩ := List.any_eq_true.1 h
  obtain ⟨m, hm, rfl⟩ := List.mem_map.1 hs
  have hnear := List.all_eq_true.1 (List.all_eq_true.1 cased_of_shift m hm) _
    (CodeSpan.mem_codes hc)
  obtain ⟨t, ht, htc⟩ := List.any_eq_true.1 hnear
  rcases List.mem_append.1 (List.mem_filter.1 ht).1 with ht | ht
  · exact .inl (List.any_eq_true.2 ⟨t, ht, htc⟩)
  · exact .inr (List.any_eq_true.2 ⟨t, ht, htc⟩)

/-- Of the characters that are not uppercase, those in title case have another lowercase form. -/
theorem isLowered_iff {c : Char} (h : isUppercase c = false) :
    IsLowered c ↔ isTitlecase c = false := by
  constructor
  · intro hc
    rw [Bool.eq_false_iff]
    intro ht
    obtain ⟨s, hs, hcode⟩ := List.any_eq_true.1 ht
    have hno := List.all_eq_true.1 (List.all_eq_true.1 shifted_of_titlecase s hs) _
      (CodeSpan.mem_codes hcode)
    rw [Char.ofNat_toNat] at hno
    exact of_decide_eq_true hno hc
  · intro ht
    have hupper : ∀ {d : Char}, isUppercase d → c ≠ d := by
      rintro d hd rfl
      rw [h] at hd
      contradiction
    refine ⟨hupper (by decide), lowercaseChar_of_not_inSpans ?_ (hupper (by decide))⟩
    rw [Bool.eq_false_iff]
    intro hshift
    rcases isTitlecase_or_isUppercase hshift with hc | hc
    · rw [ht] at hc
      contradiction
    · rw [h] at hc
      contradiction

theorem lowercase_eq_self_iff {s : String} : lowercase s = s ↔ ∀ c ∈ s.toList, IsLowered c := by
  rw [← String.toList_inj, lowercase, String.toList_ofList]
  constructor
  · intro h c hc
    rw [← h] at hc
    exact isLowered_of_mem_lowercaseAfter hc
  · exact lowercaseAfter_of_isLowered

end Text

open Text

/-! ## Names that are lowercased -/

/-- Names that registration puts in lowercase, or that are there already. -/
def FoldsCase (name : String) : Prop :=
  name.toList.any isUppercase ∨ name.toList.any isTitlecase = false

instance (name : String) : Decidable (FoldsCase name) := by unfold FoldsCase; infer_instance

namespace Alias

variable {a : Alias}

/-- The alias under its name in lowercase. -/
def lowered (a : Alias) : Alias := { a with name := lowercase a.name }

theorem normalized_of_not_foldsCase (h : ¬FoldsCase a.name) : a.normalized = a := by
  rw [normalized, if_neg fun hupper => h (.inl hupper)]

/-- An alias gets its lowercase name exactly if the name folds its case. -/
theorem normalized_eq_lowered_iff : a.normalized = a.lowered ↔ FoldsCase a.name := by
  unfold normalized FoldsCase
  split
  next h => exact iff_of_true rfl (.inl h)
  next h =>
    rw [or_iff_right h]
    rw [Bool.not_eq_true, List.any_eq_false] at h
    have hname : a = a.lowered ↔ lowercase a.name = a.name :=
      ⟨fun heq => (congrArg name heq).symm, fun heq => by rw [lowered, heq]⟩
    rw [hname, lowercase_eq_self_iff, List.any_eq_false]
    refine forall₂_congr fun c hc => ?_
    rw [Bool.not_eq_true]
    exact isLowered_iff (Bool.eq_false_iff.2 (h c hc))

end Alias

namespace Registry

variable {r r' : Registry} {a a' : Alias}

theorem addAlias?_eq_some_iff : r.addAlias? a = some r' ↔
    r.aliasTable.get? a.normalized.scope a.normalized.name = none ∧
      r' = r.insertAlias a.normalized :=
  add?_alias_eq_some_iff

theorem addAlias?_eq_none_iff : r.addAlias? a = none ↔
    r.aliasTable.contains a.normalized.scope a.normalized.name := by
  change r.add? (.alias a.normalized) = none ↔ _
  rw [add?]
  split
  next h => exact iff_of_true rfl h
  next h => exact iff_of_false (Option.some_ne_none _) h

theorem addAlias?_eq_none_iff_of_not_foldsCase (h : ¬FoldsCase a.name) :
    r.addAlias? a = none ↔ r.aliasTable.contains a.scope a.name := by
  rw [addAlias?_eq_none_iff, Alias.normalized_of_not_foldsCase h]

/-! ## Aliases that stay -/

/-- A call that takes the alias of a scope under a name away. -/
def Call.Removes (c : Call) (scope : Scope) (name : String) : Prop :=
  ∃ m, c = .removeAlias scope m ∧ lowercase m = lowercase name

/-- An alias stays where it is until it is removed. -/
theorem get?_aliasTable_perform {scope : Scope} {name : String} {c : Call}
    (h : r.aliasTable.get? scope (lowercase name) = some a) (hc : ¬c.Removes scope name) :
    (r.perform c).2.aliasTable.get? scope (lowercase name) = some a := by
  cases c with
  | addCommand c =>
    rw [perform]
    split
    next r' hadd =>
      obtain ⟨-, rfl⟩ := add?_command_eq_some_iff.1 hadd
      exact h
    next => exact h
  | addAlias a' =>
    rw [perform]
    split
    next r' hadd =>
      obtain ⟨hfree, rfl⟩ := addAlias?_eq_some_iff.1 hadd
      rw [insertAlias, Table.get?_insert, if_neg]
      · exact h
      · rintro ⟨hscope, hname⟩
        rw [hscope, hname, h] at hfree
        contradiction
    next => exact h
  | removeAlias scope' m =>
    rw [perform]
    split
    next found r' hremove =>
      obtain ⟨_, -, heq⟩ := Option.map_eq_some_iff.1 hremove
      obtain ⟨-, rfl⟩ := Prod.mk.inj heq
      rw [eraseAlias, Table.get?_erase, if_neg]
      · exact h
      · rintro ⟨rfl, hm⟩
        exact hc ⟨m, rfl, hm⟩
    next => exact h

theorem get?_aliasTable_foldl_perform {scope : Scope} {name : String} {calls : List Call}
    (h : r.aliasTable.get? scope (lowercase name) = some a)
    (hcalls : ∀ c ∈ calls, ¬c.Removes scope name) :
    (calls.foldl (fun r c => (r.perform c).2) r).aliasTable.get? scope (lowercase name) =
      some a := by
  induction calls generalizing r with
  | nil => exact h
  | cons c calls ih =>
    rw [List.forall_mem_cons] at hcalls
    exact ih (get?_aliasTable_perform h hcalls.1) hcalls.2

/-! ## Aliases that are known in any case -/

/-- An alias of the scope comes before all else that the name may stand for in the chat: the scope
is the chat itself, or it is the server and the chat has no alias of the name. -/
def Prevails (r : Registry) (scope : Scope) (name : String) (chat : Chat)
    (server : Option Server) : Prop :=
  scope = .chat chat ∨
    ∃ s, server = some s ∧ scope = .server s ∧ r.alias? (.chat chat) name = none

theorem resolve_of_prevails {scope : Scope} {name : String} {chat : Chat} {server : Option Server}
    (h : r.alias? scope name = some a) (hscope : r.Prevails scope name chat server) :
    r.resolve name chat server = .ok (.alias a) := by
  refine resolve_eq_ok_iff.2 ?_
  rcases hscope with rfl | ⟨s, rfl, rfl, hchat⟩
  · rw [find?, h]
    rfl
  · rw [find?, hchat, Option.bind_some, h]
    rfl

/-- From `r` to `r'`, an alias was added under its lowercase name, and it is found, run and taken
away again under its name in any case. -/
structure Knows (r r' : Registry) (a : Alias) : Prop where
  stored : r' = r.insertAlias a.lowered
  found : ∀ m, lowercase m = lowercase a.name → r'.alias? a.scope m = some a.lowered
  resolved : ∀ m chat server, lowercase m = lowercase a.name → r'.Prevails a.scope m chat server →
    r'.resolve m chat server = .ok (.alias a.lowered)
  removed : ∀ m, lowercase m = lowercase a.name →
    r'.removeAlias? a.scope m = some (a.lowered, r)

theorem knows_of_free (hfree : r.aliasTable.get? a.scope (lowercase a.name) = none) :
    r.Knows (r.insertAlias a.lowered) a := by
  have hfound : ∀ m, lowercase m = lowercase a.name →
      (r.insertAlias a.lowered).alias? a.scope m = some a.lowered := fun m hm => by
    rw [alias?, insertAlias, Table.get?_insert, if_pos ⟨rfl, hm.symm⟩]
  refine ⟨rfl, hfound, fun m chat server hm => resolve_of_prevails (hfound m hm), fun m hm => ?_⟩
  have hlower : lowercase a.lowered.name = a.lowered.name := lowercase_lowercase a.name
  obtain ⟨r', hadd, hremove⟩ := removeAlias?_of_addAlias? hlower hfree hm
  rw [addAlias?_of_lowercase hlower] at hadd
  obtain ⟨-, rfl⟩ := add?_alias_eq_some_iff.1 hadd
  exact hremove

/-- An alias that is added is known in any case exactly if its name folds its case. -/
theorem knows_iff (h : r.addAlias? a = some r') : r.Knows r' a ↔ FoldsCase a.name := by
  obtain ⟨hfree, rfl⟩ := addAlias?_eq_some_iff.1 h
  rw [← Alias.normalized_eq_lowered_iff]
  constructor
  · intro hknows
    have hget := congrArg (fun r : Registry =>
      r.aliasTable.get? a.normalized.scope a.normalized.name) hknows.stored
    simp only [insertAlias, Table.get?_insert, hfree] at hget
    rw [if_pos ⟨trivial, trivial⟩] at hget
    split at hget
    · exact Option.some.inj hget
    · contradiction
  · intro hname
    rw [hname] at hfree ⊢
    exact knows_of_free hfree

/-- An alias whose name does not fold its case is found under no name. -/
theorem alias?_of_not_foldsCase (h : r.addAlias? a = some r') (hname : ¬FoldsCase a.name)
    (scope : Scope) (m : String) : r'.alias? scope m = r.alias? scope m := by
  obtain ⟨-, rfl⟩ := addAlias?_eq_some_iff.1 h
  rw [Alias.normalized_of_not_foldsCase hname, alias?, insertAlias, Table.get?_insert, if_neg]
  · rfl
  · rintro ⟨-, hm⟩
    have hlower : a.lowered = a := by rw [Alias.lowered, hm, lowercase_lowercase, ← hm]
    refine hname (Alias.normalized_eq_lowered_iff.1 ?_)
    rw [hlower, Alias.normalized_of_not_foldsCase hname]

theorem resolve_of_not_foldsCase (h : r.addAlias? a = some r') (hname : ¬FoldsCase a.name)
    (m : String) (chat : Chat) (server : Option Server) :
    r'.resolve m chat server = r.resolve m chat server := by
  have halias := alias?_of_not_foldsCase h hname
  refine resolve_congr ?_
  obtain ⟨-, rfl⟩ := addAlias?_eq_some_iff.1 h
  simp only [find?, halias]
  rfl

/-- **The case of a name matters for letters in title case alone.** An alias that was added is
stored under its lowercase name, and found, run and removed under its name in any case, exactly if
the name has an uppercase character or no letter in title case. Until it is removed, no other alias
is added in its scope under the name in another case, if that one too has an uppercase character or
no letter in title case; under any other name one is refused only for an alias of that very name.
An alias that is not stored under its lowercase name changes nothing that is found or run. -/
theorem addAlias?_in_any_case (h : r.addAlias? a = some r') :
    (r.Knows r' a ↔ FoldsCase a.name) ∧
    (¬FoldsCase a.name → ∀ m, (∀ scope, r'.alias? scope m = r.alias? scope m) ∧
      ∀ chat server, r'.resolve m chat server = r.resolve m chat server) ∧
    (FoldsCase a.name → ∀ calls : List Call, (∀ c ∈ calls, ¬c.Removes a.scope a.name) →
      let later := calls.foldl (fun r c => (r.perform c).2) r'
      ∀ a', a'.scope = a.scope → lowercase a'.name = lowercase a.name →
        (later.addAlias? a' = none ↔
          FoldsCase a'.name ∨ later.aliasTable.contains a'.scope a'.name)) := by
  refine ⟨knows_iff h, fun hname m => ⟨fun scope => alias?_of_not_foldsCase h hname scope m,
    resolve_of_not_foldsCase h hname m⟩, fun hname calls hcalls => ?_⟩
  intro later a' hscope hsame
  have hnow : r'.aliasTable.get? a.scope (lowercase a.name) = some a.lowered :=
    ((knows_iff h).2 hname).found a.name rfl
  have hlater : later.aliasTable.get? a.scope (lowercase a.name) = some a.lowered :=
    get?_aliasTable_foldl_perform hnow hcalls
  by_cases hfolds : FoldsCase a'.name
  · refine iff_of_true (addAlias?_eq_none_iff.2 ?_) (.inl hfolds)
    rw [Alias.normalized_eq_lowered_iff.2 hfolds]
    have hget : later.aliasTable.get? a'.lowered.scope a'.lowered.name = some a.lowered := by
      rw [← hlater, ← hscope, ← hsame]
      rfl
    rw [Table.contains, hget]
    rfl
  · rw [or_iff_right hfolds, addAlias?_eq_none_iff_of_not_foldsCase hfolds]

/-- The last letter of a name is a final sigma in lowercase. -/
theorem addAlias?_in_any_case_sigma :
    let echo : Command := .named "echo" (.custom fun _ => .silent)
    let road : Alias := ⟨.chat default, "ΟΔΟΣ", echo, ["a"]⟩
    ∃ r', empty.addAlias? road = some r' ∧
      r'.alias? (.chat default) "Οδος" = some ⟨.chat default, "οδος", echo, ["a"]⟩ ∧
      (r'.perform (.addCommand echo)).2.addAlias? ⟨.chat default, "οδος", echo, []⟩ = none := by
  intro echo road
  have hfolds : FoldsCase "ΟΔΟΣ" := by decide +kernel
  have hname : lowercase "ΟΔΟΣ" = "οδος" ∧ lowercase "Οδος" = "οδος" := by decide +kernel
  have hlower : lowercase "οδος" = "οδος" := by
    rw [← hname.1]
    exact lowercase_lowercase _
  obtain ⟨r', h⟩ : ∃ r', empty.addAlias? road = some r' := ⟨_, addAlias?_eq_some_iff.2 ⟨rfl, rfl⟩⟩
  obtain ⟨hknows, -, hlater⟩ := addAlias?_in_any_case h
  have hfound := (hknows.2 hfolds).found "Οδος" (hname.2.trans hname.1.symm)
  rw [Alias.lowered, show road.name = "ΟΔΟΣ" from rfl, hname.1] at hfound
  refine ⟨r', h, hfound, ?_⟩
  have hcalls : ∀ c ∈ [Call.addCommand echo], ¬c.Removes road.scope road.name := by
    rw [List.forall_mem_singleton]
    rintro ⟨m, ⟨⟩, -⟩
  refine (hlater hfolds [.addCommand echo] hcalls ⟨.chat default, "οδος", echo, []⟩ rfl ?_).2
    (.inl (by decide +kernel))
  exact hlower.trans hname.1.symm

/-- An alias for a digraph in title case is never found, and another one is added under its
name. -/
theorem addAlias?_titlecase :
    let echo : Command := .named "echo" (.custom fun _ => .silent)
    let scope : Scope := .chat default
    lowercase "ǅ" = "ǆ" ∧
      ∃ r', empty.addAlias? ⟨scope, "ǅ", echo, []⟩ = some r' ∧ r'.alias? scope "ǅ" = none ∧
        r'.resolve "ǅ" default none = .error (.commandNotFound "ǆ") ∧
        r'.removeAlias? scope "ǅ" = none ∧ r'.addAlias? ⟨scope, "ǆ", echo, []⟩ ≠ none := by
  intro echo scope
  have hlower : lowercase "ǅ" = "ǆ" := by decide +kernel
  have hfolds : ¬FoldsCase "ǅ" := by decide +kernel
  obtain ⟨r', h⟩ : ∃ r', empty.addAlias? ⟨scope, "ǅ", echo, []⟩ = some r' :=
    ⟨_, addAlias?_eq_some_iff.2 ⟨rfl, rfl⟩⟩
  have hnone : r'.alias? scope "ǅ" = none := alias?_of_not_foldsCase h hfolds scope "ǅ"
  have hresolve := resolve_of_not_foldsCase h hfolds "ǅ" default none
  refine ⟨hlower, r', h, hnone, ?_, ?_, ?_⟩
  · rw [hresolve, resolve, show empty.find? "ǅ" default none = none from rfl, hlower]
  · rw [removeAlias?, hnone, Option.map_none]
  · have hsmall : lowercase "ǆ" = "ǆ" := by
      rw [← hlower]
      exact lowercase_lowercase _
    have hfree : r'.aliasTable.get? scope "ǆ" = none := by
      rw [← hlower]
      exact hnone
    have hlowered : r'.addAlias? ⟨scope, "ǆ", echo, []⟩ = r'.add? (.alias ⟨scope, "ǆ", echo, []⟩) :=
      addAlias?_of_lowercase hsmall
    have hadd : r'.add? (.alias ⟨scope, "ǆ", echo, []⟩) = some _ :=
      add?_alias_eq_some_iff.2 ⟨hfree, rfl⟩
    rw [hlowered, hadd]
    exact Option.some_ne_none _

end Registry

end ChatBot
