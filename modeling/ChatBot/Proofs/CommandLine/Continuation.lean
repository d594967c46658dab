import ChatBot.Proofs.CommandLine.Reading

/-!
# Commands with further arguments

A command that is written in front of more text, after a blank, is the same command with further
arguments, and these depend on the further text alone.
-/

namespace ChatBot.CommandLine

open Text Token

/-- Arguments are what the reader finds. -/
theorem arguments_iff_wordsOf (hs : Ends s) :
    Arguments s vs ↔ ∃ ws, Word.wordsOf none false s = some ws ∧ ws.map Word.value = vs := by
  constructor
  · intro h
    obtain ⟨ws, hws, hread⟩ := Word.wordsOf_arguments h (x := []) nofun
    have := hread none
    rw [List.append_nil] at this
    exact ⟨ws, by simpa using this, hws⟩
  · rintro ⟨ws, hread, rfl⟩
    exact Word.arguments_of_wordsOf hs hread

/-- What arguments are followed by has no influence on them. -/
theorem Arguments.append_iff (h : Arguments s vs) (hx : Ends x) :
    Arguments (s ++ x) us ↔ ∃ ws, Arguments x ws ∧ us = vs ++ ws := by
  constructor
  · intro hsx
    obtain ⟨ws, rfl, hread⟩ := Word.wordsOf_arguments h hx
    obtain ⟨more, hmore, rfl⟩ := (arguments_iff_wordsOf hsx.ends).1 hsx
    rw [hread, Option.toList_none] at hmore
    obtain ⟨rest, hrest, rfl⟩ := Option.map_eq_some_iff.1 hmore
    refine ⟨rest.map Word.value, (arguments_iff_wordsOf hx).2 ⟨rest, hrest, rfl⟩, ?_⟩
    simp
  · rintro ⟨ws, hws, rfl⟩
    exact h.append hws

/-- A name ends where the plain characters end. -/
theorem name_unique {n m s t : List Char} (hn : ∀ c ∈ n, isPlain c) (hm : ∀ c ∈ m, isPlain c)
    (hs : Ends s) (ht : Ends t) (h : n ++ s = m ++ t) : n = m ∧ s = t := by
  have hends : ∀ {c : Char} {x : List Char}, Ends (c :: x) → isPlain c → False := by
    intro c x hx hc
    have hb := (isPlain_iff.1 hc).1
    rw [hx c rfl] at hb
    contradiction
  induction n generalizing m with
  | nil =>
    cases m with
    | nil => exact ⟨rfl, h⟩
    | cons c m =>
      rw [List.nil_append, List.cons_append] at h
      exact (hends (h ▸ hs) (hm c List.mem_cons_self)).elim
  | cons c n ih =>
    cases m with
    | nil =>
      rw [List.nil_append, List.cons_append] at h
      exact (hends (h ▸ ht) (hn c List.mem_cons_self)).elim
    | cons d m =>
      obtain ⟨rfl, htail⟩ := List.cons.inj h
      obtain ⟨rfl, hst⟩ := ih (List.forall_mem_cons.1 hn).2 (List.forall_mem_cons.1 hm).2 htail
      exact ⟨rfl, hst⟩

/-- A command in front of more text is that command with more arguments. -/
theorem Written.append_iff {s rest : List Char} {line found : CommandLine} (h : Written s line)
    (hx : Ends rest) : Written (s ++ rest) found ↔
      ∃ more, Arguments rest (more.map String.toList) ∧ found = ⟨line.name, line.args ++ more⟩ := by
  obtain ⟨name, t, rfl, hne, hname, hline, hargs⟩ := h
  rw [List.append_assoc]
  constructor
  · rintro ⟨name', t', hs, hne', hname', hfound, hargs'⟩
    have hends : Ends (t ++ rest) := hargs.ends.append hx
    obtain ⟨rfl, rfl⟩ := name_unique (fun c hc => (hname c hc).1) (fun c hc => (hname' c hc).1)
      hends hargs'.ends hs
    obtain ⟨ws, hws, happ⟩ := (hargs.append_iff hx).1 hargs'
    obtain ⟨more, rfl⟩ : ∃ more : List String, more.map String.toList = ws :=
      ⟨ws.map String.ofList, by simp [Function.comp_def]⟩
    refine ⟨more, hws, ?_⟩
    obtain ⟨lineName, args⟩ := found
    rw [← List.map_append] at happ
    rw [mk.injEq]
    have hargs := List.map_injective_iff.2 (fun _ _ => String.toList_injective) happ
    exact ⟨hfound.trans hline.symm, hargs⟩
  · rintro ⟨more, hmore, rfl⟩
    refine ⟨name, t ++ rest, rfl, hne, hname, hline, ?_⟩
    rw [List.map_append]
    exact hargs.append hmore

/-- A message that goes on after a command is read as that command with more arguments. -/
theorem read_append_iff {delimiter body : String} {line found : CommandLine} (rest : String)
    (hd : Delimiter.fault? delimiter = none) (hnd : ¬delimiter.toList <+: body.toList)
    (h : Written body.toList line) :
    read delimiter (delimiter ++ body ++ " " ++ rest) = .ok (some found) ↔
      ∃ more, Arguments (' ' :: rest.toList) (more.map String.toList) ∧
        found = ⟨line.name, line.args ++ more⟩ := by
  have hends : Ends (' ' :: rest.toList) := fun c hc => by
    cases hc
    rfl
  have hm : (delimiter ++ body ++ " " ++ rest).toList =
      delimiter.toList ++ (body.toList ++ ' ' :: rest.toList) := by simp
  rw [read_append_eq_some_iff (Delimiter.ne_empty_of_fault? hd) hm,
    and_iff_right (Delimiter.not_prefix_append hd hnd hends), h.append_iff hends]

end ChatBot.CommandLine
