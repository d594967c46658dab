import ChatBot.Proofs.CommandLine.Reading

/-!
# Reading at byte offsets

A command can be read without copying its text around: words and open quotes are kept as the bytes
of the body where they start and end, and what an error quotes is sliced out of the body. Every
offset that is used lies between two characters and the slices are the texts that the words are
written as, so this reads the same (`readBytes_eq`).
-/

namespace ChatBot

open Text Token CommandLine
open String (utf8Len utf8Len_append)

variable {s body done before rest fragment : List Char} {start stop : Nat} {t : Token}
  {ts : List Token}

/-! ## Slices -/

/-- The text between two bytes, if both lie between characters. -/
def slice? (s : List Char) (start stop : Nat) : Option (List Char) :=
  let text := String.ofList s
  let first : String.Pos.Raw := ⟨start⟩
  let last : String.Pos.Raw := ⟨stop⟩
  if first ≤ last ∧ first.IsValid text ∧ last.IsValid text then
    some (first.extract text last).toList
  else none

theorem isValid_utf8Len (l r : List Char) :
    String.Pos.Raw.IsValid (String.ofList (l ++ r)) ⟨utf8Len l⟩ := by
  rw [String.Pos.Raw.isValid_ofList]
  exact ⟨l.length, by rw [List.take_left, String.utf8ByteSize_ofList]⟩

theorem slice?_append (l m r : List Char) :
    slice? (l ++ (m ++ r)) (utf8Len l) (utf8Len (l ++ m)) = some m := by
  have hstop := isValid_utf8Len (l ++ m) r
  have hextract := String.extract_of_valid l m r
  rw [← utf8Len_append] at hextract
  rw [List.append_assoc] at hstop hextract
  have hle : (⟨utf8Len l⟩ : String.Pos.Raw) ≤ ⟨utf8Len (l ++ m)⟩ := by
    rw [String.Pos.Raw.le_iff, utf8Len_append]
    exact Nat.le_add_right _ _
  rw [slice?, if_pos ⟨hle, isValid_utf8Len l (m ++ r), hstop⟩, hextract, String.toList_ofList]

/-- What an alternative has read is the slice from the start of the text to what is left of it. -/
theorem slice?_of_token? (h : token? s = some (t, rest)) :
    slice? s 0 (utf8Len s - utf8Len rest) = some t.raw := by
  cases s with
  | nil => contradiction
  | cons c s =>
    rw [token?_cons] at h
    cases h
    have happend := List.prefix_iff_eq_append.1 (raw_first_isPrefix c s)
    generalize (c :: s).drop (first c s).raw.length = rest at happend
    rw [← happend, utf8Len_append, Nat.add_sub_cancel]
    exact slice?_append [] (first c s).raw rest

/-! ## Groups -/

/-- A word, and the bytes of the body where it starts and ends. -/
structure Group where
  value : List Char
  start : Nat
  stop : Nat
  plain : Bool

namespace Group

/-- The group with one more token, which ends at a byte. -/
def push (g : Group) (t : Token) (stop : Nat) : Group :=
  match t.kind with
  | .quote => { g with stop, plain := false }
  | .text | .blank => { g with value := g.value ++ t.decoded, stop }
  | _ => { g with value := g.value ++ t.decoded, stop, plain := false }

inductive Stop
  /-- A blank stands where the first word should be. -/
  | missing
  /-- The quote at this byte is never closed. -/
  | unterminated (start : Nat)

/-- The groups of some tokens, of which the first one starts at the byte `position`. `quoted` is the
byte of the open quote, if one is open. -/
def gather (groups : List Group) (current : Option Group) (quoted : Option Nat) (position : Nat) :
    List Token → Except Stop (List Group)
  | [] =>
    match quoted with
    | some start => .error (.unterminated start)
    | none => .ok (groups ++ current.toList)
  | t :: ts =>
    let next := position + utf8Len t.raw
    if t.kind = .blank ∧ quoted = none then
      match current with
      | some g => gather (groups ++ [g]) none none next ts
      | none => if groups = [] then .error .missing else gather groups none none next ts
    else
      let quoted := if t.kind = .quote then Word.toggle quoted position else quoted
      gather groups (some ((current.getD ⟨[], position, position, true⟩).push t next)) quoted next ts

/-- A group stands for a word that ends where the text in front ends. -/
structure Ends (done : List Char) (g : Group) (w : Word) : Prop where
  value : g.value = w.value
  plain : g.plain = w.plain
  raw : ∃ before, done = before ++ w.raw ∧ g.start = utf8Len before
  stop : g.stop = utf8Len done

/-- A group stands for a word of a body. -/
structure Spans (body : List Char) (g : Group) (w : Word) : Prop where
  value : g.value = w.value
  plain : g.plain = w.plain
  slice : slice? body g.start g.stop = some w.raw

/-- A byte is where a last part of a body starts. -/
def Starts (body : List Char) (start : Nat) (fragment : List Char) : Prop :=
  ∃ before, body = before ++ fragment ∧ start = utf8Len before

/-- Groups follow words if both end with the same open quote, or if there is a group after those
that were there before for each word. -/
inductive Follows (body : List Char) (groups : List Group) :
    Except (List Char) (List Word) → Except Stop (List Group) → Prop
  | error {start : Nat} {fragment : List Char} : Starts body start fragment →
    Follows body groups (.error fragment) (.error (.unterminated start))
  | ok {words more} : List.Forall₂ (Spans body) more words →
    Follows body groups (.ok words) (.ok (groups ++ more))

theorem Ends.empty (done : List Char) :
    (⟨[], utf8Len done, utf8Len done, true⟩ : Group).Ends done .empty :=
  ⟨rfl, rfl, ⟨done, (List.append_nil done).symm, rfl⟩, rfl⟩

theorem Ends.push {g : Group} {w : Word} (h : g.Ends done w)
    (hquote : t.kind = .quote → t.decoded = []) :
    (g.push t (utf8Len done + utf8Len t.raw)).Ends (done ++ t.raw) (w.push t) := by
  obtain ⟨before, hdone, hstart⟩ := h.raw
  have hraw : done ++ t.raw = before ++ (w.push t).raw := by
    rw [hdone, List.append_assoc]
    rfl
  have hstop := (utf8Len_append done t.raw).symm
  unfold Group.push Word.push
  split
  next hk => exact ⟨by simp [h.value, hquote hk], by simp [hk], ⟨before, hraw, hstart⟩, hstop⟩
  next hk => exact ⟨by simp [h.value], by simp [h.plain, hk], ⟨before, hraw, hstart⟩, hstop⟩
  next hk => exact ⟨by simp [h.value], by simp [h.plain, hk], ⟨before, hraw, hstart⟩, hstop⟩
  next _ htext hblank =>
    have hplain : (t.kind == .text || t.kind == .blank) = false := by
      simpa using ⟨htext, hblank⟩
    exact ⟨by simp [h.value], by simp [hplain], ⟨before, hraw, hstart⟩, hstop⟩

theorem Ends.spans {g : Group} {w : Word} (h : g.Ends done w) (hbody : body = done ++ rest) :
    g.Spans body w := by
  obtain ⟨before, hdone, hstart⟩ := h.raw
  refine ⟨h.value, h.plain, ?_⟩
  rw [hbody, h.stop, hstart, hdone, List.append_assoc]
  exact slice?_append before w.raw rest

theorem Starts.slice (h : Starts body start fragment) :
    slice? body start (utf8Len body) = some fragment := by
  obtain ⟨before, rfl, rfl⟩ := h
  simpa using slice?_append before fragment []

theorem Follows.cons {groups : List Group} {g : Group} {w : Word} {words found}
    (h : Follows body (groups ++ [g]) words found) (hspans : g.Spans body w) :
    Follows body groups (words.map (w :: ·)) found := by
  cases h with
  | error hstart => exact .error hstart
  | ok hmore =>
    rw [List.append_assoc]
    exact .ok (.cons hspans hmore)

/-- Groups and words follow each other token by token. -/
theorem follows_gather {groups : List Group} {current : Option Group} {word : Option Word}
    {quoted : Option Nat} {opened : Option (List Char)} (hsound : ∀ t ∈ ts, t.Sound)
    (hbody : body = done ++ ts.flatMap (·.raw)) (hcurrent : Option.Rel (Ends done) current word)
    (hquoted : Option.Rel (Starts body) quoted opened)
    (hfirst : groups = [] → current = none → ∀ t ∈ ts.head?, t.kind ≠ .blank) :
    Follows body groups (Word.gather word opened ts)
      (gather groups current quoted (utf8Len done) ts) := by
  induction ts generalizing done groups current word quoted opened with
  | nil =>
    cases hquoted with
    | some hstart => exact .error hstart
    | none =>
      cases hcurrent with
      | none => exact .ok .nil
      | some hends => exact .ok (.cons (hends.spans hbody) .nil)
  | cons t ts ih =>
    rw [List.forall_mem_cons] at hsound
    have hbody' : body = (done ++ t.raw) ++ ts.flatMap (·.raw) := by
      rw [hbody, List.flatMap_cons, List.append_assoc]
    have hnone : quoted = none ↔ opened = none := by cases hquoted <;> simp
    rw [gather.eq_def]
    dsimp only
    rw [← utf8Len_append]
    by_cases hblank : t.kind = .blank ∧ opened = none
    · obtain ⟨hk, rfl⟩ := hblank
      rw [Word.gather_blank hk, if_pos ⟨hk, hnone.2 rfl⟩]
      cases hcurrent with
      | none =>
        have hne : groups ≠ [] := fun hnil => hfirst hnil rfl t rfl hk
        have hfollows : Follows body groups (Word.gather none none ts)
            (gather groups none none (utf8Len (done ++ t.raw)) ts) :=
          ih hsound.2 hbody' .none .none fun hnil => absurd hnil hne
        have hid : (fun ws : List Word => (none : Option Word).toList ++ ws) = id := rfl
        dsimp only
        rw [if_neg hne, hid, Except.map_id]
        exact hfollows
      | @some g w hends =>
        have hne : groups ++ [g] ≠ [] := by simp
        have hfollows : Follows body (groups ++ [g]) (Word.gather none none ts)
            (gather (groups ++ [g]) none none (utf8Len (done ++ t.raw)) ts) :=
          ih hsound.2 hbody' .none .none fun hnil => absurd hnil hne
        exact hfollows.cons (hends.spans hbody)
    · have hblank' : ¬(t.kind = .blank ∧ quoted = none) := by rwa [hnone]
      rw [Word.gather_of_not_blank hblank, if_neg hblank']
      have hcurrent' : (current.getD ⟨[], utf8Len done, utf8Len done, true⟩).Ends done
          (word.getD .empty) := by
        cases hcurrent with
        | none => exact .empty done
        | some hends => exact hends
      refine ih hsound.2 hbody' (.some ?_) ?_ fun _ => nofun
      · rw [utf8Len_append]
        exact hcurrent'.push hsound.1.decoded_of_quote
      · split
        next hk =>
          cases hquoted with
          | none => exact .some ⟨done, hbody, rfl⟩
          | some => exact .none
        next => exact hquoted

/-- A blank in front is noticed at once. -/
theorem gather_of_blank {position : Nat} (h : t.kind = .blank) :
    gather [] none none position (t :: ts) = .error .missing := by
  rw [gather, if_pos ⟨h, rfl⟩]
  rfl

end Group

/-! ## Reading -/

namespace CommandLine

/-- How reading at byte offsets can end without a command line. -/
inductive Failure
  /-- No token starts at this byte. -/
  | lex (position : Nat)
  /-- A slice between these bytes would cut a character. -/
  | slice (start stop : Nat)
  | fault (e : ParseError)

def sliced (body : List Char) (start stop : Nat) : Except Failure String :=
  match slice? body start stop with
  | some s => .ok (String.ofList s)
  | none => .error (.slice start stop)

/-- What the groups of a body are read as. -/
def ofGroups (message : String) (body : List Char) :
    Except Group.Stop (List Group) → Except Failure CommandLine
  | .error .missing => .error (.fault (.missingName message))
  | .error (.unterminated start) => do
    throw (.fault (.unterminatedQuote (← sliced body start (utf8Len body))))
  | .ok [] => .error (.fault (.missingName message))
  | .ok (head :: rest) =>
    if head.plain && head.value.all isAlphanumeric then
      .ok ⟨String.ofList (lowercaseAfter [] head.value), rest.map (String.ofList ·.value)⟩
    else do throw (.fault (.invalidName (← sliced body head.start head.stop)))

def ofBodyBytes (message : String) (body : List Char) : Except Failure CommandLine := do
  let ts ← (scan 0 body).mapError .lex
  if malformed ts ≠ [] then
    throw (.fault (.invalidEscapes message ((malformed ts).map String.ofList)))
  ofGroups message body (Group.gather [] none none 0 ts)

def readBytes (delimiter message : String) : Except Failure (Option CommandLine) :=
  match Delimiter.strip? delimiter.toList message.toList with
  | none => .ok none
  | some body => (ofBodyBytes message body).map some

theorem sliced_eq (h : slice? body start stop = some s) :
    sliced body start stop = .ok (String.ofList s) := by
  rw [sliced, h]

theorem map_value_eq {gs : List Group} {ws : List Word} (h : List.Forall₂ (Group.Spans body) gs ws) :
    gs.map (String.ofList ·.value) = ws.map (String.ofList ·.value) := by
  induction h with
  | nil => rfl
  | cons hspans _ ih => rw [List.map_cons, List.map_cons, ih, hspans.value]

theorem ofGroups_eq {words : Except (List Char) (List Word)}
    {found : Except Group.Stop (List Group)} (h : Group.Follows body [] words found)
    (message : String) :
    ofGroups message body found = (ofWords message words).mapError .fault := by
  cases h with
  | error hstart =>
    rw [ofGroups, sliced_eq hstart.slice]
    rfl
  | ok hmore =>
    rw [List.nil_append]
    cases hmore with
    | nil => rfl
    | @cons g w gs ws hspans hmore =>
      have hname : (g.plain && w.value.all isAlphanumeric) = isName w := by
        rw [hspans.plain]
        rfl
      rw [ofGroups, ofWords, hspans.value, hname, map_value_eq hmore, sliced_eq hspans.slice]
      cases isName w <;> rfl

theorem ofBodyBytes_eq (message : String) (body : List Char) :
    ofBodyBytes message body = (ofBody message body).mapError .fault := by
  have hraws : body = [] ++ (cut body).flatMap (·.raw) := (tiling_cut body).raws.symm
  rw [ofBody_eq, ofBodyBytes, scan_eq]
  show ite _ _ _ = _
  split
  next => rfl
  next =>
    split
    next hblank =>
      obtain ⟨t, ht, hk⟩ := Option.map_eq_some_iff.1 hblank
      obtain ⟨ts, hts⟩ := List.head?_eq_some_iff.1 ht
      rw [hts, Group.gather_of_blank hk]
      rfl
    next hblank =>
      have hfirst : ∀ t ∈ (cut body).head?, t.kind ≠ .blank := fun t ht hk =>
        hblank (Option.map_eq_some_iff.2 ⟨t, ht, hk⟩)
      exact ofGroups_eq (Group.follows_gather (tiling_cut body).sound hraws .none .none
        fun _ _ => hfirst) message

/-- **Reading at byte offsets is reading**: there is a token at every byte that is reached, and no
slice cuts a character. -/
theorem readBytes_eq (delimiter message : String) :
    readBytes delimiter message = (read delimiter message).mapError .fault := by
  unfold readBytes read
  cases Delimiter.strip? delimiter.toList message.toList with
  | none => rfl
  | some body =>
    dsimp only
    rw [ofBodyBytes_eq]
    cases ofBody message body <;> rfl

end CommandLine

end ChatBot
