import ChatBot.Proofs.Bot.Operation

/-!
# Edits of different keys

A delimiter, a link, a timer and an alias each have a key under which they are stored. An edit reads
and writes what is under its own key alone, so two edits of different keys can be made in any order
(`Bot.edits_commute`).
-/

namespace ChatBot

open Text

/-- Where something is stored that can be edited. -/
inductive Key
  | delimiter (chat : Chat)
  /-- A link of two chats, which have no order. -/
  | link (chats : Sym2 Chat)
  | timer (name : String)
  | alias (scope : Scope) (name : String)
  deriving DecidableEq

/-- Changes to what is stored under a key. -/
inductive Edit
  | setDelimiter (chat : Chat) (delimiter : String)
  | link (x y : Chat)
  | unlink (x y : Chat)
  | startTimer (name : String) (now : Instant)
  | stopTimer (name : String) (now : Instant)
  | removeAlias (scope : Scope) (name : String)

/-- What the caller of an edit is told. -/
inductive Answer
  | checked (outcome : Except DelimiterError Unit)
  | told (made : Bool)
  | ran (elapsed : Option Elapsed)

/-- Whether the edit was made. -/
def Answer.isMade : Answer → Bool
  | .checked outcome => outcome.isOk
  | .told made => made
  | .ran elapsed => elapsed.isSome

namespace Edit

def key : Edit → Key
  | .setDelimiter chat _ => .delimiter chat
  | .link x y => .link s(x, y)
  | .unlink x y => .link s(x, y)
  | .startTimer name _ => .timer name
  | .stopTimer name _ => .timer name
  | .removeAlias scope name => .alias scope (lowercase name)

def change : Edit → Change
  | .setDelimiter chat delimiter => .setDelimiter chat delimiter
  | .link x y => .link x y
  | .unlink x y => .unlink x y
  | .startTimer name now => .startTimer name now
  | .stopTimer name now => .stopTimer name now
  | .removeAlias scope name => .removeAlias scope name

end Edit

/-- What comes to be stored under a key. -/
inductive Write
  | delimiter (chat : Chat) (value : Option String)
  | link (x y : Chat) (linked : Bool)
  | timer (name : String) (value : Option Instant)
  | noAlias (scope : Scope) (name : String)

def Write.key : Write → Key
  | .delimiter chat _ => .delimiter chat
  | .link x y _ => .link s(x, y)
  | .timer name _ => .timer name
  | .noAlias scope name => .alias scope name

/-- What an edit that is made writes. -/
def Edit.write (config : Config) : Edit → Write
  | .setDelimiter chat delimiter =>
    .delimiter chat (if delimiter = config.defaultDelimiter then none else some delimiter)
  | .link x y => .link x y true
  | .unlink x y => .link x y false
  | .startTimer name now => .timer name (some now)
  | .stopTimer name _ => .timer name none
  | .removeAlias scope name => .noAlias scope (lowercase name)

theorem Edit.key_write (c : Edit) (config : Config) : (c.write config).key = c.key := by
  cases c <;> rfl

/-- Two aliases can be removed in any order. -/
theorem Registry.eraseAlias_comm (r : Registry) {scope scope' : Scope} {name name' : String}
    (h : ¬(scope = scope' ∧ name = name')) :
    (r.eraseAlias scope name).eraseAlias scope' name' =
      (r.eraseAlias scope' name').eraseAlias scope name :=
  ext_index (OrderedMap.assign_comm r.index (mt EntryKey.ofAlias_eq_iff.1 h) none none)

/-- Of two saves the last one counts. -/
theorem Store.save_save (s : Store) (first first' last : Snapshot) :
    (s.save first).save last = (s.save first').save last := by
  obtain ⟨medium, writable, saves⟩ := s
  cases writable with
  | false => rfl
  | true => cases medium <;> rfl

namespace Bot

variable {b : Bot} {c c' : Edit} {w w' : Write}

/-- What an edit tells, and the bot after it. -/
def edit (b : Bot) : Edit → Answer × Bot
  | .setDelimiter chat delimiter =>
    match b.setDelimiter chat delimiter with
    | .ok b => (.checked (.ok ()), b)
    | .error e => (.checked (.error e), b)
  | .link x y =>
    let (made, b) := b.link x y
    (.told made, b)
  | .unlink x y =>
    let (made, b) := b.unlink x y
    (.told made, b)
  | .startTimer name now =>
    let (made, b) := b.startTimer name now
    (.told made, b)
  | .stopTimer name now =>
    let (elapsed, b) := b.stopTimer name now
    (.ran elapsed, b)
  | .removeAlias scope name =>
    let (made, b) := b.removeAlias scope name
    (.told made, b)

/-! ## What an edit reads and writes -/

/-- The answer to an edit, as it is read off the bot before. -/
def answer (b : Bot) : Edit → Answer
  | .setDelimiter _ delimiter =>
    match Delimiter.fault? delimiter with
    | none => .checked (.ok ())
    | some e => .checked (.error e)
  | .link x y => .told (x ≠ y && !b.links.isLinked x y)
  | .unlink x y => .told (b.links.isLinked x y)
  | .startTimer name _ => .told (!b.timers.contains name)
  | .stopTimer name now => .ran ((b.timers.get? name).map now.since)
  | .removeAlias scope name => .told (b.registry.alias? scope name).isSome

/-- The bot with something else under a key, which is not saved. -/
def write (b : Bot) : Write → Bot
  | .delimiter chat value => { b with delimiters := b.delimiters.assign chat value }
  | .link x y linked => { b with links := b.links.assign x y linked }
  | .timer name value => { b with timers := b.timers.assign name value }
  | .noAlias scope name => { b with registry := b.registry.eraseAlias scope name }

/-- An edit is made and saved if its answer says so. -/
theorem edit_eq (h : b.Sound) (c : Edit) : b.edit c =
    (b.answer c, if (b.answer c).isMade then (b.write (c.write b.config)).persist else b) := by
  cases c with
  | setDelimiter chat delimiter =>
    rw [edit, setDelimiter, answer, Edit.write, write]
    cases Delimiter.fault? delimiter with
    | some e => rfl
    | none =>
      dsimp only
      split
      · rfl
      · rfl
  | link x y =>
    rw [edit, link, answer, Edit.write, write]
    by_cases hxy : x = y
    · simp [hxy, Answer.isMade]
    · cases hlinked : b.links.isLinked x y with
      | true => simp [hxy, Answer.isMade, h.links.join_eq_self hlinked]
      | false => simp [hxy, Answer.isMade, Links.assign]
  | unlink x y =>
    rw [edit, unlink, answer, Edit.write, write]
    cases hlinked : b.links.isLinked x y with
    | true => rfl
    | false =>
      rw [h.links.part_eq_self (Bool.eq_false_iff.1 hlinked)]
      rfl
  | startTimer name now =>
    rw [edit, startTimer, answer, Edit.write, write]
    cases b.timers.contains name with
    | true => rfl
    | false => rfl
  | stopTimer name now =>
    rw [edit, stopTimer, answer, Edit.write, write]
    cases b.timers.get? name with
    | none => rfl
    | some started => rfl
  | removeAlias scope name =>
    rw [edit, removeAlias, answer, Edit.write, write, Registry.removeAlias?]
    cases b.registry.alias? scope name with
    | none => rfl
    | some a => rfl

/-- An edit does not see what is written under another key. -/
theorem answer_write (hkey : w.key ≠ c.key) : (b.write w).answer c = b.answer c := by
  cases w with
  | delimiter chat value => cases c <;> rfl
  | link x y linked =>
    have hlinks {x' y' : Chat} (hne : s(x, y) ≠ s(x', y')) :
        (b.links.assign x y linked).isLinked x' y' = b.links.isLinked x' y' := by
      rw [Bool.eq_iff_iff, Links.isLinked_assign, if_neg hne]
    cases c with
    | link x' y' =>
      rw [answer, write, hlinks fun heq => hkey (congrArg Key.link heq)]
      rfl
    | unlink x' y' =>
      rw [answer, write, hlinks fun heq => hkey (congrArg Key.link heq)]
      rfl
    | setDelimiter | startTimer | stopTimer | removeAlias => rfl
  | timer name value =>
    have htimers {name' : String} (hne : name ≠ name') :
        (b.timers.assign name value).get? name' = b.timers.get? name' := by
      rw [OrderedMap.get?_assign, if_neg hne]
    cases c with
    | startTimer name' now =>
      rw [answer, write, OrderedMap.contains, htimers fun heq => hkey (congrArg Key.timer heq)]
      rfl
    | stopTimer name' now =>
      rw [answer, write, htimers fun heq => hkey (congrArg Key.timer heq)]
      rfl
    | setDelimiter | link | unlink | removeAlias => rfl
  | noAlias scope name =>
    cases c with
    | removeAlias scope' name' =>
      have hne : ¬(scope = scope' ∧ name = lowercase name') := by
        rintro ⟨rfl, rfl⟩
        exact hkey rfl
      rw [answer, write, Registry.alias?, Registry.eraseAlias, Table.get?_erase, if_neg hne]
      rfl
    | setDelimiter | link | unlink | startTimer | stopTimer => rfl

/-- What is written under different keys can be written in any order. -/
theorem write_comm (h : b.Sound) (hkey : w.key ≠ w'.key) :
    (b.write w).write w' = (b.write w').write w := by
  cases w with
  | delimiter chat value =>
    cases w' with
    | delimiter chat' value' =>
      have hne : chat ≠ chat' := fun heq => hkey (congrArg Key.delimiter heq)
      simp only [write, OrderedMap.assign_comm b.delimiters hne]
    | link | timer | noAlias => rfl
  | link x y linked =>
    cases w' with
    | link x' y' linked' =>
      have hne : s(x, y) ≠ s(x', y') := fun heq => hkey (congrArg Key.link heq)
      simp only [write, h.links.filled.assign_comm hne]
    | delimiter | timer | noAlias => rfl
  | timer name value =>
    cases w' with
    | timer name' value' =>
      have hne : name ≠ name' := fun heq => hkey (congrArg Key.timer heq)
      simp only [write, OrderedMap.assign_comm b.timers hne]
    | delimiter | link | noAlias => rfl
  | noAlias scope name =>
    cases w' with
    | noAlias scope' name' =>
      have hne : ¬(scope = scope' ∧ name = name') := by
        rintro ⟨rfl, rfl⟩
        exact hkey rfl
      simp only [write, b.registry.eraseAlias_comm hne]
    | delimiter | link | timer => rfl

/-! ## Saving in between -/

theorem persist_write (b : Bot) (w : Write) :
    b.persist.write w = { b.write w with store := b.store.save b.snapshot } := by
  cases w <;> rfl

theorem answer_persist (b : Bot) (c : Edit) : b.persist.answer c = b.answer c := by
  cases c <;> rfl

theorem store_write (b : Bot) (w : Write) : (b.write w).store = b.store := by
  cases w <;> rfl

theorem config_write (b : Bot) (w : Write) : (b.write w).config = b.config := by
  cases w <;> rfl

theorem snd_edit (b : Bot) (c : Edit) : (b.edit c).2 = (b.attempt c.change).2 := by
  cases c with
  | setDelimiter chat delimiter =>
    rw [edit, Edit.change, attempt]
    cases b.setDelimiter chat delimiter with
    | error e => rfl
    | ok b' => rfl
  | link | unlink | startTimer | stopTimer | removeAlias => rfl

theorem Sound.edit (h : b.Sound) (c : Edit) : (b.edit c).2.Sound := by
  rw [snd_edit]
  exact h.attempt c.change

/-- Two writes that are saved one after the other are saved alike in either order. -/
theorem persist_write_comm (h : b.Sound) (hkey : w.key ≠ w'.key) :
    ((b.write w).persist.write w').persist = ((b.write w').persist.write w).persist := by
  have hsaved (w w' : Write) : ((b.write w).persist.write w').persist = { (b.write w).write w' with
      store := (b.store.save (b.write w).snapshot).save ((b.write w).write w').snapshot } := by
    rw [persist_write, store_write]
    rfl
  rw [hsaved, hsaved, write_comm h hkey, Store.save_save]

/-- After an edit of another key an edit has the same answer and writes the same. -/
theorem edit_edit (h : b.Sound) (hkey : c.key ≠ c'.key) :
    (b.edit c).2.edit c' = (b.answer c', if (b.answer c').isMade
      then ((b.edit c).2.write (c'.write b.config)).persist else (b.edit c).2) := by
  have hafter : (b.edit c).2.answer c' = b.answer c' ∧ (b.edit c).2.config = b.config := by
    rw [edit_eq h]
    dsimp only
    split
    · rw [answer_persist]
      refine ⟨answer_write ?_, b.config_write _⟩
      rwa [Edit.key_write]
    · exact ⟨rfl, rfl⟩
  rw [edit_eq (h.edit c), hafter.1, hafter.2]

/-- **Edits of different keys commute.** Delimiters of different chats, links of different pairs of
chats, timers of different names, aliases of different scopes or names, and any two of these kinds
can be edited in either order: each edit is answered as if it came first, and the bot is the same
after both, with the same snapshot. -/
theorem edits_commute (h : Reachable b) (hkey : c.key ≠ c'.key) :
    ((b.edit c).2.edit c').1 = (b.edit c').1 ∧
    ((b.edit c').2.edit c).1 = (b.edit c).1 ∧
    ((b.edit c).2.edit c').2 = ((b.edit c').2.edit c).2 ∧
    ((b.edit c).2.edit c').2.snapshot = ((b.edit c').2.edit c).2.snapshot := by
  have hsound := h.sound
  have hsame : ((b.edit c).2.edit c').2 = ((b.edit c').2.edit c).2 := by
    rw [edit_edit hsound hkey, edit_edit hsound hkey.symm, edit_eq hsound c, edit_eq hsound c']
    dsimp only
    cases (b.answer c).isMade with
    | false =>
      cases (b.answer c').isMade with
      | false => rfl
      | true => rfl
    | true =>
      cases (b.answer c').isMade with
      | false => rfl
      | true =>
        refine persist_write_comm hsound ?_
        rwa [Edit.key_write, Edit.key_write]
  have hanswer' : ((b.edit c).2.edit c').1 = (b.edit c').1 := by
    rw [edit_edit hsound hkey, edit_eq hsound c']
  have hanswer : ((b.edit c').2.edit c).1 = (b.edit c).1 := by
    rw [edit_edit hsound hkey.symm, edit_eq hsound c]
  exact ⟨hanswer', hanswer, hsame, congrArg snapshot hsame⟩

theorem edits_commute_shared :
    let x : Chat := ⟨⟨"Console"⟩, "x"⟩
    let y : Chat := ⟨⟨"Console"⟩, "y"⟩
    let z : Chat := ⟨⟨"Console"⟩, "z"⟩
    let b := echoing.perform (.change (.link x y))
    let last := ((b.edit (.unlink x y)).2.edit (.link x z)).2
    last = ((b.edit (.link x z)).2.edit (.unlink x y)).2 ∧
      last.snapshot.links = [⟨x, [z]⟩, ⟨z, [x]⟩] := by
  intro x y z b last
  have hb : Reachable b := reachable_echoing.step (.change (.link x y))
  have hkey : Edit.key (.unlink x y) ≠ Edit.key (.link x z) := by decide
  exact ⟨(edits_commute hb hkey).2.2.1, by decide⟩

end Bot

end ChatBot
