import ChatBot.Bot.Tick
import ChatBot.Proofs.Bot.Soundness

/-!
# The course of a bot

Whatever is done with a bot, it makes changes one after the other and does other things beside,
which are not stored (`Onward`). So what changes keep is kept on the whole way. Which changes may be
made can be said along with it (`GoesBy`).
-/

namespace ChatBot.Bot

/-- Bots that have stored the same and would store the same. -/
structure SameState (b b' : Bot) : Prop where
  config : b'.config = b.config
  store : b'.store = b.store
  registry : b'.registry = b.registry
  scheduler : b'.scheduler = b.scheduler
  delimiters : b'.delimiters = b.delimiters
  links : b'.links = b.links
  timers : b'.timers = b.timers

/-- The entries that a change schedules. -/
def puts (b : Bot) : Change → List ScheduledCommand
  | .schedule chat sender command args time => [(b.schedule chat sender command args time).1]
  | _ => []

/-- The entries that a change cancels. -/
def takes (b : Bot) : Change → List ScheduledCommand
  | .unschedule id => (b.scheduler.get? id).toList
  | _ => []

/-- The ways in which a bot can go on by changes, with the entries that are scheduled and cancelled
on the way. -/
inductive Onward (b : Bot) : List ScheduledCommand → List ScheduledCommand → Bot → Prop
  | refl : Onward b [] [] b
  | aside {added removed : List ScheduledCommand} {p q : Bot} :
    Onward b added removed p → SameState p q → Onward b added removed q
  | change {added removed : List ScheduledCommand} {p : Bot} :
    Onward b added removed p → (c : Change) →
    Onward b (added ++ p.puts c) (removed ++ p.takes c) (p.attempt c).2

/-- A bot goes on to another one by changes. -/
def LeadsTo (b b' : Bot) : Prop := ∃ added removed, b.Onward added removed b'

variable {b p q : Bot} {added removed : List ScheduledCommand}

namespace SameState

theorem refl (b : Bot) : SameState b b := by
  constructor <;> rfl

theorem trans (h : SameState b p) (h' : SameState p q) : SameState b q where
  config := h'.config.trans h.config
  store := h'.store.trans h.store
  registry := h'.registry.trans h.registry
  scheduler := h'.scheduler.trans h.scheduler
  delimiters := h'.delimiters.trans h.delimiters
  links := h'.links.trans h.links
  timers := h'.timers.trans h.timers

theorem sound (h : SameState b p) (hb : b.Sound) : p.Sound where
  delimiters := h.delimiters ▸ hb.delimiters
  registry := h.registry ▸ hb.registry
  scheduler := h.scheduler ▸ hb.scheduler
  links := h.links ▸ hb.links

theorem delimiter (h : SameState b p) (chat : Chat) : p.delimiter chat = b.delimiter chat := by
  rw [Bot.delimiter, h.delimiters, h.config, Bot.delimiter]

theorem snapshot (h : SameState b p) : p.snapshot = b.snapshot := by
  rw [Bot.snapshot, h.delimiters, h.registry, h.scheduler, h.links, h.timers, Bot.snapshot]

end SameState

theorem Onward.sound (h : b.Onward added removed p) (hb : b.Sound) : p.Sound := by
  induction h with
  | refl => exact hb
  | aside _ hs ih => exact hs.sound ih
  | change _ c ih => exact ih.attempt c

theorem LeadsTo.sound (h : b.LeadsTo p) (hb : b.Sound) : p.Sound := by
  obtain ⟨_, _, h⟩ := h
  exact h.sound hb

/-! ## Changes of a kind -/

/-- A bot goes on to another one by changes that it may make, and by other things beside. -/
inductive Goes (beside : Bot → Bot → Prop) (may : Change → Prop) (b : Bot) : Bot → Prop
  | refl : Goes beside may b b
  | aside {p q : Bot} : Goes beside may b p → beside p q → Goes beside may b q
  | change {p : Bot} {c : Change} : Goes beside may b p → may c →
    Goes beside may b (p.attempt c).2

/-- A bot goes on by changes that it may make, and by things that are not stored. -/
abbrev GoesBy (may : Change → Prop) (b : Bot) : Bot → Prop := b.Goes SameState may

namespace Goes

variable {beside beside' : Bot → Bot → Prop} {may may' : Change → Prop}

theorem imp (hbeside : ∀ p q, beside p q → beside' p q) (h : b.Goes beside may p) :
    b.Goes beside' may p := by
  induction h with
  | refl => exact .refl
  | aside _ hs ih => exact ih.aside (hbeside _ _ hs)
  | change _ hc ih => exact ih.change hc

theorem mono (hmay : ∀ c, may c → may' c) (h : b.Goes beside may p) : b.Goes beside may' p := by
  induction h with
  | refl => exact .refl
  | aside _ hs ih => exact ih.aside hs
  | change _ hc ih => exact ih.change (hmay _ hc)

theorem trans (h : b.Goes beside may p) (h' : p.Goes beside may q) : b.Goes beside may q := by
  induction h' with
  | refl => exact h
  | aside _ hs ih => exact ih.aside hs
  | change _ hc ih => exact ih.change hc

theorem of_beside (h : beside b p) : b.Goes beside may p := .aside .refl h

theorem attempt (b : Bot) {c : Change} (hc : may c) : b.Goes beside may (b.attempt c).2 :=
  .change .refl hc

/-- A change that is known by what comes of it. -/
theorem of_attempt {c : Change} {made : Bool} (hc : may c) (h : b.attempt c = (made, p)) :
    b.Goes beside may p := by
  have hgoes : b.Goes beside may (b.attempt c).2 := attempt b hc
  rwa [h] at hgoes

theorem leadsTo (h : b.Goes SameState may p) : b.LeadsTo p := by
  induction h with
  | refl => exact ⟨_, _, .refl⟩
  | aside _ hs ih =>
    obtain ⟨_, _, hp⟩ := ih
    exact ⟨_, _, hp.aside hs⟩
  | change _ _ ih =>
    obtain ⟨_, _, hp⟩ := ih
    exact ⟨_, _, hp.change _⟩

theorem sound (h : b.Goes SameState may p) (hb : b.Sound) : p.Sound := h.leadsTo.sound hb

end Goes

/-! ## Deliveries -/

theorem sameState_count (b : Bot) (c : Counter) : SameState b (b.count c) := by
  constructor <;> rfl

theorem sameState_deliver (b : Bot) (k : Backend) (chat : Chat) (text : String) :
    SameState b (b.deliver k chat text).2 := by
  constructor <;> rfl

theorem sameState_deliverImages (b : Bot) (chat : Chat) (urls : List String) :
    SameState b (b.deliverImages chat urls) := by
  constructor <;> rfl

theorem sameState_send (b : Bot) (chat : Chat) (text : String) :
    SameState b (b.send chat text).2 := by
  unfold send
  split
  · exact b.sameState_deliver _ chat text
  · exact .refl _

theorem sameState_copyTo (label text : String) (urls : List String) (b : Bot) (target : Chat) :
    SameState b (copyTo label text urls b target) := by
  unfold copyTo
  split
  next => exact .refl _
  next k _ =>
    have hsent := b.sameState_deliver k target (k.inBold label ++ " " ++ text)
    dsimp only
    split
    · refine .trans ?_ (sameState_deliverImages _ target urls)
      split
      · exact hsent.trans (sameState_count _ _)
      · exact hsent
    · split
      · exact hsent.trans (sameState_count _ _)
      · exact hsent

theorem sameState_forward (b : Bot) (source : Chat) (sender : User) (text : String)
    (urls : List String) : SameState b (b.forward source sender text urls) :=
  List.foldlRecOn (b.links.linkedWith source) _ (.refl b) fun _ h target _ =>
    h.trans (sameState_copyTo _ text urls _ target)

theorem sameState_reply (b : Bot) (chat : Chat) (sender : User) (text : String) :
    SameState b (b.reply chat sender text) := by
  unfold reply
  split
  next => exact .refl _
  next self _ =>
    split
    · exact .refl _
    · exact (b.sameState_send chat text).trans (sameState_forward _ chat self text [])

theorem sameState_conclude (b : Bot) (chat : Chat) (sender : User) (command : String)
    (outcome : Outcome) : SameState b (b.conclude chat sender command outcome) := by
  cases outcome with
  | silent => exact .refl _
  | reply text => exact b.sameState_reply chat sender _
  | failed failure => exact (b.sameState_count _).trans (sameState_reply _ chat sender _)
  | crashed message => exact (b.sameState_count _).trans (sameState_reply _ chat sender _)

end ChatBot.Bot
