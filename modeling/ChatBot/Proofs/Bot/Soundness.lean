import ChatBot.Bot.Dispatch
import ChatBot.Proofs.Bot.Aliases
import ChatBot.Proofs.Links
import ChatBot.Proofs.Registry.Bound
import ChatBot.Proofs.Scheduler.Refinement

/-!
# What holds of every bot

Delimiters can be delimiters, aliases stand for registered commands, links go both ways, and the
scheduler is what its calls made of it (`Bot.Sound`). A change is refused and leaves the bot as it
is, or it is made and saved (`Bot.attempt_cases`), and either way the bot stays sound.
-/

namespace ChatBot

/-! ## Schedulers and their calls -/

namespace Scheduler

/-- The scheduler after some calls of an empty one. -/
def after (calls : List Call) : Scheduler := (runCalls perform empty calls).2

theorem runCalls_append {f : σ → Call → Answer × σ} {s : σ} (cs ds : List Call) :
    (runCalls f s (cs ++ ds)).2 = (runCalls f (runCalls f s cs).2 ds).2 := by
  induction cs generalizing s with
  | nil => rfl
  | cons c cs ih => exact ih

theorem perform_after (calls : List Call) (c : Call) :
    ((after calls).perform c).2 = after (calls ++ [c]) :=
  (runCalls_append calls [c]).symm

end Scheduler

/-- The agenda after some calls of an empty one: its entries are in the order in which they came. -/
def Agenda.after (calls : List Scheduler.Call) : Agenda :=
  (Scheduler.runCalls perform empty calls).2

theorem Scheduler.represents_after (calls : List Call) :
    (after calls).Represents (.after calls) :=
  (represents_run calls).2

namespace Bot

/-- What holds of a bot from its start on. -/
structure Sound (b : Bot) : Prop where
  delimiters : ∀ chat delimiter, b.delimiters.get? chat = some delimiter →
    Delimiter.fault? delimiter = none
  registry : b.registry.Bound
  scheduler : ∃ calls, b.scheduler = .after calls
  links : b.links.Mutual

/-- What a bot becomes by a change that is made. -/
inductive Made (b : Bot) : Change → Bot → Prop
  | resetDelimiter {chat : Chat} {text : String} :
    Made b (.setDelimiter chat text) { b with delimiters := b.delimiters.erase chat }
  | setDelimiter {chat : Chat} {text : String} (hd : Delimiter.fault? text = none) :
    Made b (.setDelimiter chat text) { b with delimiters := b.delimiters.insert chat text }
  | createAlias {scope : Scope} {name target : String} {chat : Chat} {a : Alias} {r : Registry}
    (ha : a.command ∈ b.registry.commands) (hadd : b.registry.addAlias? a = some r) :
    Made b (.createAlias scope name target chat) { b with registry := r }
  | removeAlias {scope : Scope} {name : String} {a : Alias} {r : Registry}
    (hremove : b.registry.removeAlias? scope name = some (a, r)) :
    Made b (.removeAlias scope name) { b with registry := r }
  | schedule (chat : Chat) (sender : User) (command : String) (args : List String)
    (time : Instant) :
    Made b (.schedule chat sender command args time) { b with
      scheduler := (b.scheduler.insert chat sender (Text.lowercase command) args time).2 }
  | unschedule {id : Nat} {e : ScheduledCommand} {s : Scheduler}
    (hremove : b.scheduler.remove? id = some (e, s)) :
    Made b (.unschedule id) { b with scheduler := s }
  | link {x y : Chat} (hne : x ≠ y) : Made b (.link x y) { b with links := b.links.join x y }
  | unlink {x y : Chat} : Made b (.unlink x y) { b with links := b.links.part x y }
  | startTimer {name : String} {now : Instant} :
    Made b (.startTimer name now) { b with timers := b.timers.insert name now }
  | stopTimer {name : String} {now : Instant} :
    Made b (.stopTimer name now) { b with timers := b.timers.erase name }

variable {b b' : Bot} {c : Change}

/-- An alias that is created stands for a registered command. -/
theorem made_of_createAlias {scope : Scope} {name target : String} {chat : Chat} {a : Alias}
    (h : b.Sound) (hcreate : b.createAlias scope name target chat = .ok (a, b')) :
    ∃ made, b.Made (.createAlias scope name target chat) made ∧ b' = made.persist := by
  obtain ⟨-, line, entry, registry, htarget, -, ha, hadd, rfl⟩ := createAlias_eq_ok_iff.1 hcreate
  obtain ⟨-, hresolve⟩ := readTarget_eq_some_iff.1 htarget
  have hname : Text.lowercase a.name = a.name := by
    rw [ha]
    exact Text.lowercase_lowercase name
  have hcommand : a.command ∈ b.registry.commands := by
    rw [ha]
    exact h.registry.command_invoke_mem (Registry.resolve_eq_ok_iff.1 hresolve) line.args
  rw [← Registry.addAlias?_of_lowercase hname] at hadd
  exact ⟨_, .createAlias hcommand hadd, rfl⟩

/-- A change is refused and leaves the bot as it is, or it is made and saved. -/
theorem attempt_cases (h : b.Sound) (c : Change) :
    b.attempt c = (false, b) ∨
      ∃ made, b.Made c made ∧ b.attempt c = (true, made.persist) := by
  cases c with
  | setDelimiter chat delimiter =>
    simp only [attempt, Bot.setDelimiter]
    cases hd : Delimiter.fault? delimiter with
    | some e => exact .inl rfl
    | none =>
      right
      dsimp only
      split
      · exact ⟨_, .resetDelimiter, rfl⟩
      · exact ⟨_, .setDelimiter hd, rfl⟩
  | createAlias scope name target chat =>
    rw [attempt]
    cases hcreate : b.createAlias scope name target chat with
    | error e => exact .inl rfl
    | ok r =>
      obtain ⟨made, hmade, hr⟩ := made_of_createAlias h hcreate
      exact .inr ⟨made, hmade, congrArg _ hr⟩
  | removeAlias scope name =>
    rw [attempt, Bot.removeAlias]
    cases hremove : b.registry.removeAlias? scope name with
    | none => exact .inl rfl
    | some r => exact .inr ⟨_, .removeAlias hremove, rfl⟩
  | schedule chat sender command args time => exact .inr ⟨_, .schedule .., rfl⟩
  | unschedule id =>
    rw [attempt, Bot.unschedule]
    cases hremove : b.scheduler.remove? id with
    | none => exact .inl rfl
    | some r => exact .inr ⟨_, .unschedule hremove, rfl⟩
  | link x y =>
    rw [attempt, Bot.link]
    split
    next => exact .inl rfl
    next hne =>
      cases hxy : b.links.isLinked x y with
      | true =>
        left
        rw [h.links.join_eq_self hxy]
        rfl
      | false => exact .inr ⟨_, .link hne, rfl⟩
  | unlink x y =>
    rw [attempt, Bot.unlink]
    cases hxy : b.links.isLinked x y with
    | true => exact .inr ⟨_, .unlink, rfl⟩
    | false =>
      left
      rw [h.links.part_eq_self (by simp [hxy])]
      rfl
  | startTimer name now =>
    rw [attempt, Bot.startTimer]
    split
    · exact .inl rfl
    · exact .inr ⟨_, .startTimer, rfl⟩
  | stopTimer name now =>
    rw [attempt, Bot.stopTimer]
    cases b.timers.get? name with
    | none => exact .inl rfl
    | some started => exact .inr ⟨_, .stopTimer, rfl⟩

/-! ## Soundness is kept -/

namespace Sound

/-- The indices of the scheduler hold the entries that its calls left. -/
theorem represents (h : b.Sound) : ∃ a, b.scheduler.Represents a := by
  obtain ⟨calls, hcalls⟩ := h.scheduler
  exact ⟨_, hcalls ▸ Scheduler.represents_after calls⟩

theorem persist (h : b.Sound) : b.persist.Sound := ⟨h.delimiters, h.registry, h.scheduler, h.links⟩

theorem insertDelimiter (h : b.Sound) (chat : Chat) {delimiter : String}
    (hd : Delimiter.fault? delimiter = none) :
    { b with delimiters := b.delimiters.insert chat delimiter }.Sound where
  delimiters chat' delimiter' hget := by
    rw [OrderedMap.get?_insert] at hget
    split at hget
    · cases hget
      exact hd
    · exact h.delimiters chat' delimiter' hget
  registry := h.registry
  scheduler := h.scheduler
  links := h.links

theorem scheduled (h : b.Sound) (c : Scheduler.Call) :
    { b with scheduler := (b.scheduler.perform c).2 }.Sound where
  delimiters := h.delimiters
  registry := h.registry
  scheduler := by
    obtain ⟨calls, hcalls⟩ := h.scheduler
    rw [hcalls, Scheduler.perform_after]
    exact ⟨_, rfl⟩
  links := h.links

theorem made (h : b.Sound) (hmade : b.Made c b') : b'.Sound := by
  cases hmade with
  | resetDelimiter =>
    refine { h with delimiters := fun chat' delimiter' hget => ?_ }
    rw [OrderedMap.get?_erase] at hget
    split at hget
    · contradiction
    · exact h.delimiters chat' delimiter' hget
  | setDelimiter hd => exact h.insertDelimiter _ hd
  | createAlias ha hadd => exact { h with registry := h.registry.addAlias ha hadd }
  | removeAlias hremove => exact { h with registry := h.registry.removeAlias hremove }
  | schedule chat sender command args time =>
    exact h.scheduled (.insert chat sender (Text.lowercase command) args time)
  | @unschedule id _ _ hremove =>
    have hsound := h.scheduled (.remove id)
    rwa [Scheduler.perform, hremove] at hsound
  | link hne => exact { h with links := h.links.join hne }
  | unlink => exact { h with links := h.links.part _ _ }
  | startTimer => exact { h with }
  | stopTimer => exact { h with }

theorem attempt (h : b.Sound) (c : Change) : (b.attempt c).2.Sound := by
  rcases attempt_cases h c with heq | ⟨made, hmade, heq⟩
  · rw [heq]
    exact h
  · rw [heq]
    exact (h.made hmade).persist

end Sound

end Bot

end ChatBot
