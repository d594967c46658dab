import ChatBot.Proofs.Bot.Operation
import ChatBot.Proofs.Scheduler.Pending

/-!
# Restarts

A snapshot holds all that a restart needs: a fresh bot that restores it answers as the bot did that
it was taken of (`restart_loses_nothing`).
-/

namespace ChatBot

namespace Bot

variable {b f : Bot}

/-- All of a snapshot is restored into a fresh bot with the same commands. -/
theorem restoreSnapshot_snapshot (h : b.Sound) (hf : f.Fresh)
    (hcommands : f.registry.commands = b.registry.commands) :
    ∃ s, f.restoreSnapshot b.snapshot = { f with
        delimiters := b.delimiters, registry := b.registry, scheduler := s, links := b.links,
        timers := b.timers } ∧
      s.pending = b.scheduler.pending ∧ s.freeId = b.scheduler.freeId := by
  obtain ⟨a, hrep⟩ := h.represents
  have hdelimiters := foldl_restoreDelimiter h hf.delimiters
  have haliases := foldl_restoreAlias (f := { f with delimiters := b.delimiters }) h hcommands
    hf.aliases
  obtain ⟨s, hscheduled, hs⟩ := foldl_restoreScheduled (f := { f with
    delimiters := b.delimiters, registry := b.registry }) hrep.nodup_pending hf.scheduler
  have hlinks := foldl_restoreLinks (f := { f with
    delimiters := b.delimiters, registry := b.registry, scheduler := s }) h.links hf.links
  have htimers := foldl_restoreTimer (b := b) (f := { f with
    delimiters := b.delimiters, registry := b.registry, scheduler := s, links := b.links })
    hf.timers
  refine ⟨s, ?_, hrep.of_pending hs⟩
  unfold restoreSnapshot
  dsimp only
  rw [hdelimiters, haliases, show b.snapshot.scheduled = b.scheduler.pending from rfl, hscheduled,
    hlinks, htimers]

/-- **A restart loses nothing.** A fresh bot with the same configuration and the same commands that
restores the snapshot of a bot has that snapshot and answers every query as the bot does, down to
the order of what is scheduled for one time and the next id. -/
theorem restart_loses_nothing (h : Reachable b) (hf : f.Fresh) (hconfig : f.config = b.config)
    (hcommands : f.registry.commands = b.registry.commands)
    (hstore : f.store.load = .ok b.snapshot) :
    ∃ f', f.restore = .ok f' ∧ f'.snapshot = b.snapshot ∧
      (∀ chat, f'.delimiter chat = b.delimiter chat) ∧
      (∀ name chat server,
        f'.registry.resolve name chat server = b.registry.resolve name chat server) ∧
      (∀ chat, f'.links.linkedWith chat = b.links.linkedWith chat) ∧
      (∀ name now, f'.checkTimer name now = b.checkTimer name now) ∧
      (∀ sender, f'.scheduler.commands sender = b.scheduler.commands sender) ∧
      ∀ chat sender command args time,
        (f'.schedule chat sender command args time).1 =
          (b.schedule chat sender command args time).1 := by
  obtain ⟨s, hrestore, hpending, hfree⟩ := restoreSnapshot_snapshot h.sound hf hcommands
  refine ⟨f.restoreSnapshot b.snapshot, ?_, ?_⟩
  · rw [restore, hstore]
    rfl
  rw [hrestore]
  refine ⟨?_, fun chat => ?_, fun _ _ _ => rfl, fun _ => rfl, fun _ _ => rfl, fun sender => ?_,
    fun chat sender command args time => ?_⟩
  · simp only [snapshot, hpending]
  · simp only [delimiter, hconfig]
  · simp only [Scheduler.commands, hpending]
  · simp only [schedule, Scheduler.insert, hfree]

theorem restart_loses_nothing_linked :
    let x : Chat := ⟨⟨"Console"⟩, "x"⟩
    let y : Chat := ⟨⟨"Console"⟩, "y"⟩
    let b := (echoing.perform (.change (.link x y))).perform
      (.change (.schedule x default "Echo" ["a"] .epoch))
    ∃ f', restore { echoing with store := b.store } = .ok f' ∧ f'.links.linkedWith y = [x] ∧
      f'.scheduler.commands none = [⟨0, .epoch, x, default, "echo", ["a"]⟩] := by
  intro x y b
  have hb : Reachable b :=
    (reachable_echoing.step (.change (.link x y))).step
      (.change (.schedule x default "Echo" ["a"] .epoch))
  have hf : Fresh { echoing with store := b.store } :=
    (fresh_new .standard b.store).addCommand (c := Builtin.echo.toCommand) rfl
  obtain ⟨f', hf', -, -, -, hlinked, -, hscheduled, -⟩ :=
    restart_loses_nothing hb hf rfl rfl rfl
  exact ⟨f', hf', (hlinked y).trans (by decide), (hscheduled none).trans (by decide)⟩

end Bot

end ChatBot
