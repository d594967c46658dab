import ChatBot.Bot.Tick
import ChatBot.Proofs.Bot.History
import ChatBot.Proofs.CommandLine.Quoting

/-!
# Scheduled commands and typed ones

A scheduled command does when it fires what it would do if it were typed then, and is counted
besides (`fire_agrees_with_typing`).
-/

namespace ChatBot.Bot

open Text

variable {b : Bot} {clock : Instant} {e : ScheduledCommand}

theorem fire_of_resolve_eq_error {error : DispatchError}
    (h : b.resolve e.command e.chat = .error error) :
    fire clock b e = b.count (.error e.command "command_not_found") := by
  rw [fire, h, eq_commandNotFound_of_resolve h]
  rfl

/-- What fires is what runs, and one counter moves more. -/
theorem fire_of_resolve_eq_ok {entry : Entry} (h : b.resolve e.command e.chat = .ok entry) :
    let ran := b.run e.chat e.sender (entry.invoke e.args) clock
    fire clock b e = ran.withCounters (fire clock b e).counters ∧
      ∀ c, (fire clock b e).counters.get c =
        ran.counters.get c + if .fired = c then 1 else 0 := by
  intro ran
  have hrun := b.records_run e.chat e.sender (entry.invoke e.args) clock
  set moves := (b.runEvents e.chat e.sender (entry.invoke e.args) clock).flatMap Event.moves
  have hfire : fire clock b e =
      ran.withCounters (moves.foldl Counters.bump (b.counters.bump .fired)) := by
    have hfired := hrun (b.counters.bump .fired) b.deliveries
    rw [← hrun.recorded.deliveries] at hfired
    rw [fire, h]
    exact hfired
  constructor
  · rw [hfire]
    rfl
  · intro c
    have hran : ran.counters = moves.foldl Counters.bump b.counters := hrun.recorded.counters
    rw [hfire, hran]
    change (moves.foldl Counters.bump (b.counters.bump .fired)).get c = _
    rw [Counters.get_foldl_bump, Counters.get_foldl_bump, Counters.get_bump]
    omega

/-- **A scheduled command does what typing it does.** If its text runs a command at the time it
fires, that command runs, to the same effect as if it were typed, and is counted as fired besides.
Otherwise nothing is known under its name, and only that error is counted. -/
theorem fire_agrees_with_typing (clock : Instant) (b : Bot) (e : ScheduledCommand)
    (hd : Delimiter.fault? (b.delimiter e.chat) = none) (hne : e.command ≠ "")
    (hname : e.command.toList.all isAlphanumeric)
    (hnd : ¬(b.delimiter e.chat).toList <+: e.command.toList) :
    let typed := b.invocation? e.chat (b.delimiter e.chat ++
      " ".intercalate (e.command :: e.args.map CommandLine.quoteArg))
    (∃ i, typed = .ok (some i) ∧
      fire clock b e = (b.run e.chat e.sender i clock).withCounters (fire clock b e).counters ∧
      ∀ c, (fire clock b e).counters.get c =
        (b.run e.chat e.sender i clock).counters.get c + if .fired = c then 1 else 0) ∨
    (∃ name, typed = .error (.commandNotFound name) ∧
      fire clock b e = b.count (.error e.command "command_not_found")) := by
  intro typed
  have htyped : typed =
      (b.resolve e.command e.chat).map fun entry => some (entry.invoke e.args) := by
    have hline := invocation?_of_read (CommandLine.read_quoteArgs hd hne hname hnd e.args)
    dsimp only at hline
    rwa [resolve_lowercase] at hline
  clear_value typed
  subst htyped
  cases hresolve : b.resolve e.command e.chat with
  | error error =>
    rw [eq_commandNotFound_of_resolve hresolve]
    exact .inr ⟨_, rfl, fire_of_resolve_eq_error hresolve⟩
  | ok entry => exact .inl ⟨_, rfl, fire_of_resolve_eq_ok hresolve⟩

theorem fire_agrees_with_typing_echo :
    let e : ScheduledCommand := ⟨0, .epoch, default, default, "Echo", ["a b"]⟩
    let ran := echoing.run default default ⟨Builtin.echo.toCommand, ["a b"]⟩ .epoch
    fire .epoch echoing e = ran.withCounters (fire .epoch echoing e).counters ∧
      (fire .epoch echoing e).counters.get .fired = 1 := by
  intro e ran
  have hmessage : echoing.delimiter e.chat ++
      " ".intercalate (e.command :: e.args.map CommandLine.quoteArg) = "!Echo \"a b\"" := by decide
  have htyped : echoing.invocation? default "!Echo \"a b\"" =
      .ok (some ⟨Builtin.echo.toCommand, ["a b"]⟩) := by
    rw [invocation?_eq_some_iff, delimiter_echoing]
    exact ⟨⟨"echo", ["a b"]⟩, _, by cbv, resolve_echoing, rfl⟩
  have h := fire_agrees_with_typing .epoch echoing e (by decide) (by decide) (by decide) (by decide)
  dsimp only at h
  rw [hmessage, htyped] at h
  rcases h with ⟨i, hi, hfire, hcount⟩ | ⟨name, hname, -⟩
  · cases hi
    exact ⟨hfire, (hcount .fired).trans (by decide)⟩
  · contradiction

end ChatBot.Bot
