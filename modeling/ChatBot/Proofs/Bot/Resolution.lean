import ChatBot.Bot.Dispatch
import ChatBot.Builtin.Declared
import ChatBot.Proofs.Registry.Lookup

/-!
# What the text of a command means

When a text is read as a command that runs, and which one it is.
-/

namespace ChatBot.Bot

open Text

variable {b : Bot} {chat : Chat}

/-- A name stands for the same in every case of its letters. -/
theorem resolve_lowercase (b : Bot) (name : String) (chat : Chat) :
    b.resolve (lowercase name) chat = b.resolve name chat :=
  b.registry.resolve_lowercase name chat _

/-- Only a name that stands for nothing cannot be resolved. -/
theorem eq_commandNotFound_of_resolve {name : String} {e : DispatchError}
    (h : b.resolve name chat = .error e) : e = .commandNotFound (lowercase name) := by
  unfold resolve Registry.resolve at h
  split at h
  · contradiction
  · exact (Except.error.inj h).symm

theorem readTarget_eq_some_iff {target : String} {line : CommandLine} {entry : Entry} :
    b.readTarget chat target = .ok (some (line, entry)) ↔
      CommandLine.read (b.delimiter chat) (Delimiter.ensure (b.delimiter chat) target) =
          .ok (some line) ∧ b.resolve line.name chat = .ok entry := by
  unfold readTarget
  dsimp only
  cases CommandLine.read (b.delimiter chat) (Delimiter.ensure (b.delimiter chat) target) with
  | error e => simp [Except.mapError, bind, Except.bind]
  | ok found =>
    cases found with
    | none => simp [Except.mapError, bind, Except.bind, pure, Except.pure]
    | some found =>
      simp only [Except.mapError, bind, Except.bind, pure, Except.pure]
      cases hres : b.resolve found.name chat with
      | error e =>
        simp only [reduceCtorEq, Except.ok.injEq, Option.some.injEq, false_iff, not_and]
        rintro rfl
        simp [hres]
      | ok e =>
        simp only [Except.ok.injEq, Option.some.injEq, Prod.mk.injEq]
        constructor
        · rintro ⟨rfl, rfl⟩
          exact ⟨rfl, hres⟩
        · rintro ⟨rfl, h⟩
          rw [hres] at h
          exact ⟨rfl, Except.ok.inj h⟩

/-- What a line runs is what its name stands for. -/
theorem invocation?_of_read {text : String} {line : CommandLine}
    (h : CommandLine.read (b.delimiter chat) text = .ok (some line)) :
    b.invocation? chat text =
      (b.resolve line.name chat).map fun entry => some (entry.invoke line.args) := by
  unfold invocation?
  rw [h]
  cases hresolve : b.resolve line.name chat with
  | error e => simp [Except.mapError, bind, Except.bind, Except.map, hresolve]
  | ok entry =>
    simp [Except.mapError, bind, Except.bind, Except.map, pure, Except.pure, hresolve]

theorem invocation?_eq_some_iff {text : String} {i : Invocation} :
    b.invocation? chat text = .ok (some i) ↔ ∃ line entry,
      CommandLine.read (b.delimiter chat) text = .ok (some line) ∧
        b.resolve line.name chat = .ok entry ∧ entry.invoke line.args = i := by
  unfold invocation?
  cases CommandLine.read (b.delimiter chat) text with
  | error e => simp [Except.mapError, bind, Except.bind]
  | ok found =>
    cases found with
    | none => simp [Except.mapError, bind, Except.bind, pure, Except.pure]
    | some found =>
      simp only [Except.mapError, bind, Except.bind, pure, Except.pure, Except.ok.injEq,
        Option.some.injEq, exists_and_left, exists_eq_left']
      cases b.resolve found.name chat <;> simp

/-! ## A small bot -/

/-- A bot with a single command, which repeats its arguments. -/
def echoing : Bot := ((new .standard default).addCommand? Builtin.echo.toCommand).getD default

theorem delimiter_echoing (chat : Chat) : echoing.delimiter chat = "!" := rfl

theorem resolve_echoing : echoing.resolve "echo" default = .ok (.command Builtin.echo.toCommand) :=
  rfl

end ChatBot.Bot
