import ChatBot.Bot.Dispatch

/-!
# Ticks

At a tick all that is due is taken out of the scheduler and that is saved, so that nothing runs
twice. Then commands and tasks run. What is due is decided for the time of the tick; handlers read
the clock, which may show another time.
-/

namespace ChatBot.Bot

/-- Runs a scheduled command, if its name stands for something by now. -/
def fire (clock : Instant) (b : Bot) (e : ScheduledCommand) : Bot :=
  match b.resolve e.command e.chat with
  | .error error => b.count (.error e.command error.code)
  | .ok entry => (b.count .fired).run e.chat e.sender (entry.invoke e.args) clock

/-- Takes out what is due and saves the rest. -/
def takeDue (b : Bot) (now : Instant) (lateness : Elapsed) : DueWork × Bot :=
  let (due, scheduler) := b.scheduler.takeDue now lateness
  let b := { b with scheduler }
  (due, if due.hasCommands then b.persist else b)

/-- Runs what is due. Commands that are too late are only counted. -/
def runDue (b : Bot) (clock : Instant) (due : DueWork) : Bot :=
  let b := due.missed.foldl (fun b _ => b.count .missed) b
  let b := due.fire.foldl (fire clock) b
  { b with ranTasks := b.ranTasks ++ due.tasks.map (·.label) }

/-- The bot after a tick at `now`, unless the configured lateness is too long to be measured. -/
def tick? (b : Bot) (now clock : Instant) : Option Bot :=
  b.config.lateness?.map fun lateness =>
    let (due, b) := b.takeDue now lateness
    b.runDue clock due

end ChatBot.Bot
