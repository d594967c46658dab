import Std.Sync.Mutex
import Std.Time.DateTime.Timestamp
import ChatBot.Console

/-!
# The program

Runs a bot on the console. Messages come from standard input and replies go to standard output; the
argument is the configuration file. Ticks are kept by a task of their own.
-/

namespace ChatBot.Program

/-- The bytes of a file, or nothing if there is no such file. -/
def readFile (path : String) : IO (Option ByteArray) := do
  try
    return some (← IO.FS.readBinFile path)
  catch
    | .noFileOrDirectory .. => return none
    | e => throw e

/-- The time by the clock of the system. -/
def clock : IO Instant := do
  let t ← Std.Time.Timestamp.now
  let nanoseconds := t.toNanosecondsSinceUnixEpoch.val
  return (Instant.ofParts? (nanoseconds / 1000000000) (nanoseconds % 1000000000).toNat).getD default

/-- Shows what the bot has sent, and stores the snapshot if one was saved since `before`. -/
def publish (path : String) (before after : Bot) : IO Unit := do
  let out ← IO.getStdout
  for d in after.deliveries do
    out.putStr (Console.output d)
  out.flush
  if before.store.saves ≠ after.store.saves then
    if let .file (some bytes) := after.store.medium then
      try
        IO.FS.writeBinFile (path ++ ".tmp") bytes
        IO.FS.rename (path ++ ".tmp") path
      catch e =>
        IO.eprintln e.toString

/-- Changes the bot and publishes the change. -/
def change (bot : Std.Mutex Bot) (f : Bot → Bot) : IO Unit :=
  bot.atomically do
    let before ← get
    let after := f before
    publish before.config.statePath before after
    set { after with deliveries := [], ranTasks := [] }

def isStopping (bot : Std.Mutex Bot) : IO Bool := bot.atomically do return (← get).stopping

/-- A tick. The snapshot without what is due is stored before anything of that runs. -/
def tick (bot : Std.Mutex Bot) (lateness : Elapsed) : IO Unit := do
  let now ← clock
  let due ← bot.atomically do
    let before ← get
    let (due, after) := before.takeDue now lateness
    publish before.config.statePath before after
    set after
    return due
  change bot fun b => b.runDue now due

/-- Waits for some milliseconds, or until the bot is stopping. -/
def wait (bot : Std.Mutex Bot) : (slices : Nat) → IO Unit
  | 0 => return
  | n + 1 => do
    unless ← isStopping bot do
      IO.sleep 10
      wait bot n

partial def keepTicking (bot : Std.Mutex Bot) (interval : Nat) (lateness : Elapsed) : IO Unit := do
  unless ← isStopping bot do
    tick bot lateness
    wait bot (interval / 10 + 1)
    keepTicking bot interval lateness

/-- Takes the messages in some lines. The session goes on unless one cannot be read or the bot is
stopping. -/
def hearLines (bot : Std.Mutex Bot) (name : String) : List (List UInt8) → IO Bool
  | [] => return !(← isStopping bot)
  | line :: rest => do
    if ← isStopping bot then return false
    match Console.message? line with
    | none => return false
    | some s =>
      let now ← clock
      unless s = "" do
        change bot fun b => Console.hear name now b s
      hearLines bot name rest

/-- Takes all messages of an input. What was read of an unfinished line is `unfinished`. -/
partial def listen (bot : Std.Mutex Bot) (name : String) (input : IO.FS.Stream)
    (unfinished : List UInt8) : IO Unit := do
  let bytes ← input.read 4096
  let lines := (unfinished ++ bytes.toList).splitOn 10
  if bytes.isEmpty then
    discard (hearLines bot name lines)
  else
    let last := lines.getLast?.getD []
    if ← hearLines bot name lines.dropLast then
      unless Console.longestLine < last.length do
        listen bot name input last

def fail (message : String) : IO UInt32 := do
  IO.eprintln message
  return 1

/-- Runs a bot until its input ends or it is told to stop. -/
def run (config : Config) : IO UInt32 := do
  let store := Store.ofMedium (.file (← readFile config.statePath))
  let name := (← IO.getEnv "USER").getD "user"
  match Console.start config store with
  | .error e => fail e.message
  | .ok b =>
    let bot ← Std.Mutex.new b
    let ticks ← match config.lateness? with
      | some lateness => IO.asTask (keepTicking bot config.tickInterval lateness) .dedicated
      | none => pure (Task.pure (.ok ()))
    listen bot name (← IO.getStdin) []
    change bot Bot.shutdown
    discard (IO.wait ticks)
    change bot Console.finish
    return 0

end ChatBot.Program

open ChatBot in
def main (args : List String) : IO UInt32 := do
  let path := args.head?.getD "convergence.toml"
  try
    match Console.configure (← Program.readFile path) with
    | .error e => Program.fail e.message
    | .ok config => Program.run config
  catch e => Program.fail e.toString
