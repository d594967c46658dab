import ChatBot.Chat
import ChatBot.OrderedMap
import ChatBot.Time.Instant

/-!
# The scheduler

Commands that wait for their time, and tasks that run once. Commands are indexed by time, for taking
what is due, and by id, for removing one; entries of one time stay in the order in which they came.
-/

namespace ChatBot

structure ScheduledCommand where
  id : Nat
  time : Instant
  chat : Chat
  sender : User
  /-- The name of a command or an alias, which is resolved when the time has come. -/
  command : String
  args : List String
  deriving DecidableEq

/-- The command and its arguments for people. -/
def ScheduledCommand.invocation (e : ScheduledCommand) : String :=
  if e.args = [] then e.command else e.command ++ " " ++ " ".intercalate e.args

/-- An action outside of the bot, known by its label. -/
structure Task where
  time : Instant
  label : String
  deriving DecidableEq

/-- What has been taken out of a scheduler. -/
structure DueWork where
  /-- Commands to run, by time. -/
  fire : List ScheduledCommand
  /-- Commands that are too late to run. -/
  missed : List ScheduledCommand
  tasks : List Task

/-- Whether any command was taken. -/
def DueWork.hasCommands (w : DueWork) : Bool := !w.fire.isEmpty || !w.missed.isEmpty

structure Scheduler where
  byTime : OrderedMap Instant (List Nat)
  byId : OrderedMap Nat ScheduledCommand
  tasks : List Task

namespace Scheduler

def empty : Scheduler := ⟨.empty, .empty, []⟩

instance : Inhabited Scheduler := ⟨empty⟩

/-- The least number from `n` on that ascending numbers from `n` on leave out. -/
def leastFree (n : Nat) : List Nat → Nat
  | [] => n
  | k :: ks => if k = n then leastFree (n + 1) ks else n

def freeId (s : Scheduler) : Nat := leastFree 0 s.byId.keys

/-- Adds an entry whose id is free to both indices. -/
def index (s : Scheduler) (e : ScheduledCommand) : Scheduler :=
  { s with
    byTime := s.byTime.insert e.time ((s.byTime.get? e.time).getD [] ++ [e.id])
    byId := s.byId.insert e.id e }

/-- Adds a command under the least free id. -/
def insert (s : Scheduler) (chat : Chat) (sender : User) (command : String) (args : List String)
    (time : Instant) : ScheduledCommand × Scheduler :=
  let e : ScheduledCommand := ⟨s.freeId, time, chat, sender, command, args⟩
  (e, s.index e)

/-- Adds an entry under its own id, which must be free. -/
def restore? (s : Scheduler) (e : ScheduledCommand) : Option Scheduler :=
  if s.byId.contains e.id then none else some (s.index e)

def get? (s : Scheduler) (id : Nat) : Option ScheduledCommand := s.byId.get? id

/-- The time index without an id at a time. -/
def unindex (byTime : OrderedMap Instant (List Nat)) (time : Instant) (id : Nat) :
    OrderedMap Instant (List Nat) :=
  match ((byTime.get? time).getD []).filter (· ≠ id) with
  | [] => byTime.erase time
  | ids => byTime.insert time ids

/-- Removes an entry, which is given along with the scheduler that is left. -/
def remove? (s : Scheduler) (id : Nat) : Option (ScheduledCommand × Scheduler) :=
  (s.get? id).map fun e =>
    (e, { s with byTime := unindex s.byTime e.time id, byId := s.byId.erase id })

/-- The pending commands by time. -/
def pending (s : Scheduler) : List ScheduledCommand :=
  (s.byTime.values.flatMap id).filterMap s.byId.get?

/-- The pending commands of one sender by time, or those of all. -/
def commands (s : Scheduler) (sender : Option User) : List ScheduledCommand :=
  s.pending.filter fun e => sender.all (· = e.sender)

def addTask (s : Scheduler) (t : Task) : Scheduler := { s with tasks := s.tasks ++ [t] }

/-- Takes out all that is due. A command that is later than `lateness` is missed. -/
def takeDue (s : Scheduler) (now : Instant) (lateness : Elapsed) : DueWork × Scheduler :=
  let ids := (s.byTime.bindings.takeWhile (·.1 ≤ now)).flatMap (·.2)
  let (fire, missed) := (ids.filterMap s.byId.get?).partition (now.since ·.time ≤ lateness)
  let (ready, waiting) := s.tasks.partition (·.time ≤ now)
  (⟨fire, missed, ready⟩,
    ⟨s.byTime.dropWhile (· ≤ now), ids.foldl OrderedMap.erase s.byId, waiting⟩)

/-- The time of the first pending command. -/
def nextTime? (s : Scheduler) : Option Instant := s.byTime.keys.head?

def size (s : Scheduler) : Nat := s.byId.size

def isEmpty (s : Scheduler) : Bool := s.byId.isEmpty

end Scheduler

end ChatBot
