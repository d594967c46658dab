/-!
# Counters

How often the things worth counting have happened, and the names under which that is published.
-/

namespace ChatBot

inductive Counter
  /-- A handler of the command ran. -/
  | handled (command : String)
  /-- The command could not be run, or its handler did not succeed. -/
  | error (command code : String)
  | fired
  | missed
  /-- A copy was accepted by the backend of the protocol. -/
  | forwarded (protocol : String)
  deriving DecidableEq, Repr

namespace Counter

/-- The value of a label as it is published, without the quotes around it. -/
def escapeLabel (value : String) : String :=
  String.ofList <| value.toList.flatMap fun
    | '\\' => ['\\', '\\']
    | '"' => ['\\', '"']
    | '\n' => ['\\', 'n']
    | c => [c]

/-- A published name with labels. -/
def labelled (name : String) (labels : List (String × String)) : String :=
  let label (l : String × String) := l.1 ++ "=\"" ++ escapeLabel l.2 ++ "\""
  name ++ "\x7b" ++ ",".intercalate (labels.map label) ++ "\x7d"

/-- The names under which a counter is published. -/
def names : Counter → List String
  | .handled command =>
    [labelled "bot_command_total" [("command", command)],
      labelled "bot_command_duration_seconds_count" [("command", command)]]
  | .error command code =>
    [labelled "bot_command_errors_total" [("command", command), ("error", code)]]
  | .fired => ["bot_scheduler_fired_total"]
  | .missed => ["bot_scheduler_missed_total"]
  | .forwarded protocol => [labelled "bot_messages_forwarded_total" [("protocol", protocol)]]

end Counter

/-- The counters that have moved, in the order of their first move. -/
structure Counters where
  counts : List (Counter × Nat)

namespace Counters

def zero : Counters := ⟨[]⟩

instance : Inhabited Counters := ⟨zero⟩

def get (cs : Counters) (c : Counter) : Nat := (cs.counts.lookup c).getD 0

/-- Counts one more of `c`. -/
def bump (cs : Counters) (c : Counter) : Counters :=
  ⟨go cs.counts⟩
where
  go : List (Counter × Nat) → List (Counter × Nat)
    | [] => [(c, 1)]
    | (d, n) :: rest => if d = c then (d, n + 1) :: rest else (d, n) :: go rest

/-- The published names with their counts. -/
def published (cs : Counters) : List (String × Nat) :=
  cs.counts.flatMap fun (c, n) => c.names.map fun name => (name, n)

end Counters

end ChatBot
