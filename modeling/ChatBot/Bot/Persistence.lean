import ChatBot.Bot

/-!
# Persistence

The snapshot of a bot, and the bot that a stored snapshot is restored into.
-/

namespace ChatBot.Bot

/-- The record of an alias. -/
def aliasRecord (a : Alias) : AliasRecord :=
  ⟨a.scope, a.name, a.command.protocol, a.command.name, a.args⟩

/-- All that outlives a restart. -/
def snapshot (b : Bot) : Snapshot where
  delimiters := b.delimiters.bindings.map fun (chat, delimiter) => ⟨chat, delimiter⟩
  aliases := b.registry.aliases.map aliasRecord
  scheduled := b.scheduler.pending
  links := b.links.groups.map fun (chat, linked) => ⟨chat, linked⟩
  timers := b.timers.bindings.map fun (name, started) => ⟨name, started⟩

/-- Saves the snapshot. That this can fail changes nothing for the bot. -/
def persist (b : Bot) : Bot := { b with store := b.store.save b.snapshot }

/-! ## Restoring -/

/-- Restores a delimiter that can be one. -/
def restoreDelimiter (b : Bot) (r : DelimiterRecord) : Bot :=
  match Delimiter.fault? r.delimiter with
  | some _ => b
  | none => { b with delimiters := b.delimiters.insert r.chat r.delimiter }

/-- Restores an alias whose command is registered and whose name is free. -/
def restoreAlias (b : Bot) (r : AliasRecord) : Bot :=
  let registry? := do
    let command ← b.registry.command? r.protocol r.command
    b.registry.addAlias? ⟨r.scope, r.name, command, r.args⟩
  match registry? with
  | some registry => { b with registry }
  | none => b

/-- Restores a scheduled command whose id is free. -/
def restoreScheduled (b : Bot) (e : ScheduledCommand) : Bot :=
  { b with scheduler := (b.scheduler.restore? e).getD b.scheduler }

/-- Restores the links of a chat, which cannot be linked with itself. -/
def restoreLinks (b : Bot) (r : LinkRecord) : Bot :=
  { b with links := (r.linked.filter (· ≠ r.chat)).foldl (fun l chat => l.join r.chat chat) b.links }

def restoreTimer (b : Bot) (r : TimerRecord) : Bot :=
  { b with timers := b.timers.insert r.name r.started }

/-- Restores all that can be restored of a snapshot. -/
def restoreSnapshot (b : Bot) (s : Snapshot) : Bot :=
  let b := s.delimiters.foldl restoreDelimiter b
  let b := s.aliases.foldl restoreAlias b
  let b := s.scheduled.foldl restoreScheduled b
  let b := s.links.foldl restoreLinks b
  s.timers.foldl restoreTimer b

/-- Restores what is stored. Commands have to be registered before, as aliases stand for them. -/
def restore (b : Bot) : Except StoreError Bot := b.store.load.map b.restoreSnapshot

end ChatBot.Bot
