import ChatBot.Proofs.Bot.Operation
import ChatBot.Proofs.Scheduler.Pending

/-!
# Restoring any snapshot

What a bot has after a snapshot was restored into it, whatever the snapshot holds (`Bot.Recovered`):
the last record of a delimiter or a timer counts, the first one of an alias or an id, and links are
joined to those that are there. To restore the snapshot once more changes nothing
(`Bot.restore_tolerates_stored`).
-/

namespace ChatBot

open Text

/-! ## Aliases -/

namespace Registry

variable {r p : Registry} {rec : AliasRecord}

/-- The alias that a record stands for, if its command is registered. -/
def recorded? (r : Registry) (rec : AliasRecord) : Option Alias :=
  (r.command? rec.protocol rec.command).map fun c =>
    (Alias.mk rec.scope rec.name c rec.args).normalized

/-- The registry with the alias of a record, if its command is registered and its name is free. -/
def restoreAlias (r : Registry) (rec : AliasRecord) : Registry :=
  match r.recorded? rec with
  | some a => (r.add? (.alias a)).getD r
  | none => r

theorem commandTable_restoreAlias (r : Registry) (rec : AliasRecord) :
    (r.restoreAlias rec).commandTable = r.commandTable := by
  unfold restoreAlias
  split
  next a _ =>
    cases hadd : r.add? (.alias a) with
    | none => rfl
    | some r' =>
      obtain ⟨-, rfl⟩ := add?_alias_eq_some_iff.1 hadd
      rfl
  next => rfl

theorem commandTable_foldl_restoreAlias (r : Registry) (recs : List AliasRecord) :
    (recs.foldl restoreAlias r).commandTable = r.commandTable := by
  induction recs generalizing r with
  | nil => rfl
  | cons rec recs ih => exact (ih _).trans (r.commandTable_restoreAlias rec)

theorem recorded?_congr (h : p.commandTable = r.commandTable) (rec : AliasRecord) :
    p.recorded? rec = r.recorded? rec := by
  rw [recorded?, recorded?, command?, command?, h]

/-- An alias that is there already stays, and otherwise that of the record counts. -/
theorem get?_restoreAlias (r : Registry) (rec : AliasRecord) (scope : Scope) (name : String) :
    (r.restoreAlias rec).aliasTable.get? scope name = (r.aliasTable.get? scope name).or
      ((r.recorded? rec).filter fun a => a.scope = scope ∧ a.name = name) := by
  unfold restoreAlias
  cases r.recorded? rec with
  | none => exact (Option.or_none).symm
  | some a =>
    dsimp only
    cases hadd : r.add? (.alias a) with
    | none =>
      -- The place of the alias is taken.
      rw [add?] at hadd
      split at hadd
      next htaken =>
        obtain ⟨found, hfound⟩ := Option.isSome_iff_exists.1 htaken
        rw [Option.getD_none, Option.filter_some]
        split
        next hplace =>
          obtain ⟨rfl, rfl⟩ := of_decide_eq_true hplace
          rw [hfound, Option.some_or]
        next => exact (Option.or_none).symm
      next => contradiction
    | some r' =>
      obtain ⟨hfree, rfl⟩ := add?_alias_eq_some_iff.1 hadd
      rw [Option.getD_some, insertAlias, Table.get?_insert, Option.filter_some]
      split
      next hplace =>
        obtain ⟨rfl, rfl⟩ := hplace
        simp [hfree]
      next hplace => simp [hplace]

/-- Of the records whose commands are registered, the first one of a scope and a name counts, unless
there is an alias already. -/
theorem get?_foldl_restoreAlias (r : Registry) (recs : List AliasRecord) (scope : Scope)
    (name : String) : (recs.foldl restoreAlias r).aliasTable.get? scope name =
      (r.aliasTable.get? scope name).or
        ((recs.filterMap r.recorded?).find? fun a => a.scope = scope ∧ a.name = name) := by
  induction recs using List.reverseRecOn with
  | nil => exact (Option.or_none).symm
  | append_singleton recs rec ih =>
    have hrec := recorded?_congr (r.commandTable_foldl_restoreAlias recs) rec
    rw [List.foldl_append, List.foldl_cons, List.foldl_nil, get?_restoreAlias, ih, hrec,
      List.filterMap_append, List.find?_append, Option.or_assoc]
    cases hlast : r.recorded? rec with
    | none => rw [List.filterMap_cons_none hlast, Option.filter_none, List.filterMap_nil,
        List.find?_nil]
    | some a =>
      rw [List.filterMap_cons_some hlast, Option.filter_some, List.filterMap_nil, List.find?_cons]
      by_cases ha : a.scope = scope ∧ a.name = name
      · simp [ha]
      · simp [ha]

/-- An alias that is there already stays. -/
theorem get?_foldl_restoreAlias_of_eq_some {a : Alias} {scope : Scope} {name : String}
    (h : r.aliasTable.get? scope name = some a) (recs : List AliasRecord) :
    (recs.foldl restoreAlias r).aliasTable.get? scope name = some a := by
  rw [get?_foldl_restoreAlias, h, Option.some_or]

/-- A registry is known by its two tables. -/
theorem ext_tables (hcommands : p.commandTable = r.commandTable)
    (haliases : p.aliasTable = r.aliasTable) : p = r := by
  refine ext_mem (fun c => ?_) fun a => ?_
  · have hmem : ∀ q : Registry,
        c ∈ q.commands ↔ q.commandTable.get? c.protocol c.name = some c := fun q => by
      rw [get?_commandTable_eq_some_iff, and_iff_left ⟨rfl, rfl⟩]
    rw [hmem, hmem, hcommands]
  · have hmem : ∀ q : Registry,
        a ∈ q.aliases ↔ q.aliasTable.get? a.scope a.name = some a := fun q => by
      rw [get?_aliasTable_eq_some_iff, and_iff_left ⟨rfl, rfl⟩]
    rw [hmem, hmem, haliases]

theorem foldl_restoreAlias_foldl_restoreAlias (r : Registry) (recs : List AliasRecord) :
    recs.foldl restoreAlias (recs.foldl restoreAlias r) = recs.foldl restoreAlias r := by
  have hrecorded : (recs.foldl restoreAlias r).recorded? = r.recorded? :=
    funext (recorded?_congr (r.commandTable_foldl_restoreAlias recs))
  refine ext_tables (commandTable_foldl_restoreAlias _ recs) (Table.ext_get? fun scope name => ?_)
  rw [get?_foldl_restoreAlias, get?_foldl_restoreAlias, hrecorded, Option.or_assoc, Option.or_self]

end Registry

/-! ## Scheduled commands -/

namespace Scheduler

variable {s : Scheduler} {es : List ScheduledCommand}

/-- The scheduler with an entry, if its id is free. -/
def restore (s : Scheduler) (e : ScheduledCommand) : Scheduler := (s.restore? e).getD s

theorem get?_restore (s : Scheduler) (e : ScheduledCommand) (id : Nat) :
    (s.restore e).get? id = (s.get? id).or ((some e).filter (·.id = id)) := by
  unfold restore restore?
  rw [Option.filter_some]
  split
  next htaken =>
    obtain ⟨found, hfound⟩ := Option.isSome_iff_exists.1 htaken
    rw [Option.getD_none]
    split
    next hid =>
      have hget : s.get? id = some found := of_decide_eq_true hid ▸ hfound
      rw [hget, Option.some_or]
    next => exact Option.or_none.symm
  next hfree =>
    have hnone : s.byId.get? e.id = none := Option.not_isSome_iff_eq_none.1 hfree
    rw [Option.getD_some, index, get?, get?, OrderedMap.get?_insert]
    simp only [OrderedMap.isEq_compare_iff]
    split
    next hid => simp [← hid, hnone]
    next hid => simp [hid]

/-- An entry that is there stays, and otherwise the first one with its id counts. -/
theorem get?_foldl_restore (s : Scheduler) (es : List ScheduledCommand) (id : Nat) :
    (es.foldl restore s).get? id = (s.get? id).or (es.find? (·.id = id)) := by
  induction es generalizing s with
  | nil => exact Option.or_none.symm
  | cons e es ih =>
    rw [List.foldl_cons, ih, get?_restore, Option.or_assoc, Option.filter_some, List.find?_cons]
    by_cases hid : e.id = id
    · simp [hid]
    · simp [hid]

theorem restore_of_isSome {e : ScheduledCommand} (h : (s.get? e.id).isSome) : s.restore e = s := by
  have htaken : s.byId.contains e.id := h
  rw [restore, restore?, if_pos htaken, Option.getD_none]

/-- Once all their ids are taken, no entry is put in any more. -/
theorem foldl_restore_foldl_restore (s : Scheduler) (es : List ScheduledCommand) :
    es.foldl restore (es.foldl restore s) = es.foldl restore s := by
  refine List.foldlRecOn (motive := fun p => p = es.foldl restore s) es _ rfl ?_
  rintro p rfl e he
  refine restore_of_isSome ?_
  rw [get?_foldl_restore, Option.isSome_or, Bool.or_eq_true]
  exact .inr (List.find?_isSome.2 ⟨e, he, decide_eq_true rfl⟩)

/-- The ids of what is pending are looked up in the index by id. -/
theorem Represents.mem_pending_iff {a : Agenda} (h : s.Represents a) {e : ScheduledCommand} :
    e ∈ s.pending ↔ s.get? e.id = some e := by
  rw [h.pending_perm_entries.mem_iff, get?, h.byId, and_iff_left rfl]

end Scheduler

/-! ## Links -/

namespace Links

variable {l : Links} {x y : Chat} {recs : List LinkRecord}

/-- The links with those of a record. -/
def restore (l : Links) (r : LinkRecord) : Links :=
  (r.linked.filter (· ≠ r.chat)).foldl (fun l chat => l.join r.chat chat) l

/-- Whether some records link two chats, in one direction or the other. -/
def Recorded (recs : List LinkRecord) (x y : Chat) : Prop :=
  x ≠ y ∧ ∃ r ∈ recs, r.chat = x ∧ y ∈ r.linked ∨ r.chat = y ∧ x ∈ r.linked

theorem isLinked_foldl_restore (l : Links) (recs : List LinkRecord) (x y : Chat) :
    (recs.foldl restore l).isLinked x y ↔ l.isLinked x y ∨ Recorded recs x y := by
  induction recs generalizing l with
  | nil => simp [Recorded]
  | cons r recs ih =>
    rw [List.foldl_cons, ih, restore, isLinked_foldl_join]
    simp only [Recorded, List.mem_filter, decide_eq_true_eq, List.exists_mem_cons_iff]
    constructor
    · rintro (((⟨rfl, hy, hne⟩ | ⟨rfl, hx, hne⟩) | hl) | ⟨hne, h⟩)
      · exact .inr ⟨Ne.symm hne, .inl (.inl ⟨rfl, hy⟩)⟩
      · exact .inr ⟨hne, .inl (.inr ⟨rfl, hx⟩)⟩
      · exact .inl hl
      · exact .inr ⟨hne, .inr h⟩
    · rintro (hl | ⟨hne, (⟨rfl, hy⟩ | ⟨rfl, hx⟩) | h⟩)
      · exact .inl (.inr hl)
      · exact .inl (.inl (.inl ⟨rfl, hy, Ne.symm hne⟩))
      · exact .inl (.inl (.inr ⟨rfl, hx, hne⟩))
      · exact .inr ⟨hne, h⟩

theorem Filled.foldl_restore (h : l.Filled) (recs : List LinkRecord) :
    (recs.foldl restore l).Filled :=
  List.foldlRecOn recs _ h fun _ hl _ _ => hl.foldl_join _

theorem Filled.foldl_restore_foldl_restore (h : l.Filled) (recs : List LinkRecord) :
    recs.foldl restore (recs.foldl restore l) = recs.foldl restore l := by
  have hfilled := h.foldl_restore recs
  refine ext_isLinked (hfilled.foldl_restore recs) hfilled fun x y => ?_
  rw [isLinked_foldl_restore, isLinked_foldl_restore, or_assoc, or_self]

end Links

namespace Bot

variable {b b' : Bot} {s : Snapshot}

/-! ## Snapshots -/

/-- The records of delimiters that can be such. -/
def usable (rs : List DelimiterRecord) : List DelimiterRecord :=
  rs.filter fun r => Delimiter.fault? r.delimiter = none

theorem foldl_restoreDelimiter_eq (b : Bot) (rs : List DelimiterRecord) :
    rs.foldl restoreDelimiter b = { b with
      delimiters := (usable rs).foldl (fun m r => m.insert r.chat r.delimiter) b.delimiters } := by
  rw [usable, List.foldl_filter]
  refine List.foldl_hom (fun delimiters => { b with delimiters }) fun m r => ?_
  rw [restoreDelimiter]
  cases Delimiter.fault? r.delimiter with
  | none => rfl
  | some e => rfl

theorem restoreAlias_eq (b : Bot) (rec : AliasRecord) :
    b.restoreAlias rec = { b with registry := b.registry.restoreAlias rec } := by
  rw [restoreAlias, Registry.restoreAlias, Registry.recorded?]
  cases b.registry.command? rec.protocol rec.command with
  | none => rfl
  | some c =>
    have hadd : b.registry.addAlias? ⟨rec.scope, rec.name, c, rec.args⟩ =
        b.registry.add? (.alias (Alias.mk rec.scope rec.name c rec.args).normalized) := rfl
    simp only [Option.bind_eq_bind, Option.bind_some, Option.map_some, hadd]
    split
    next h => rw [h, Option.getD_some]
    next h => rw [h, Option.getD_none]

theorem foldl_restoreScheduled_eq (b : Bot) (es : List ScheduledCommand) :
    es.foldl restoreScheduled b = { b with
      scheduler := es.foldl Scheduler.restore b.scheduler } :=
  List.foldl_hom (fun scheduler => { b with scheduler }) fun _ _ => rfl

/-- Each section of a snapshot goes into its own part of the bot. -/
theorem restoreSnapshot_eq (b : Bot) (s : Snapshot) : b.restoreSnapshot s = { b with
    delimiters := (usable s.delimiters).foldl (fun m r => m.insert r.chat r.delimiter) b.delimiters
    registry := s.aliases.foldl Registry.restoreAlias b.registry
    scheduler := s.scheduled.foldl Scheduler.restore b.scheduler
    links := s.links.foldl Links.restore b.links
    timers := s.timers.foldl (fun m r => m.insert r.name r.started) b.timers } := by
  have haliases (p : Bot) : s.aliases.foldl restoreAlias p = { p with
      registry := s.aliases.foldl Registry.restoreAlias p.registry } :=
    List.foldl_hom (fun registry => { p with registry }) fun _ rec => restoreAlias_eq _ rec
  have hlinks (p : Bot) : s.links.foldl restoreLinks p = { p with
      links := s.links.foldl Links.restore p.links } :=
    List.foldl_hom (fun links => { p with links }) fun _ _ => rfl
  have htimers (p : Bot) : s.timers.foldl restoreTimer p = { p with
      timers := s.timers.foldl (fun m r => m.insert r.name r.started) p.timers } :=
    List.foldl_hom (fun timers => { p with timers }) fun _ _ => rfl
  rw [restoreSnapshot, foldl_restoreDelimiter_eq, haliases, foldl_restoreScheduled_eq, hlinks,
    htimers]

theorem restoreSnapshot_restoreSnapshot (h : b.Sound) (s : Snapshot) :
    (b.restoreSnapshot s).restoreSnapshot s = b.restoreSnapshot s := by
  rw [restoreSnapshot_eq, restoreSnapshot_eq]
  simp only [OrderedMap.foldl_insert_foldl_insert,
    Registry.foldl_restoreAlias_foldl_restoreAlias, Scheduler.foldl_restore_foldl_restore,
    h.links.filled.foldl_restore_foldl_restore]

/-- What a bot has after a snapshot was restored into it. -/
structure Recovered (b : Bot) (s : Snapshot) (b' : Bot) : Prop where
  /-- Of the records with a delimiter that can be one, the last one of a chat counts. -/
  delimiters : ∀ chat, b'.delimiters.get? chat =
    (((usable s.delimiters).reverse.find? (·.chat = chat)).map (·.delimiter)).or
      (b.delimiters.get? chat)
  valid : ∀ chat delimiter, b'.delimiters.get? chat = some delimiter →
    Delimiter.fault? delimiter = none
  commands : b'.registry.commandTable = b.registry.commandTable
  /-- An alias stays; where there is none, the first record counts whose command is registered. -/
  aliases : ∀ scope name, b'.registry.aliasTable.get? scope name =
    (b.registry.aliasTable.get? scope name).or
      ((s.aliases.filterMap b.registry.recorded?).find? fun a => a.scope = scope ∧ a.name = name)
  bound : ∀ a ∈ b'.registry.aliases, a ∈ b.registry.aliases ∨
    ∃ rec ∈ s.aliases, ∃ c, b'.registry.command? rec.protocol rec.command = some c ∧
      a = (Alias.mk rec.scope rec.name c rec.args).normalized
  /-- No id is pending twice. -/
  nodup : (b'.scheduler.pending.map (·.id)).Nodup
  pending : ∀ e, e ∈ b'.scheduler.pending ↔ b'.scheduler.get? e.id = some e
  /-- An entry stays; where there is none of an id, the first record counts. -/
  scheduled : ∀ id, b'.scheduler.get? id =
    (b.scheduler.get? id).or (s.scheduled.find? (·.id = id))
  links : ∀ x y, y ∈ b'.links.linkedWith x ↔
    y ∈ b.links.linkedWith x ∨ Links.Recorded s.links x y
  /-- The last record of a timer counts. -/
  timers : ∀ name, b'.timers.get? name =
    ((s.timers.reverse.find? (·.name = name)).map (·.started)).or (b.timers.get? name)
  /-- Nothing else changes. -/
  others : b' = { b with
    delimiters := b'.delimiters, registry := b'.registry, scheduler := b'.scheduler,
    links := b'.links, timers := b'.timers }

theorem recovered_restoreSnapshot (h : b.Sound) (s : Snapshot) :
    b.Recovered s (b.restoreSnapshot s) := by
  have hsound := h.restoreSnapshot s
  obtain ⟨a, hrep⟩ := hsound.represents
  have hvalid := hsound.delimiters
  have hnodup := hrep.nodup_pending
  have hpending := fun e => hrep.mem_pending_iff (e := e)
  rw [restoreSnapshot_eq] at hvalid hnodup hpending ⊢
  refine {
    delimiters := fun chat => OrderedMap.get?_foldl_insert _ _ _ _ chat
    valid := hvalid
    commands := Registry.commandTable_foldl_restoreAlias _ _
    aliases := Registry.get?_foldl_restoreAlias _ _
    bound := fun a ha => ?_
    nodup := hnodup
    pending := hpending
    scheduled := Scheduler.get?_foldl_restore _ _
    links := fun x y => ?_
    timers := fun name => OrderedMap.get?_foldl_insert _ _ _ _ name
    others := rfl }
  · have hget := Registry.get?_aliasTable_eq_some_iff.2 ⟨ha, rfl, rfl⟩
    rw [Registry.get?_foldl_restoreAlias, Option.or_eq_some_iff] at hget
    rcases hget with hold | ⟨-, hnew⟩
    · exact .inl (Registry.get?_aliasTable_eq_some_iff.1 hold).1
    · obtain ⟨rec, hrec, hrecorded⟩ := List.mem_filterMap.1 (List.mem_of_find?_eq_some hnew)
      obtain ⟨c, hc, rfl⟩ := Option.map_eq_some_iff.1 hrecorded
      refine .inr ⟨rec, hrec, c, ?_, rfl⟩
      rwa [Registry.command?, Registry.commandTable_foldl_restoreAlias]
  · rw [Links.mem_linkedWith_iff, Links.mem_linkedWith_iff]
    exact Links.isLinked_foldl_restore _ _ x y

/-- **Anything stored can be restored, and once is enough.** If the store cannot be read, its error
is the outcome and the bot stays as it is. Whatever snapshot it holds otherwise, the bot recovers
what can be recovered of it, and to restore it again leaves the whole bot as it is then. -/
theorem restore_tolerates_stored (h : Reachable b) :
    (∀ e, b.store.load = .error e → b.restore = .error e ∧ b.perform (.restore b.store) = b) ∧
    ∀ s, b.store.load = .ok s →
      ∃ b', b.restore = .ok b' ∧ b.Recovered s b' ∧ b'.restore = .ok b' := by
  refine ⟨fun e he => ?_, fun s hs => ?_⟩
  · have herror : b.restore = .error e := by
      rw [restore, he]
      rfl
    refine ⟨herror, ?_⟩
    rw [perform, show ({ b with store := b.store } : Bot) = b from rfl, herror]
  · have hrestored := recovered_restoreSnapshot h.sound s
    have hstore : (b.restoreSnapshot s).store = b.store := by rw [restoreSnapshot_eq]
    refine ⟨b.restoreSnapshot s, ?_, hrestored, ?_⟩
    · rw [restore, hs]
      rfl
    · rw [restore, hstore, hs]
      exact congrArg Except.ok (restoreSnapshot_restoreSnapshot h.sound s)

theorem restore_tolerates_stored_mixed :
    let x : Chat := ⟨⟨"Console"⟩, "x"⟩
    let hi (name command : String) : AliasRecord := ⟨.chat x, name, .universal, command, [command]⟩
    let due (command : String) : ScheduledCommand := ⟨3, .epoch, x, default, command, []⟩
    let stored : Snapshot := ⟨[⟨x, "?"⟩, ⟨x, "a b"⟩],
      [hi "hi" "gone", hi "Hi" "ECHO", hi "hi" "echo"], [due "a", due "b"], [⟨x, [x]⟩], []⟩
    let b := perform (.new .standard (.ofMedium (.memory stored)))
      (.addCommand Builtin.echo.toCommand)
    ∃ b', b.restore = .ok b' ∧ b'.restore = .ok b' ∧ b'.delimiters.get? x = some "?" ∧
      (b'.registry.aliasTable.get? (.chat x) "hi").map (·.args) = some ["ECHO"] ∧
      b'.scheduler.get? 3 = some (due "a") ∧ x ∉ b'.links.linkedWith x := by
  intro x hi due stored b
  have hb : Reachable b := (Reachable.new _ _).step _
  obtain ⟨b', hb', hrecovered, hagain⟩ := (restore_tolerates_stored hb).2 stored rfl
  refine ⟨b', hb', hagain, (hrecovered.delimiters x).trans (by decide), ?_,
    (hrecovered.scheduled 3).trans (by decide), ?_⟩
  · rw [hrecovered.aliases]
    decide
  · rw [hrecovered.links, not_or]
    exact ⟨by decide, fun hself => hself.1 rfl⟩

end Bot

end ChatBot
