import ChatBot.Proofs.Bot.Soundness

/-!
# Restoring

Whatever is stored, what is restored of it leaves a sound bot sound. Of the snapshot of a sound bot
all is restored: a bot that has nothing yet but commands becomes a bot with the same snapshot.
-/

namespace ChatBot

/-! ## Links -/

namespace Links

variable {l : Links} {x a b : Chat}

theorem isLinked_foldl_join (ys : List Chat) : (ys.foldl (fun l y => l.join x y) l).isLinked a b ↔
    (a = x ∧ b ∈ ys ∨ b = x ∧ a ∈ ys) ∨ l.isLinked a b := by
  induction ys generalizing l with
  | nil => simp
  | cons y ys ih =>
    rw [List.foldl_cons, ih, isLinked_join, List.mem_cons, List.mem_cons]
    tauto

theorem Filled.foldl_join (h : l.Filled) (ys : List Chat) :
    (ys.foldl (fun l y => l.join x y) l).Filled :=
  List.foldlRecOn ys _ h fun _ hl y _ => (hl.add x y).add y x

theorem Mutual.foldl_join (h : l.Mutual) {ys : List Chat} (hys : ∀ y ∈ ys, x ≠ y) :
    (ys.foldl (fun l y => l.join x y) l).Mutual :=
  List.foldlRecOn ys _ h fun _ hl y hy => hl.join (hys y hy)

end Links

namespace Bot

variable {b f : Bot}

/-! ## Anything stored -/

namespace Sound

theorem restoreDelimiter (h : b.Sound) (r : DelimiterRecord) : (b.restoreDelimiter r).Sound := by
  unfold Bot.restoreDelimiter
  split
  next => exact h
  next hd => exact h.insertDelimiter r.chat hd

theorem restoreAlias (h : b.Sound) (r : AliasRecord) : (b.restoreAlias r).Sound := by
  unfold Bot.restoreAlias
  dsimp only
  split
  next registry heq =>
    obtain ⟨command, hcommand, hadd⟩ := Option.bind_eq_some_iff.1 heq
    have hmem := (Registry.command?_eq_some_iff.1 hcommand).1
    exact { h with registry := h.registry.addAlias hmem hadd }
  next => exact h

theorem restoreScheduled (h : b.Sound) (e : ScheduledCommand) : (b.restoreScheduled e).Sound := by
  have hsound := h.scheduled (.restore e)
  rw [Scheduler.perform] at hsound
  unfold Bot.restoreScheduled
  cases hrestore : b.scheduler.restore? e with
  | none => exact h
  | some s => rwa [hrestore] at hsound

theorem restoreLinks (h : b.Sound) (r : LinkRecord) : (b.restoreLinks r).Sound := by
  refine { h with links := h.links.foldl_join fun y hy => ?_ }
  exact (of_decide_eq_true (List.mem_filter.1 hy).2).symm

/-- Whatever is restored, the bot stays sound. -/
theorem restoreSnapshot (h : b.Sound) (s : Snapshot) : (b.restoreSnapshot s).Sound := by
  have hdelimiters := List.foldlRecOn s.delimiters _ h fun _ h r _ => h.restoreDelimiter r
  have haliases := List.foldlRecOn s.aliases _ hdelimiters fun _ h r _ => h.restoreAlias r
  have hscheduled := List.foldlRecOn s.scheduled _ haliases fun _ h r _ => h.restoreScheduled r
  have hlinks := List.foldlRecOn s.links _ hscheduled fun _ h r _ => h.restoreLinks r
  exact List.foldlRecOn s.timers _ hlinks fun _ h r _ => { h with }

end Sound

/-! ## A snapshot of a bot -/

/-- Nothing was set, linked, timed, scheduled or named in a fresh bot. -/
structure Fresh (f : Bot) : Prop where
  delimiters : f.delimiters = .empty
  aliases : f.registry.aliases = []
  scheduler : f.scheduler = .empty
  links : f.links = .empty
  timers : f.timers = .empty

theorem fresh_new (config : Config) (store : Store) : (new config store).Fresh :=
  ⟨rfl, rfl, rfl, rfl, rfl⟩

/-- Commands are registered before anything is restored. -/
theorem Fresh.addCommand {f' : Bot} {c : Command} (h : f.Fresh)
    (hadd : f.addCommand? c = some f') : f'.Fresh := by
  obtain ⟨registry, hregistry, rfl⟩ := Option.map_eq_some_iff.1 hadd
  exact { h with aliases := (Registry.aliases_of_addCommand? hregistry).trans h.aliases }

theorem foldl_restoreDelimiter (h : b.Sound) (hf : f.delimiters = .empty) :
    b.snapshot.delimiters.foldl restoreDelimiter f = { f with delimiters := b.delimiters } := by
  rw [snapshot, List.foldl_map]
  have hfold := foldl_induction (f := fun g p => restoreDelimiter g ⟨p.1, p.2⟩) (b := f)
    (l := b.delimiters.bindings) (I := fun done g =>
      g = { f with delimiters := done.foldl (fun m p => m.insert p.1 p.2) .empty }) ?_ ?_
  · rwa [OrderedMap.foldl_insert_bindings] at hfold
  · rw [List.foldl_nil, ← hf]
  · rintro done ⟨chat, delimiter⟩ rest g hl rfl
    have hget : b.delimiters.get? chat = some delimiter :=
      OrderedMap.get?_eq_some_iff.2 (hl ▸ by simp)
    rw [restoreDelimiter, h.delimiters chat delimiter hget, List.foldl_append]
    rfl

theorem foldl_restoreAlias (h : b.Sound) (hcommands : f.registry.commands = b.registry.commands)
    (hf : f.registry.aliases = []) :
    b.snapshot.aliases.foldl restoreAlias f = { f with registry := b.registry } := by
  rw [snapshot, List.foldl_map]
  have hfold := foldl_induction (f := fun g a => restoreAlias g (aliasRecord a)) (b := f)
    (l := b.registry.aliases) (I := fun done g => ∃ r, g = { f with registry := r } ∧
      (∀ c, c ∈ r.commands ↔ c ∈ b.registry.commands) ∧ ∀ a, a ∈ r.aliases ↔ a ∈ done) ?_ ?_
  · obtain ⟨r, hr, hcs, has⟩ := hfold
    rw [hr, Registry.ext_mem hcs has]
  · exact ⟨f.registry, rfl, by simp [hcommands], by simp [hf]⟩
  · rintro done a rest g hl ⟨r, rfl, hcs, has⟩
    have ha : a ∈ b.registry.aliases := hl ▸ by simp
    have hcommand : r.command? a.command.protocol a.command.name = some a.command := by
      rw [Registry.command?_eq_some_iff, hcs]
      have hmem := h.registry.registered a ha
      exact ⟨hmem, rfl, (h.registry.lowered _ hmem).symm⟩
    simp only [restoreAlias, aliasRecord, hcommand, Option.bind_eq_bind, Option.bind_some]
    split
    next r' hadd =>
      refine ⟨r', rfl, fun c => ?_, fun x => ?_⟩
      · rw [Registry.mem_commands_of_addAlias? hadd, hcs]
      · rw [Registry.mem_aliases_of_addAlias? hadd, h.registry.normalized a ha, has]
        simp [or_comm]
    next hnone =>
      -- The name is only taken by the alias itself.
      refine ⟨r, rfl, hcs, fun x => ?_⟩
      rw [has, List.mem_append, List.mem_singleton, iff_self_or]
      rintro rfl
      obtain ⟨x', hx', hscope, hname⟩ := Registry.exists_of_addAlias?_eq_none hnone
      rw [has] at hx'
      have hold : x' ∈ b.registry.aliases := hl ▸ List.mem_append_left _ hx'
      have hx : x.normalized = x := h.registry.normalized x ha
      rw [show (Alias.mk x.scope x.name x.command x.args) = x from rfl, hx] at hscope hname
      rwa [← Registry.eq_of_mem_aliases hold ha hscope hname]

theorem foldl_restoreScheduled {entries : List ScheduledCommand}
    (hids : (entries.map (·.id)).Nodup) (hf : f.scheduler = .empty) :
    ∃ s, entries.foldl restoreScheduled f = { f with scheduler := s } ∧
      s.Represents ⟨entries, []⟩ := by
  refine foldl_induction (I := fun done g => ∃ s, g = { f with scheduler := s } ∧
    s.Represents ⟨done, []⟩) ?_ ?_
  · exact ⟨_, rfl, hf ▸ Scheduler.represents_empty⟩
  · rintro done e rest g rfl ⟨s, rfl, hs⟩
    have he : e.id ∉ Agenda.ids ⟨done, []⟩ := by
      rw [List.map_append, List.map_cons, List.nodup_middle, List.nodup_cons] at hids
      exact fun hmem => hids.1 (List.mem_append_left _ hmem)
    refine ⟨s.index e, ?_, hs.index he⟩
    simp only [restoreScheduled, Scheduler.restore?, if_neg (mt hs.contains_iff.1 he)]
    rfl

theorem foldl_restoreLinks (h : b.links.Mutual) (hf : f.links = .empty) :
    b.snapshot.links.foldl restoreLinks f = { f with links := b.links } := by
  rw [snapshot, List.foldl_map]
  have hfold := foldl_induction (f := fun g p => restoreLinks g ⟨p.1, p.2⟩) (b := f)
    (l := b.links.groups) (I := fun done g => ∃ l, g = { f with links := l } ∧ l.Filled ∧
      ∀ x y, l.isLinked x y ↔
        (∃ p ∈ done, p.1 = x ∧ y ∈ p.2) ∨ ∃ p ∈ done, p.1 = y ∧ x ∈ p.2) ?_ ?_
  · obtain ⟨l, hl, hfilled, hlinks⟩ := hfold
    have heq : l = b.links := Links.ext_isLinked hfilled h.filled fun x y => by
      rw [hlinks, ← Links.isLinked_iff_mem_groups, ← Links.isLinked_iff_mem_groups]
      exact or_iff_left_of_imp (h.symm y x)
    rw [heq] at hl
    exact hl
  · refine ⟨f.links, rfl, ?_⟩
    rw [hf]
    exact ⟨Links.mutual_empty.filled, fun _ _ => ⟨nofun, nofun⟩⟩
  · rintro done ⟨chat, linked⟩ rest g hgroups ⟨l, rfl, hfilled, hl⟩
    refine ⟨_, rfl, hfilled.foldl_join _, fun x y => ?_⟩
    have hlinked : linked.filter (· ≠ chat) = linked := by
      refine List.filter_eq_self.2 fun y hy => decide_eq_true ?_
      rintro rfl
      have hgroup : (y, linked) ∈ b.links.groups := hgroups ▸ by simp
      exact h.irrefl y (Links.isLinked_iff_mem_groups.2 ⟨_, hgroup, rfl, hy⟩)
    dsimp only
    rw [hlinked, Links.isLinked_foldl_join, hl]
    simp only [List.mem_append, List.mem_singleton, or_and_right, exists_or, exists_eq_left,
      @eq_comm _ _ chat]
    rw [or_or_or_comm, or_comm (b := ∃ p ∈ done, p.1 = x ∧ y ∈ p.2),
      or_comm (b := ∃ p ∈ done, p.1 = y ∧ x ∈ p.2)]

theorem foldl_restoreTimer (hf : f.timers = .empty) :
    b.snapshot.timers.foldl restoreTimer f = { f with timers := b.timers } := by
  rw [snapshot, List.foldl_map]
  have hfold := foldl_induction (f := fun g p => restoreTimer g ⟨p.1, p.2⟩) (b := f)
    (l := b.timers.bindings) (I := fun done g =>
      g = { f with timers := done.foldl (fun m p => m.insert p.1 p.2) .empty }) ?_ ?_
  · rwa [OrderedMap.foldl_insert_bindings] at hfold
  · rw [List.foldl_nil, ← hf]
  · rintro done ⟨name, started⟩ rest g - rfl
    rw [restoreTimer, List.foldl_append]
    rfl

end Bot

end ChatBot
