import ChatBot.Proofs.Registry.Bound

/-!
# Lists of what is registered

Lists of entries are in the order of help, in which every entry has its own place. What help lists
for a chat is what names stand for there (`Registry.help_shows_resolved`).
-/

namespace ChatBot

open Text

namespace Registry

variable {r : Registry} {e : Entry} {a : Alias} {name : String} {chat : Chat} {scope : Scope}
  {server : Option Server}

/-! ## Order -/

theorem entries_ascending (r : Registry) :
    r.entries.Pairwise fun e f => compare e.key f.key = .lt := by
  refine List.pairwise_map.2 (r.index.ascending.imp_of_mem fun ha hb h => ?_)
  rwa [r.keyed _ ha, r.keyed _ hb] at h

theorem commands_ascending (r : Registry) :
    r.commands.Pairwise fun c d => compare (Entry.command c).key (Entry.command d).key = .lt := by
  refine r.entries_ascending.filterMap _ fun e f h c hc d hd => ?_
  cases e with
  | «alias» => contradiction
  | command =>
    cases f with
    | «alias» => contradiction
    | command =>
      cases hc
      cases hd
      exact h

theorem aliases_ascending (r : Registry) :
    r.aliases.Pairwise fun a b => compare (Entry.alias a).key (Entry.alias b).key = .lt := by
  refine r.entries_ascending.filterMap _ fun e f h a ha b hb => ?_
  cases e with
  | command => contradiction
  | «alias» =>
    cases f with
    | command => contradiction
    | «alias» =>
      cases ha
      cases hb
      exact h

/-- The aliases of a scope are in the order of their names. -/
theorem aliasesIn_ascending (r : Registry) (scope : Scope) :
    (r.aliasesIn scope).Pairwise fun a b => compare a.name b.name = .lt := by
  have hname : ∀ b ∈ (r.aliasTable.row scope).bindings, b.2.name = b.1 := by
    intro b hb
    have hget := OrderedMap.get?_eq_some_iff.2 hb
    rw [Table.get?_row] at hget
    exact (get?_aliasTable_eq_some_iff.1 hget).2.2
  refine List.pairwise_map.2 ((r.aliasTable.row scope).ascending.imp_of_mem fun ha hb h => ?_)
  rwa [hname _ ha, hname _ hb]

/-! ## Help -/

/-- Help lists the entries that their own names stand for. -/
theorem mem_help_iff : e ∈ r.help chat server ↔ r.resolve e.name chat server = .ok e := by
  rw [help, List.mem_filter, resolve_eq_ok_iff, Option.any_eq_true]
  constructor
  · rintro ⟨he, found, hfound, hkey⟩
    have hmem := mem_entries_iff.1 (entry_of_find? hfound).1
    rw [of_decide_eq_true hkey, mem_entries_iff.1 he] at hmem
    rw [hfound, hmem]
  · intro h
    exact ⟨(entry_of_find? h).1, e, h, decide_eq_true rfl⟩

theorem help_ascending (r : Registry) (chat : Chat) (server : Option Server) :
    (r.help chat server).Pairwise fun e f => compare e.key f.key = .lt :=
  r.entries_ascending.filter _

theorem help_nodup (r : Registry) (chat : Chat) (server : Option Server) :
    (r.help chat server).Nodup := by
  refine (r.help_ascending chat server).imp fun {e f} h => ?_
  rintro rfl
  rw [Std.ReflOrd.compare_self] at h
  contradiction

/-- No two entries of help have the same name. -/
theorem eq_of_mem_help {f : Entry} (he : e ∈ r.help chat server) (hf : f ∈ r.help chat server)
    (hname : e.name = f.name) : e = f := by
  have hresolve := mem_help_iff.1 he
  rw [hname, mem_help_iff.1 hf] at hresolve
  exact (Except.ok.inj hresolve).symm

/-- **Help shows what names run.** For each lowercase name that stands for something in a chat, help
lists exactly one entry of that name, which is what the name stands for. Every entry that is listed
is what its own name stands for, so none is shadowed. No name comes twice, and the entries are in
the order of protocol, name and scope. -/
theorem help_shows_resolved (r : Registry) (chat : Chat) (server : Option Server) :
    (∀ name e, lowercase name = name → r.resolve name chat server = .ok e →
      (r.help chat server).filter (·.name = name) = [e]) ∧
    (∀ e ∈ r.help chat server,
      lowercase e.name = e.name ∧ r.resolve e.name chat server = .ok e) ∧
    ((r.help chat server).map (·.name)).Nodup ∧
    (r.help chat server).Pairwise fun e f => compare e.key f.key = .lt := by
  refine ⟨fun name e hlower h => ?_, fun e he => ?_, ?_, r.help_ascending chat server⟩
  · have hname : e.name = name := (entry_of_find? (resolve_eq_ok_iff.1 h)).2.trans hlower
    have he : e ∈ r.help chat server := mem_help_iff.2 (hname.symm ▸ h)
    have hperm : ((r.help chat server).filter (·.name = name)).Perm [e] := by
      refine (List.perm_ext_iff_of_nodup ((r.help_nodup chat server).filter _)
        (List.nodup_singleton e)).2 fun f => ?_
      rw [List.mem_filter, List.mem_singleton, decide_eq_true_eq]
      constructor
      · rintro ⟨hf, hfname⟩
        exact eq_of_mem_help hf he (hfname.trans hname.symm)
      · rintro rfl
        exact ⟨he, hname⟩
    exact List.perm_singleton.1 hperm
  · have h := mem_help_iff.1 he
    exact ⟨(entry_of_find? (resolve_eq_ok_iff.1 h)).2.symm, h⟩
  · exact (r.help_nodup chat server).map_on fun e he f hf hname => eq_of_mem_help he hf hname

end Registry

end ChatBot
