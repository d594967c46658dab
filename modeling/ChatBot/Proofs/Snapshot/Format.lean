import Mathlib
import ChatBot.Proofs.Json.RoundTrip
import ChatBot.Proofs.Time.Timestamp
import ChatBot.Snapshot.Format

/-!
# Snapshots that are written and read

Each record is read from the object that is written for it, so a snapshot is read from the text that
it is stored as (`Snapshot.read?_write`). Only the numbers of scheduled commands have a bound.
-/

namespace ChatBot

open Text

namespace Json

/-! ## Fields -/

theorem natural?_natural {n : Nat} (h : n < 2 ^ 64) : natural? (.natural n) = some n := if_pos h

/-- What is written for each item of a list is read as the list. -/
theorem list?_map {read : Json → Option α} {write : α → Json} {l : List α}
    (h : ∀ a ∈ l, read (write a) = some a) : list? read (.array (l.map write)) = some l := by
  induction l with
  | nil => rfl
  | cons a l ih =>
    obtain ⟨ha, hl⟩ := List.forall_mem_cons.1 h
    have hrest : (l.map write).mapM read = some l := ih hl
    rw [list?, List.map_cons, List.mapM_cons, ha, hrest]
    rfl

/-- No name is given to two fields, so none is found twice. -/
theorem length_filter_zip_le_one {names : List String} (hnames : names.Nodup) {values : List Json}
    (hlength : names.length = values.length) (name : String) :
    ((names.zip values).filter (·.1 = name)).length ≤ 1 := by
  have hcount : ((names.zip values).filter (·.1 = name)).length =
      ((names.zip values).map Prod.fst).count name := by
    rw [List.count, List.countP_map, List.countP_eq_length_filter]
    rfl
  rw [hcount, List.map_fst_zip (Nat.le_of_eq hlength)]
  exact List.nodup_iff_count_le_one.1 hnames name

theorem map_lookup_zip {names : List String} (hnames : names.Nodup) {values : List Json}
    (hlength : names.length = values.length) :
    names.map (List.lookup · (names.zip values)) = values.map some := by
  induction names generalizing values with
  | nil => rw [List.length_eq_zero_iff.1 hlength.symm, List.map_nil, List.map_nil]
  | cons name names ih =>
    obtain ⟨hnew, hnames⟩ := List.nodup_cons.1 hnames
    cases values with
    | nil => cases hlength
    | cons value values =>
      have hrest : names.map (List.lookup · ((name, value) :: names.zip values)) =
          names.map (List.lookup · (names.zip values)) := by
        refine List.map_congr_left fun other hother => ?_
        have hne : (other == name) = false := beq_false_of_ne fun h => hnew (h ▸ hother)
        rw [List.lookup_cons, hne]
      rw [List.zip_cons_cons, List.map_cons, List.map_cons, List.lookup_cons_self, hrest,
        ih hnames (Nat.succ.inj hlength)]

/-- The values of a record are found under the names that they are written with. -/
theorem fields?_zip {names : List String} (hnames : names.Nodup) (values : List Json)
    (hlength : names.length = values.length) :
    fields? names (.object (names.zip values)) = some (values.map some) := by
  rw [fields?, if_pos, map_lookup_zip hnames hlength]
  exact List.all_eq_true.2 fun name _ =>
    decide_eq_true (length_filter_zip_le_one hnames hlength name)

theorem list?_textsJson (texts : List String) : (textsJson texts).list? text? = some texts :=
  list?_map fun _ _ => rfl

end Json

open Json

/-! ## Records -/

theorem identity?_identityJson (make : Protocol → String → α) (protocol : Protocol)
    (name : String) : identity? make (identityJson protocol name) = some (make protocol name) := by
  have hfields : (identityJson protocol name).fields? ["protocol", "name"] =
      some [some (.string protocol.name), some (.string name)] :=
    fields?_zip (by decide : ["protocol", "name"].Nodup)
      [.string protocol.name, .string name] rfl
  rw [identity?, hfields]
  rfl

@[simp] theorem Chat.ofJson?_toJson (c : Chat) : Chat.ofJson? c.toJson = some c :=
  identity?_identityJson Chat.mk c.protocol c.name

@[simp] theorem User.ofJson?_toJson (u : User) : User.ofJson? u.toJson = some u :=
  identity?_identityJson User.mk u.protocol u.name

theorem Server.ofJson?_toJson (s : Server) : Server.ofJson? s.toJson = some s :=
  identity?_identityJson Server.mk s.protocol s.name

@[simp] theorem Scope.ofJson?_toJson (s : Scope) : Scope.ofJson? s.toJson = some s := by
  cases s with
  | chat c => rw [toJson, ofJson?, if_pos rfl, Chat.ofJson?_toJson, Option.map_some]
  | server s =>
    rw [toJson, ofJson?, if_neg (by decide), if_pos rfl, Server.ofJson?_toJson, Option.map_some]

@[simp] theorem Instant.ofJson?_toJson (t : Instant) : Instant.ofJson? t.toJson = some t := by
  rw [ofJson?, toJson, text?, Option.bind_eq_bind, Option.bind_some, String.toList_ofList,
    Timestamp.read?_write]

theorem DelimiterRecord.ofJson?_toJson (r : DelimiterRecord) : ofJson? r.toJson = some r := by
  have hfields : r.toJson.fields? fieldNames = some _ := fields?_zip (by decide) _ rfl
  rw [ofJson?, hfields]
  simp [text?]

theorem AliasRecord.ofJson?_toJson (r : AliasRecord) : ofJson? r.toJson = some r := by
  have hfields : r.toJson.fields? fieldNames = some _ := fields?_zip (by decide) _ rfl
  rw [ofJson?, hfields]
  simp [text?, list?_textsJson]

theorem ScheduledCommand.ofJson?_toJson {e : ScheduledCommand} (h : e.id < 2 ^ 64) :
    ofJson? e.toJson = some e := by
  have hfields : e.toJson.fields? fieldNames = some _ := fields?_zip (by decide) _ rfl
  rw [ofJson?, hfields]
  simp [text?, natural?_natural h, list?_textsJson]

theorem LinkRecord.ofJson?_toJson (r : LinkRecord) : ofJson? r.toJson = some r := by
  have hfields : r.toJson.fields? fieldNames = some _ := fields?_zip (by decide) _ rfl
  have hlinked := list?_map (l := r.linked) fun c _ => Chat.ofJson?_toJson c
  rw [ofJson?, hfields]
  simp [hlinked]

theorem TimerRecord.ofJson?_toJson (r : TimerRecord) : ofJson? r.toJson = some r := by
  have hfields : r.toJson.fields? fieldNames = some _ := fields?_zip (by decide) _ rfl
  rw [ofJson?, hfields]
  simp [text?]

/-! ## Snapshots -/

namespace Snapshot

theorem ofJson?_toJson {s : Snapshot} (h : ∀ e ∈ s.scheduled, e.id < 2 ^ 64) :
    ofJson? s.toJson = some s := by
  have hfields : s.toJson.fields? fieldNames = some _ := fields?_zip (by decide) _ rfl
  have hdelimiters := list?_map (l := s.delimiters) fun r _ => r.ofJson?_toJson
  have haliases := list?_map (l := s.aliases) fun r _ => r.ofJson?_toJson
  have hscheduled := list?_map (l := s.scheduled) fun e he => e.ofJson?_toJson (h e he)
  have hlinks := list?_map (l := s.links) fun r _ => r.ofJson?_toJson
  have htimers := list?_map (l := s.timers) fun r _ => r.ofJson?_toJson
  rw [ofJson?, hfields]
  simp [records?, hdelimiters, haliases, hscheduled, hlinks, htimers]

/-- **A snapshot is read from the text that is stored for it.** -/
theorem read?_write {s : Snapshot} (h : ∀ e ∈ s.scheduled, e.id < 2 ^ 64) :
    read? (Source.ofText s.write) = some s := by
  rw [read?, write, Source.ofText, String.toList_ofList, Json.read?_write, Option.bind_eq_bind,
    Option.bind_some, ofJson?_toJson h]

end Snapshot

end ChatBot
