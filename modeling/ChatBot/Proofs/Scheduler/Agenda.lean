import ChatBot.Proofs.Scheduler.StableSort
import ChatBot.Proofs.Time.Order
import ChatBot.Scheduler

/-!
# The scheduler as a plain list

An agenda is the list of the pending entries in the order in which they came. What a scheduler
answers to its calls is said here on that list alone, without any index. No call loses an entry or
hands one out twice (`Agenda.run_perm`).
-/

namespace ChatBot

namespace Scheduler

/-! ## Calls -/

/-- A call that may change a scheduler. -/
inductive Call
  | insert (chat : Chat) (sender : User) (command : String) (args : List String) (time : Instant)
  | restore (e : ScheduledCommand)
  | remove (id : Nat)
  | addTask (t : Task)
  | takeDue (now : Instant) (lateness : Elapsed)

/-- What a call gives back. -/
inductive Answer
  | inserted (e : ScheduledCommand)
  | restored (done : Bool)
  | removed (found : Option ScheduledCommand)
  | taskAdded
  | due (work : DueWork)

/-- Makes a call of a scheduler. -/
def perform (s : Scheduler) : Call → Answer × Scheduler
  | .insert chat sender command args time =>
    let (e, s) := s.insert chat sender command args time
    (.inserted e, s)
  | .restore e =>
    match s.restore? e with
    | some s => (.restored true, s)
    | none => (.restored false, s)
  | .remove id =>
    match s.remove? id with
    | some (e, s) => (.removed (some e), s)
    | none => (.removed none, s)
  | .addTask t => (.taskAdded, s.addTask t)
  | .takeDue now lateness =>
    let (work, s) := s.takeDue now lateness
    (.due work, s)

/-- Makes one call after the other. -/
def runCalls (perform : σ → Call → Answer × σ) (s : σ) : List Call → List Answer × σ
  | [] => ([], s)
  | c :: cs =>
    let (answer, s) := perform s c
    let (answers, s) := runCalls perform s cs
    (answer :: answers, s)

/-- What one call keeps is kept by all. -/
theorem runCalls_simulates {R : σ → τ → Prop} {f : σ → Call → Answer × σ}
    {g : τ → Call → Answer × τ}
    (hstep : ∀ s t c, R s t → (f s c).1 = (g t c).1 ∧ R (f s c).2 (g t c).2) (h : R s t)
    (cs : List Call) :
    (runCalls f s cs).1 = (runCalls g t cs).1 ∧ R (runCalls f s cs).2 (runCalls g t cs).2 := by
  induction cs generalizing s t with
  | nil => exact ⟨rfl, h⟩
  | cons c cs ih =>
    obtain ⟨hanswer, hnext⟩ := hstep s t c h
    obtain ⟨hanswers, hlast⟩ := ih hnext
    exact ⟨congrArg₂ List.cons hanswer hanswers, hlast⟩

/-- The entries that a call puts in. -/
def Call.added : Call → Answer → List ScheduledCommand
  | _, .inserted e => [e]
  | .restore e, .restored true => [e]
  | _, _ => []

/-- The entries that a call hands out. -/
def Answer.handedOut : Answer → List ScheduledCommand
  | .removed (some e) => [e]
  | .due work => work.fire ++ work.missed
  | _ => []

end Scheduler

/-! ## Agendas -/

open Scheduler (Call Answer runCalls)

/-- The pending entries in the order in which they came, and the tasks that wait. -/
structure Agenda where
  entries : List ScheduledCommand
  tasks : List Task

namespace Agenda

def empty : Agenda := ⟨[], []⟩

def ids (a : Agenda) : List Nat := a.entries.map (·.id)

theorem exists_notMem (ids : List Nat) : ∃ id, id ∉ ids := by
  obtain ⟨n, hn⟩ : ∃ n, ∀ id ∈ ids, id < n := by
    induction ids with
    | nil => exact ⟨0, nofun⟩
    | cons id ids ih =>
      obtain ⟨n, hn⟩ := ih
      refine ⟨max n (id + 1), fun k hk => ?_⟩
      rcases List.mem_cons.1 hk with rfl | hk
      · omega
      · have := hn k hk
        omega
  exact ⟨n, fun h => (hn n h).false⟩

/-- The least id that no pending entry has. -/
def freeId (a : Agenda) : Nat := Nat.find (exists_notMem a.ids)

def insert (a : Agenda) (chat : Chat) (sender : User) (command : String) (args : List String)
    (time : Instant) : ScheduledCommand × Agenda :=
  let e : ScheduledCommand := ⟨a.freeId, time, chat, sender, command, args⟩
  (e, { a with entries := a.entries ++ [e] })

def restore? (a : Agenda) (e : ScheduledCommand) : Option Agenda :=
  if e.id ∈ a.ids then none else some { a with entries := a.entries ++ [e] }

def get? (a : Agenda) (id : Nat) : Option ScheduledCommand := a.entries.find? (·.id = id)

def remove? (a : Agenda) (id : Nat) : Option (ScheduledCommand × Agenda) :=
  (a.get? id).map fun e => (e, { a with entries := a.entries.filter (·.id ≠ id) })

def addTask (a : Agenda) (t : Task) : Agenda := { a with tasks := a.tasks ++ [t] }

/-- Some entries by time, those of one time in the order in which they came. -/
def byTime (entries : List ScheduledCommand) : List ScheduledCommand :=
  sortedBy ScheduledCommand.time entries

def commands (a : Agenda) (sender : Option User) : List ScheduledCommand :=
  (byTime a.entries).filter fun e => sender.all (· = e.sender)

def takeDue (a : Agenda) (now : Instant) (lateness : Elapsed) : DueWork × Agenda :=
  let due := byTime (a.entries.filter (·.time ≤ now))
  (⟨due.filter (now.since ·.time ≤ lateness), due.filter (¬now.since ·.time ≤ lateness),
      a.tasks.filter (·.time ≤ now)⟩,
    ⟨a.entries.filter (¬·.time ≤ now), a.tasks.filter (¬·.time ≤ now)⟩)

def nextTime? (a : Agenda) : Option Instant := (byTime a.entries).head?.map (·.time)

def size (a : Agenda) : Nat := a.entries.length

def isEmpty (a : Agenda) : Bool := a.entries.isEmpty

def perform (a : Agenda) : Call → Answer × Agenda
  | .insert chat sender command args time =>
    let (e, a) := a.insert chat sender command args time
    (.inserted e, a)
  | .restore e =>
    match a.restore? e with
    | some a => (.restored true, a)
    | none => (.restored false, a)
  | .remove id =>
    match a.remove? id with
    | some (e, a) => (.removed (some e), a)
    | none => (.removed none, a)
  | .addTask t => (.taskAdded, a.addTask t)
  | .takeDue now lateness =>
    let (work, a) := a.takeDue now lateness
    (.due work, a)

/-! ## No entry is lost or handed out twice -/

variable {a : Agenda}

theorem commands_none (a : Agenda) : a.commands none = byTime a.entries := List.filter_true _

theorem freeId_notMem (a : Agenda) : a.freeId ∉ a.ids := Nat.find_spec (exists_notMem a.ids)

/-- All lesser ids are taken, so there are at least as many entries. -/
theorem freeId_le_length (a : Agenda) : a.freeId ≤ a.entries.length := by
  have hbelow : List.range a.freeId ⊆ a.ids := by
    intro id hid
    have htaken := Nat.find_min (exists_notMem a.ids) (List.mem_range.1 hid)
    exact not_not.1 htaken
  have hle := (List.nodup_range.subperm hbelow).length_le
  rwa [List.length_range, ids, List.length_map] at hle

theorem get?_eq_some_iff (h : a.ids.Nodup) {id : Nat} {e : ScheduledCommand} :
    a.get? id = some e ↔ e ∈ a.entries ∧ e.id = id := by
  constructor
  · intro hfind
    exact ⟨List.mem_of_find?_eq_some hfind, by simpa using List.find?_some hfind⟩
  · rintro ⟨he, rfl⟩
    have hsome : (a.get? e.id).isSome := List.find?_isSome.2 ⟨e, he, by simp⟩
    obtain ⟨found, hfind⟩ := Option.isSome_iff_exists.1 hsome
    have hid : found.id = e.id := by simpa using List.find?_some hfind
    rw [hfind, List.inj_on_of_nodup_map h (List.mem_of_find?_eq_some hfind) he hid]

theorem nodup_ids_append {e : ScheduledCommand} (h : a.ids.Nodup) (he : e.id ∉ a.ids) :
    ((a.entries ++ [e]).map (·.id)).Nodup := by
  rw [List.map_append, List.map_singleton]
  exact h.append (List.nodup_singleton _) (by simpa [ids] using he)

/-- Ids stay distinct. -/
theorem nodup_ids_perform (h : a.ids.Nodup) (c : Call) : (a.perform c).2.ids.Nodup := by
  have hfilter : ∀ p : ScheduledCommand → Bool, ((a.entries.filter p).map (·.id)).Nodup :=
    fun p => h.sublist (List.filter_sublist.map _)
  cases c with
  | insert => exact nodup_ids_append h a.freeId_notMem
  | restore e =>
    by_cases he : e.id ∈ a.ids
    · simp only [perform, restore?, if_pos he]
      exact h
    · simp only [perform, restore?, if_neg he]
      exact nodup_ids_append h he
  | remove id =>
    cases hid : a.get? id with
    | none =>
      simp only [perform, remove?, hid, Option.map_none]
      exact h
    | some e =>
      simp only [perform, remove?, hid, Option.map_some]
      exact hfilter _
  | addTask => exact h
  | takeDue => exact hfilter _

theorem perm_cons_filter (h : a.ids.Nodup) {e : ScheduledCommand} (he : e ∈ a.entries) :
    a.entries.Perm (e :: a.entries.filter (·.id ≠ e.id)) := by
  have hid : ∀ x ∈ a.entries, x.id = e.id ↔ x = e := fun x hx =>
    ⟨fun hid => List.inj_on_of_nodup_map h hx he hid, fun hxe => hxe ▸ rfl⟩
  have herase : a.entries.filter (·.id ≠ e.id) = a.entries.erase e := by
    rw [h.of_map.erase_eq_filter]
    refine List.filter_congr fun x hx => ?_
    rw [Bool.eq_iff_iff, decide_eq_true_eq, bne_iff_ne, ne_eq, hid x hx]
  rw [herase]
  exact List.perm_cons_erase he

/-- What is there before a call and what is put in is what is handed out and what is there after
it. -/
theorem perform_perm (h : a.ids.Nodup) (c : Call) :
    (a.entries ++ c.added (a.perform c).1).Perm
      ((a.perform c).1.handedOut ++ (a.perform c).2.entries) := by
  cases c with
  | insert => exact .rfl
  | restore e =>
    by_cases he : e.id ∈ a.ids
    · simp [perform, restore?, he, Call.added, Answer.handedOut]
    · simp [perform, restore?, he, Call.added, Answer.handedOut]
  | remove id =>
    cases hid : a.get? id with
    | none => simp [perform, remove?, hid, Call.added, Answer.handedOut]
    | some e =>
      obtain ⟨he, rfl⟩ := (get?_eq_some_iff h).1 hid
      simp only [perform, remove?, hid, Option.map_some, Call.added, Answer.handedOut,
        List.append_nil]
      exact perm_cons_filter h he
  | addTask => simp [perform, addTask, Call.added, Answer.handedOut]
  | takeDue now lateness =>
    simp only [perform, takeDue, Call.added, Answer.handedOut, List.append_nil, decide_not]
    have hdue := (List.filter_append_perm (now.since ·.time ≤ lateness)
      (byTime (a.entries.filter (·.time ≤ now)))).trans (sortedBy_perm _ _)
    exact ((hdue.append_right _).trans (List.filter_append_perm _ _)).symm

/-- **No entry is lost, doubled or handed out twice.** What was there and what was put in is what
was handed out and what is still there. -/
theorem run_perm (h : a.ids.Nodup) (cs : List Call) :
    let run := runCalls perform a cs
    (a.entries ++ (cs.zip run.1).flatMap fun (c, answer) => c.added answer).Perm
      (run.1.flatMap Answer.handedOut ++ run.2.entries) := by
  induction cs generalizing a with
  | nil => simp [runCalls]
  | cons c cs ih =>
    have hrest := ih (nodup_ids_perform h c)
    simp only [runCalls, List.zip_cons_cons, List.flatMap_cons]
    rw [← List.append_assoc]
    refine ((perform_perm h c).append_right _).trans ?_
    rw [List.append_assoc, List.append_assoc]
    exact hrest.append_left _

end Agenda

end ChatBot
