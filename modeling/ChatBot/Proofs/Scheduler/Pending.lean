import ChatBot.Proofs.Scheduler.Refinement

/-!
# What is pending

What a call puts in and hands out, and what it leaves, said of the pending commands by time. They
are all that a scheduler without tasks is known by.
-/

namespace ChatBot

namespace Agenda

theorem freeId_congr {a a' : Agenda} (h : ∀ id, id ∈ a.ids ↔ id ∈ a'.ids) :
    a.freeId = a'.freeId :=
  Nat.find_congr' fun {id} => not_congr (h id)

theorem byTime_filter (p : ScheduledCommand → Bool) (entries : List ScheduledCommand) :
    byTime (entries.filter p) = (byTime entries).filter p :=
  sortedBy_filter _ p entries

end Agenda

theorem Scheduler.tasks_takeDue (s : Scheduler) (now : Instant) (lateness : Elapsed) :
    (s.takeDue now lateness).1.tasks = s.tasks.filter (·.time ≤ now) := by
  rw [takeDue, List.partition_eq_filter_filter (l := s.tasks)]

namespace Scheduler.Represents

variable {s s' : Scheduler} {a : Agenda}

theorem pending_perm_entries (h : s.Represents a) : s.pending.Perm a.entries := by
  rw [h.pending_eq]
  exact sortedBy_perm _ _

theorem nodup_pending (h : s.Represents a) : (s.pending.map (·.id)).Nodup :=
  (h.pending_perm_entries.map _).nodup_iff.2 h.nodup

theorem freeId_le_length (h : s.Represents a) : s.freeId ≤ s.pending.length := by
  rw [h.freeId_eq, h.pending_perm_entries.length_eq]
  exact a.freeId_le_length

/-- What is pending, put in by time, is the same agenda as far as can be seen. -/
theorem of_pending (h : s.Represents a) (h' : s'.Represents ⟨s.pending, []⟩) :
    s'.pending = s.pending ∧ s'.freeId = s.freeId := by
  constructor
  · rw [h'.pending_eq, h.pending_eq]
    exact sortedBy_eq_self _ (pairwise_sortedBy _ _)
  · rw [h'.freeId_eq, h.freeId_eq]
    exact Agenda.freeId_congr fun id => (h.pending_perm_entries.map _).mem_iff

/-- What is pending before a call and what is put in is what is handed out and what is pending after
it. -/
theorem pending_perm (h : s.Represents a) (c : Call) :
    (s.pending ++ c.added (s.perform c).1).Perm
      ((s.perform c).1.handedOut ++ (s.perform c).2.pending) := by
  obtain ⟨hanswer, hnext⟩ := h.perform c
  have hperm := Agenda.perform_perm h.nodup c
  rw [← hanswer] at hperm
  refine (h.pending_perm_entries.append_right _).trans (hperm.trans ?_)
  exact hnext.pending_perm_entries.symm.append_left _

/-! ## What is due -/

variable (now : Instant) (lateness : Elapsed)

theorem fire_takeDue (h : s.Represents a) : (s.takeDue now lateness).1.fire =
    s.pending.filter fun e => e.time ≤ now ∧ now.since e.time ≤ lateness := by
  rw [(h.takeDue now lateness).1, h.pending_eq, Agenda.takeDue, Agenda.byTime_filter]
  dsimp only
  rw [List.filter_filter]
  refine List.filter_congr fun e _ => ?_
  rw [Bool.decide_and, Bool.and_comm]

theorem missed_takeDue (h : s.Represents a) : (s.takeDue now lateness).1.missed =
    s.pending.filter fun e => e.time ≤ now ∧ ¬now.since e.time ≤ lateness := by
  rw [(h.takeDue now lateness).1, h.pending_eq, Agenda.takeDue, Agenda.byTime_filter]
  dsimp only
  rw [List.filter_filter]
  refine List.filter_congr fun e _ => ?_
  rw [Bool.decide_and, Bool.and_comm]

theorem pending_takeDue (h : s.Represents a) :
    (s.takeDue now lateness).2.pending = s.pending.filter fun e => now < e.time := by
  rw [(h.takeDue now lateness).2.pending_eq, h.pending_eq, Agenda.takeDue, Agenda.byTime_filter]
  simp only [not_le]

/-- Without anything due, what is pending stays so. -/
theorem pending_takeDue_of_not_hasCommands (h : s.Represents a)
    (hdue : (s.takeDue now lateness).1.hasCommands = false) :
    (s.takeDue now lateness).2.pending = s.pending := by
  rw [h.pending_takeDue, List.filter_eq_self]
  intro e he
  rw [decide_eq_true_eq, ← not_le]
  intro hle
  simp only [DueWork.hasCommands, Bool.or_eq_false_iff, Bool.not_eq_false', List.isEmpty_iff,
    h.fire_takeDue, h.missed_takeDue, List.filter_eq_nil_iff, decide_eq_true_eq, not_and] at hdue
  exact hdue.2 e he hle (hdue.1 e he hle)

end Scheduler.Represents

end ChatBot
