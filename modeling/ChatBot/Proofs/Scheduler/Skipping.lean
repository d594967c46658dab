import ChatBot.Proofs.Scheduler.Pending

/-!
# Skipped ticks

Whether what is due is taken at an instant and again at a later one, or at the later one only, the
same work leaves the scheduler and the same scheduler is left (`takeDue_skipping`). The verdicts can
differ only on what was due at the earlier instant, and there the earlier one is the milder judge.
-/

namespace ChatBot

/-- All commands that were taken, whatever the verdict on them. -/
def DueWork.commands (w : DueWork) : List ScheduledCommand := w.fire ++ w.missed

variable {t t' : Instant}

/-! ## The part that is due -/

/-- What is due at an instant comes before what is not, if all comes by time. -/
theorem filter_due_append {l : List ScheduledCommand} (h : l.Pairwise (·.time ≤ ·.time))
    (t : Instant) : l.filter (·.time ≤ t) ++ l.filter (t < ·.time) = l := by
  induction l with
  | nil => rfl
  | cons e l ih =>
    rw [List.pairwise_cons] at h
    by_cases he : e.time ≤ t
    · simp [he, he.not_gt, ih h.2]
    · have hnone : l.filter (·.time ≤ t) = [] := by
        rw [List.filter_eq_nil_iff]
        intro x hx hxt
        exact he ((h.1 x hx).trans (of_decide_eq_true hxt))
      have hall : l.filter (t < ·.time) = l := by
        have := ih h.2
        rwa [hnone] at this
      simp [he, lt_of_not_ge he, hnone, hall]

theorem filter_filter_not_due {α : Type} (l : List α) (time : α → Instant) (h : t ≤ t') :
    (l.filter fun a => ¬time a ≤ t).filter (fun a => ¬time a ≤ t') =
      l.filter fun a => ¬time a ≤ t' := by
  rw [List.filter_filter]
  refine List.filter_congr fun a _ => ?_
  by_cases ha : time a ≤ t
  · simp [ha, ha.trans h]
  · simp [ha]

/-- What is due at an earlier instant and what is due after that are what is due. -/
theorem filter_due_perm {α : Type} (l : List α) (time : α → Instant) (h : t ≤ t') :
    (l.filter (time · ≤ t) ++ (l.filter fun a => ¬time a ≤ t).filter (time · ≤ t')).Perm
      (l.filter (time · ≤ t')) := by
  have hearly : (l.filter (time · ≤ t')).filter (time · ≤ t) = l.filter (time · ≤ t) := by
    rw [List.filter_filter]
    refine List.filter_congr fun a _ => ?_
    by_cases ha : time a ≤ t
    · simp [ha, ha.trans h]
    · simp [ha]
  have hsplit := List.filter_append_perm (fun a => decide (time a ≤ t)) (l.filter (time · ≤ t'))
  rw [hearly, List.filter_comm] at hsplit
  simpa only [decide_not] using hsplit

namespace Scheduler

/-- A scheduler is known by the list of its entries and its tasks. -/
theorem Represents.unique {s s' : Scheduler} {a : Agenda} (h : s.Represents a)
    (h' : s'.Represents a) : s = s' := by
  have hbyTime : s.byTime = s'.byTime :=
    OrderedMap.ext_get? fun t => by rw [h.byTime, h'.byTime]
  have hbyId : s.byId = s'.byId := by
    refine OrderedMap.ext_get? fun id => Option.ext fun e => ?_
    rw [h.byId, h'.byId]
  obtain ⟨_, _, _⟩ := s
  obtain ⟨_, _, _⟩ := s'
  rw [mk.injEq]
  exact ⟨hbyTime, hbyId, h.tasks.trans h'.tasks.symm⟩

namespace Represents

variable {s : Scheduler} {a : Agenda} {lateness : Elapsed}

theorem pending_pairwise (h : s.Represents a) : s.pending.Pairwise (·.time ≤ ·.time) := by
  rw [h.pending_eq]
  exact pairwise_sortedBy _ _

theorem commands_takeDue (h : s.Represents a) (t : Instant) (lateness : Elapsed) :
    (s.takeDue t lateness).1.commands.Perm (s.pending.filter (·.time ≤ t)) := by
  have hsplit := List.filter_append_perm (fun e => decide (t.since e.time ≤ lateness))
    (s.pending.filter (·.time ≤ t))
  rw [List.filter_filter, List.filter_filter] at hsplit
  rw [DueWork.commands, h.fire_takeDue, h.missed_takeDue]
  simpa only [Bool.decide_and, Bool.and_comm, decide_not] using hsplit

theorem commands_takeDue_append (h : s.Represents a) (hle : t ≤ t') :
    ((s.takeDue t lateness).1.commands ++
      ((s.takeDue t lateness).2.takeDue t' lateness).1.commands).Perm
        (s.takeDue t' lateness).1.commands := by
  have hfirst := h.commands_takeDue t lateness
  have hsecond := (h.takeDue t lateness).2.commands_takeDue t' lateness
  rw [h.pending_takeDue] at hsecond
  refine (hfirst.append hsecond).trans (.trans ?_ (h.commands_takeDue t' lateness).symm)
  simpa only [not_le] using filter_due_perm s.pending ScheduledCommand.time hle

theorem tasks_takeDue_append (h : s.Represents a) (hle : t ≤ t') :
    ((s.takeDue t lateness).1.tasks ++
      ((s.takeDue t lateness).2.takeDue t' lateness).1.tasks).Perm
        (s.takeDue t' lateness).1.tasks := by
  have hleft : (s.takeDue t lateness).2.tasks = s.tasks.filter fun a => ¬a.time ≤ t := by
    rw [(h.takeDue t lateness).2.tasks, h.tasks, Agenda.takeDue]
  rw [tasks_takeDue, tasks_takeDue, tasks_takeDue, hleft]
  exact filter_due_perm s.tasks Task.time hle

theorem takeDue_takeDue (h : s.Represents a) (hle : t ≤ t') :
    ((s.takeDue t lateness).2.takeDue t' lateness).2 = (s.takeDue t' lateness).2 := by
  have hfirst := (h.takeDue t lateness).2
  have hsecond := (hfirst.takeDue t' lateness).2
  have honly := (h.takeDue t' lateness).2
  refine hsecond.unique ?_
  have hagenda : ((a.takeDue t lateness).2.takeDue t' lateness).2 = (a.takeDue t' lateness).2 := by
    rw [Agenda.takeDue, Agenda.takeDue, Agenda.takeDue, Agenda.mk.injEq]
    exact ⟨filter_filter_not_due _ _ hle, filter_filter_not_due _ _ hle⟩
  rwa [hagenda]

/-! ## Verdicts -/

theorem fire_takeDue_takeDue (h : s.Represents a) :
    ((s.takeDue t lateness).2.takeDue t' lateness).1.fire =
      (s.takeDue t' lateness).1.fire.filter (t < ·.time) := by
  have hfirst := (h.takeDue t lateness).2
  rw [hfirst.fire_takeDue, h.pending_takeDue, h.fire_takeDue, List.filter_comm]

theorem missed_takeDue_takeDue (h : s.Represents a) :
    ((s.takeDue t lateness).2.takeDue t' lateness).1.missed =
      (s.takeDue t' lateness).1.missed.filter (t < ·.time) := by
  have hfirst := (h.takeDue t lateness).2
  rw [hfirst.missed_takeDue, h.pending_takeDue, h.missed_takeDue, List.filter_comm]

theorem time_le_of_mem_commands (h : s.Represents a) {e : ScheduledCommand}
    (he : e ∈ (s.takeDue t lateness).1.commands) : e.time ≤ t :=
  of_decide_eq_true (List.mem_filter.1 ((h.commands_takeDue t lateness).mem_iff.1 he)).2

/-- What is taken at an instant is what was due at an earlier one, and then the rest. -/
theorem fire_split (h : s.Represents a) (t : Instant) :
    (s.takeDue t' lateness).1.fire.filter (·.time ≤ t) ++
      (s.takeDue t' lateness).1.fire.filter (t < ·.time) = (s.takeDue t' lateness).1.fire := by
  refine filter_due_append ?_ t
  rw [h.fire_takeDue]
  exact h.pending_pairwise.filter _

theorem missed_split (h : s.Represents a) (t : Instant) :
    (s.takeDue t' lateness).1.missed.filter (·.time ≤ t) ++
      (s.takeDue t' lateness).1.missed.filter (t < ·.time) = (s.takeDue t' lateness).1.missed := by
  refine filter_due_append ?_ t
  rw [h.missed_takeDue]
  exact h.pending_pairwise.filter _

/-- The earlier of two instants finds in time whatever the later one finds in time. -/
theorem fire_filter_sublist (h : s.Represents a)
    (hin : ∀ e ∈ s.pending, t'.since e.time ≤ lateness → t.since e.time ≤ lateness) :
    ((s.takeDue t' lateness).1.fire.filter (·.time ≤ t)).Sublist
      (s.takeDue t lateness).1.fire := by
  have hfire : (s.takeDue t' lateness).1.fire.filter (·.time ≤ t) =
      (s.takeDue t lateness).1.fire.filter fun e => e.time ≤ t' ∧ t'.since e.time ≤ lateness := by
    rw [h.fire_takeDue, h.fire_takeDue, List.filter_filter, List.filter_filter]
    refine List.filter_congr fun e he => ?_
    rw [Bool.eq_iff_iff]
    simp only [Bool.and_eq_true, decide_eq_true_eq]
    constructor
    · rintro ⟨ht, ht', hlate⟩
      exact ⟨⟨ht', hlate⟩, ht, hin e he hlate⟩
    · rintro ⟨⟨ht', hlate⟩, ht, -⟩
      exact ⟨ht, ht', hlate⟩
  rw [hfire]
  exact List.filter_sublist

theorem missed_sublist_filter (h : s.Represents a) (hle : t ≤ t')
    (hin : ∀ e ∈ s.pending, t'.since e.time ≤ lateness → t.since e.time ≤ lateness) :
    (s.takeDue t lateness).1.missed.Sublist
      ((s.takeDue t' lateness).1.missed.filter (·.time ≤ t)) := by
  have hmissed : (s.takeDue t lateness).1.missed =
      ((s.takeDue t' lateness).1.missed.filter (·.time ≤ t)).filter
        fun e => ¬t.since e.time ≤ lateness := by
    rw [h.missed_takeDue, h.missed_takeDue, List.filter_filter, List.filter_filter]
    refine List.filter_congr fun e he => ?_
    rw [Bool.eq_iff_iff]
    simp only [Bool.and_eq_true, decide_eq_true_eq]
    constructor
    · rintro ⟨ht, hlate⟩
      exact ⟨⟨hlate, ht⟩, ht.trans hle, fun hlate' => hlate (hin e he hlate')⟩
    · rintro ⟨⟨hlate, ht⟩, -, -⟩
      exact ⟨ht, hlate⟩
  rw [hmissed]
  exact List.filter_sublist

end Represents

/-! ## Two ticks and one -/

/-- **Skipping a tick never runs more.** Two ticks take the commands and tasks that the second one
alone takes and leave the same scheduler. What was not due at the first tick gets the same verdict,
and without leap seconds the first tick turns no command that fires into one that is missed. -/
theorem skipping_runs_no_more (calls : List Call) (lateness : Elapsed) (hle : t ≤ t') :
    let s := (runCalls perform empty calls).2
    let first := s.takeDue t lateness
    let second := first.2.takeDue t' lateness
    let only := s.takeDue t' lateness
    (first.1.commands ++ second.1.commands).Perm only.1.commands ∧
      (first.1.tasks ++ second.1.tasks).Perm only.1.tasks ∧ second.2 = only.2 ∧
      (∀ e : ScheduledCommand, t < e.time →
        (e ∈ first.1.fire ++ second.1.fire ↔ e ∈ only.1.fire) ∧
          (e ∈ first.1.missed ++ second.1.missed ↔ e ∈ only.1.missed)) ∧
      (t.isLeapSecond = false → t'.isLeapSecond = false →
        (∀ e ∈ s.pending, e.time.isLeapSecond = false) →
        only.1.fire.Sublist (first.1.fire ++ second.1.fire) ∧
          (first.1.missed ++ second.1.missed).Sublist only.1.missed) := by
  intro s first second only
  have h : s.Represents _ := (represents_run calls).2
  have hfire : second.1.fire = only.1.fire.filter (t < ·.time) := h.fire_takeDue_takeDue
  have hmissed : second.1.missed = only.1.missed.filter (t < ·.time) := h.missed_takeDue_takeDue
  refine ⟨h.commands_takeDue_append hle, h.tasks_takeDue_append hle, h.takeDue_takeDue hle,
    fun e he => ?_, fun ht ht' hpending => ?_⟩
  · have hnot : e ∉ first.1.commands := fun hmem => he.not_ge (h.time_le_of_mem_commands hmem)
    rw [DueWork.commands, List.mem_append, not_or] at hnot
    rw [List.mem_append, List.mem_append, or_iff_right hnot.1, or_iff_right hnot.2, hfire, hmissed]
    simp [he]
  · have hin : ∀ e ∈ s.pending, t'.since e.time ≤ lateness → t.since e.time ≤ lateness :=
      fun e hmem hlate => Int.le_trans (Instant.since_le_since hle ht ht' (hpending e hmem)) hlate
    rw [hfire, hmissed]
    constructor
    · have hsub := (h.fire_filter_sublist hin).append_right (only.1.fire.filter (t < ·.time))
      rwa [h.fire_split t] at hsub
    · have hsub := (h.missed_sublist_filter hle hin).append_right
        (only.1.missed.filter (t < ·.time))
      rwa [h.missed_split t] at hsub

theorem skipping_runs_no_more_late :
    let t : Instant := ⟨20, 0, by decide⟩
    let t' : Instant := ⟨50, 0, by decide⟩
    let early : Call := .insert default default "early" [] .epoch
    let calls := [early, .insert default default "late" [] ⟨40, 0, by decide⟩, .addTask ⟨t, "x"⟩]
    let s := (runCalls perform empty calls).2
    let first := s.takeDue t (.ofSeconds 30)
    let second := first.2.takeDue t' (.ofSeconds 30)
    let only := s.takeDue t' (.ofSeconds 30)
    t ≤ t' ∧ only.1.fire.map (·.command) = ["late"] ∧ only.1.missed.map (·.command) = ["early"] ∧
      (first.1.fire ++ second.1.fire).map (·.command) = ["early", "late"] ∧
      only.1.fire.Sublist (first.1.fire ++ second.1.fire) ∧ second.2 = only.2 := by
  intro t t' early calls s first second only
  have hle : t ≤ t' := by decide
  obtain ⟨-, -, hleft, -, hfire⟩ := skipping_runs_no_more calls (.ofSeconds 30) hle
  have hpending : ∀ e ∈ s.pending, e.time.isLeapSecond = false := by decide +kernel
  exact ⟨hle, by decide +kernel, by decide +kernel, by decide +kernel,
    (hfire rfl rfl hpending).1, hleft⟩

/-- In a leap second more time seems to have passed than after it, so a tick there can miss what the
next one would run. -/
example :
    let leap : Instant := ⟨86399, 1500000000, by decide⟩
    let s := (empty.insert default default "x" [] .epoch).2
    (s.takeDue leap (.ofSeconds 86400)).1.missed.map (·.command) = ["x"] ∧
      (s.takeDue ⟨86400, 0, by decide⟩ (.ofSeconds 86400)).1.fire.map (·.command) = ["x"] := by
  decide +kernel

end Scheduler

end ChatBot
