import ChatBot.Proofs.Bot.Recovery
import ChatBot.Proofs.Bot.Saving

/-!
# The batch of a tick

A tick takes out what is due, saves the rest, and runs what it took out, whatever that does to the
scheduler. At every point from then on the store holds nothing of the batch, so nothing of it runs
once more after a restart (`tick_runs_batch_once`).
-/

namespace ChatBot.Bot

variable {b p f : Bot} {added removed : List ScheduledCommand}

/-! ## What a restart would run -/

/-- Whatever commands a fresh bot has, it gets all that was pending. -/
theorem pending_restoreSnapshot (h : b.Sound) (hf : f.scheduler = .empty) :
    (f.restoreSnapshot b.snapshot).scheduler.pending = b.scheduler.pending := by
  obtain ⟨a, hrep⟩ := h.represents
  obtain ⟨s, hscheduled, hs⟩ := foldl_restoreScheduled hrep.nodup_pending hf
  have hafter : (f.restoreSnapshot b.snapshot).scheduler = s := by
    rw [foldl_restoreScheduled_eq] at hscheduled
    rw [restoreSnapshot_eq]
    exact congrArg scheduler hscheduled
  rw [hafter]
  exact (hrep.of_pending hs).1

/-! ## Ticks -/

theorem Sound.tickStart (h : b.Sound) (now : Instant) (lateness : Elapsed) :
    (b.tickStart now lateness).Sound :=
  (b.sameState_tickStart now lateness).sound (h.takeDue now lateness)

theorem pending_tickStart (h : b.Sound) (now : Instant) (lateness : Elapsed) :
    (b.tickStart now lateness).scheduler.pending =
      b.scheduler.pending.filter fun e => now < e.time := by
  obtain ⟨a, hrep⟩ := h.represents
  rw [(b.sameState_tickStart now lateness).scheduler, ← hrep.pending_takeDue now lateness]
  unfold takeDue
  dsimp only
  split
  · rfl
  · rfl

/-- What is pending on the way was later than the tick or scheduled on the way. -/
theorem pending_perm_tickStart {now : Instant} {lateness : Elapsed} (h : b.Sound)
    (hp : (b.tickStart now lateness).Onward added removed p) :
    ((b.scheduler.pending.filter fun e => now < e.time) ++ added).Perm
      (removed ++ p.scheduler.pending) := by
  rw [← pending_tickStart h now lateness]
  exact hp.pending_perm (h.tickStart now lateness)

/-- What was due when the tick began is pending on the way only if it was scheduled anew. -/
theorem mem_added_of_due {now : Instant} {lateness : Elapsed} {e : ScheduledCommand} (h : b.Sound)
    (hp : (b.tickStart now lateness).Onward added removed p) (hdue : e.time ≤ now)
    (hmem : e ∈ p.scheduler.pending) : e ∈ added := by
  have hentry := (pending_perm_tickStart h hp).mem_iff.2 (List.mem_append_right removed hmem)
  rcases List.mem_append.1 hentry with hlater | hadded
  · have hlt := of_decide_eq_true (List.mem_filter.1 hlater).2
    exact absurd hlt hdue.not_gt
  · exact hadded

theorem fits_tickStart {now : Instant} (h : b.Sound) (hfits : b.snapshot.Fits)
    (lateness : Elapsed) : (b.tickStart now lateness).snapshot.Fits := by
  intro e he
  have hmem : e ∈ (b.tickStart now lateness).scheduler.pending := he
  rw [pending_tickStart h] at hmem
  exact hfits e (List.mem_of_mem_filter hmem)

/-- What is left is saved before anything runs. -/
theorem saved_tickStart {now : Instant} (h : b.Sound) (hreliable : b.store.Reliable)
    (lateness : Elapsed) (hdue : ∃ e ∈ b.scheduler.pending, e.time ≤ now) :
    (b.tickStart now lateness).Saved := by
  obtain ⟨a, hrep⟩ := h.represents
  have hcommands : (b.scheduler.takeDue now lateness).1.hasCommands := by
    by_contra hnone
    rw [Bool.not_eq_true] at hnone
    have hpending := hrep.pending_takeDue_of_not_hasCommands now lateness hnone
    rw [hrep.pending_takeDue] at hpending
    obtain ⟨e, he, hle⟩ := hdue
    have hlt := List.filter_eq_self.1 hpending e he
    exact hle.not_gt (of_decide_eq_true hlt)
  refine Saved.aside ?_ (b.sameState_tickStart now lateness)
  unfold takeDue
  dsimp only
  rw [if_pos hcommands]
  exact saved_persist hreliable

/-- A tick is a turn for each entry of the batch, and then for the tasks that are due. -/
theorem tick?_eq_some {lateness : Elapsed} (h : b.Sound)
    (hlateness : b.config.lateness? = some lateness) (now clock : Instant) :
    let batch := b.scheduler.pending.filter fun e => e.time ≤ now ∧ now.since e.time ≤ lateness
    let last := batch.foldl (fire clock) (b.tickStart now lateness)
    b.tick? now clock = some { last with
      ranTasks := last.ranTasks ++ (b.scheduler.tasks.filter (·.time ≤ now)).map (·.label) } := by
  intro batch last
  obtain ⟨a, hrep⟩ := h.represents
  have hfire : (b.takeDue now lateness).1.fire = batch := hrep.fire_takeDue now lateness
  have htasks : (b.takeDue now lateness).1.tasks = b.scheduler.tasks.filter (·.time ≤ now) :=
    b.scheduler.tasks_takeDue now lateness
  rw [tick?, hlateness, Option.map_some]
  simp only [runDue, hfire, htasks]
  rfl

/-- A fresh bot that restores what is stored has pending what was pending. -/
theorem restores_pending (hcurrent : p.store.load = .ok p.snapshot) (hp : p.Sound) (hf : f.Fresh)
    (hstore : f.store = p.store) :
    ∃ f', f.restore = .ok f' ∧ f'.scheduler.pending = p.scheduler.pending := by
  refine ⟨f.restoreSnapshot p.snapshot, ?_, pending_restoreSnapshot hp hf.scheduler⟩
  rw [restore, hstore, hcurrent]
  rfl

/-- **A tick runs a fixed batch, at most once even across a crash.** The batch is all that is due
and not too late when the tick begins, by time and then in the order in which it came. Each entry
has one turn, in which its command runs if its name stands for one by then. Every state on the way
comes of `start` by changes; whatever these are, what is pending is what was later than the tick and
what was scheduled on the way, less what was cancelled on the way. Its numbers have 64 bits unless
all of them are taken. If saves succeed, the store holds just that, so a bot that restores it has an
entry of the batch only if it was scheduled anew. -/
theorem tick_runs_batch_once {lateness : Elapsed} (h : Reachable b)
    (hlateness : b.config.lateness? = some lateness) (now clock : Instant) :
    let batch := b.scheduler.pending.filter fun e => e.time ≤ now ∧ now.since e.time ≤ lateness
    let later := b.scheduler.pending.filter fun e => now < e.time
    let start := b.tickStart now lateness
    let last := batch.foldl (fire clock) start
    b.tick? now clock = some { last with
      ranTasks := last.ranTasks ++ (b.scheduler.tasks.filter (·.time ≤ now)).map (·.label) } ∧
    (batch.map (·.id)).Nodup ∧
    (∃ calls, b.scheduler = .after calls ∧ batch = Agenda.byTime
      ((Agenda.after calls).entries.filter fun e => e.time ≤ now ∧ now.since e.time ≤ lateness)) ∧
    (∀ turns e rest, batch = turns ++ e :: rest →
      let turn := turns.foldl (fire clock) start
      start.LeadsTo turn ∧ ∀ entry, turn.resolve e.command e.chat = .ok entry →
        (turns ++ [e]).foldl (fire clock) start =
          (turn.count .fired).run e.chat e.sender (entry.invoke e.args) clock) ∧
    start.LeadsTo last ∧
    start.scheduler.pending = later ∧
    ∀ added removed p, start.Onward added removed p →
      (later ++ added).Perm (removed ++ p.scheduler.pending) ∧
      (b.snapshot.Fits → later.length + added.length ≤ 2 ^ 64 → p.snapshot.Fits) ∧
      (b.store.Reliable → p.snapshot.Fits → (∃ e ∈ b.scheduler.pending, e.time ≤ now) →
        p.store.load = .ok p.snapshot ∧
        ∀ f : Bot, f.Fresh → f.store = p.store → ∃ f', f.restore = .ok f' ∧
          f'.scheduler.pending = p.scheduler.pending ∧
          ∀ e ∈ batch, e ∈ f'.scheduler.pending → e ∈ added) := by
  intro batch later start last
  obtain ⟨a, hrep⟩ := h.sound.represents
  have hstart : start.Sound := h.sound.tickStart now lateness
  have hpending : start.scheduler.pending = later := pending_tickStart h.sound now lateness
  refine ⟨tick?_eq_some h.sound hlateness now clock,
    hrep.nodup_pending.sublist (List.filter_sublist.map _), ?_, ?_,
    (goesBy_foldl_fire clock start batch).leadsTo, hpending, ?_⟩
  · obtain ⟨calls, hcalls⟩ := h.sound.scheduler
    refine ⟨calls, hcalls, ?_⟩
    rw [Agenda.byTime_filter, ← (Scheduler.represents_after calls).pending_eq, ← hcalls]
  · intro turns e rest _ turn
    refine ⟨(goesBy_foldl_fire clock start turns).leadsTo, fun entry hentry => ?_⟩
    rw [List.foldl_append, List.foldl_cons, List.foldl_nil, fire, hentry]
  · intro added removed p hp
    refine ⟨pending_perm_tickStart h.sound hp, ?_, ?_⟩
    · intro hfits hfew
      refine hp.fits hstart (fits_tickStart h.sound hfits lateness) ?_
      rwa [hpending]
    · intro hreliable hfits hdue
      have hsaved := (saved_tickStart h.sound hreliable lateness hdue).onward hstart hp
      have hcurrent := hsaved.current hfits
      refine ⟨hcurrent, fun f hf hstore => ?_⟩
      obtain ⟨f', hf', hrestored⟩ := restores_pending hcurrent (hp.sound hstart) hf hstore
      refine ⟨f', hf', hrestored, fun e he hmem => ?_⟩
      rw [hrestored] at hmem
      have hbatch := of_decide_eq_true (List.mem_filter.1 he).2
      exact mem_added_of_due h.sound hp hbatch.1 hmem

theorem tick_runs_batch_once_echo :
    let e : ScheduledCommand := ⟨0, .epoch, default, default, "echo", ["a"]⟩
    let b := filing.perform (.change (.schedule default default "echo" ["a"] .epoch))
    let start := b.tickStart .epoch (.ofSeconds 30)
    b.tick? .epoch .epoch = some { fire .epoch start e with
      ranTasks := (fire .epoch start e).ranTasks ++ [] } ∧
    ∀ f : Bot, f.Fresh → f.store = start.store →
      ∃ f', f.restore = .ok f' ∧ f'.scheduler.pending = [] := by
  intro e b start
  have hb : Reachable b :=
    reachable_filing.step (.change (.schedule default default "echo" ["a"] .epoch))
  have hpending : b.scheduler.pending = [e] := by decide
  have hlateness : b.config.lateness? = some (.ofSeconds 30) := rfl
  obtain ⟨htick, -, -, -, -, hstart, hway⟩ := tick_runs_batch_once hb hlateness .epoch .epoch
  rw [hpending] at htick hstart hway
  rw [List.filter_cons_of_pos (by decide), List.filter_nil, List.foldl_cons,
    List.foldl_nil] at htick
  refine ⟨htick, fun f hf hstore => ?_⟩
  have hreliable : b.store.Reliable := Store.reliable_iff.2 ⟨rfl, nofun⟩
  have hbfits : b.snapshot.Fits := by
    show ∀ e ∈ b.scheduler.pending, e.id < 2 ^ 64
    rw [hpending]
    decide
  obtain ⟨-, hfits, hsaved⟩ := hway [] [] start .refl
  obtain ⟨-, hrestart⟩ := hsaved hreliable (hfits hbfits (by decide))
    ⟨e, List.mem_singleton_self e, le_rfl⟩
  obtain ⟨f', hf', hnone, -⟩ := hrestart f hf hstore
  exact ⟨f', hf', hnone.trans hstart⟩

end ChatBot.Bot
