import ChatBot.Proofs.Bot.Operation
import ChatBot.Proofs.Scheduler.Pending
import ChatBot.Proofs.Store

/-!
# Saving

Where saves succeed, the store holds the state of the bot from then on, whatever is asked of it. A
change that is refused is not saved and changes nothing; one that is made is saved once
(`store_holds_state`).
-/

namespace ChatBot

namespace Bot

variable {b p : Bot} {added removed : List ScheduledCommand}

/-! ## Entries on the way -/

/-- What was pending and what a change schedules is what it cancels and what is pending then. -/
theorem pending_perm_attempt (h : b.Sound) (c : Change) :
    (b.scheduler.pending ++ b.puts c).Perm (b.takes c ++ (b.attempt c).2.scheduler.pending) := by
  obtain ⟨a, hrep⟩ := h.represents
  cases c with
  | schedule chat sender command args time =>
    exact hrep.pending_perm (.insert chat sender (Text.lowercase command) args time)
  | unschedule id =>
    have hperm := hrep.pending_perm (.remove id)
    rw [Scheduler.perform, Scheduler.remove?] at hperm
    show (b.scheduler.pending ++ []).Perm
      ((b.scheduler.get? id).toList ++ (b.unschedule id).2.scheduler.pending)
    rw [unschedule, Scheduler.remove?]
    cases hid : b.scheduler.get? id with
    | none => exact .of_eq (List.append_nil _)
    | some e =>
      rw [hid] at hperm
      exact hperm
  | setDelimiter | createAlias | removeAlias | link | unlink | startTimer | stopTimer =>
    -- No other change is made in the scheduler.
    show (b.scheduler.pending ++ []).Perm ([] ++ (b.attempt _).2.scheduler.pending)
    rw [List.append_nil, List.nil_append]
    rcases attempt_cases h _ with heq | ⟨made, hmade, heq⟩
    · rw [heq]
    · rw [heq]
      cases hmade <;> exact .rfl

/-- What was pending and what was scheduled on the way is what was cancelled and what is pending. -/
theorem Onward.pending_perm (h : b.Sound) (hp : b.Onward added removed p) :
    (b.scheduler.pending ++ added).Perm (removed ++ p.scheduler.pending) := by
  induction hp with
  | refl => exact .of_eq (List.append_nil _)
  | aside _ hs ih =>
    rw [hs.scheduler]
    exact ih
  | @change added removed p hp c ih =>
    have hstep := pending_perm_attempt (hp.sound h) c
    rw [← List.append_assoc, List.append_assoc removed]
    refine (ih.append_right _).trans ?_
    rw [List.append_assoc]
    exact hstep.append_left _

/-! ## Numbers on the way -/

theorem id_of_mem_puts {c : Change} {e : ScheduledCommand} (h : e ∈ b.puts c) :
    e.id = b.scheduler.freeId := by
  cases c with
  | schedule => rw [List.eq_of_mem_singleton h]; rfl
  | unschedule | setDelimiter | createAlias | removeAlias | link | unlink | startTimer
  | stopTimer => contradiction

/-- As long as not all numbers of 64 bits are taken, a change takes no other one. -/
theorem fits_attempt (h : b.Sound) (hfits : b.snapshot.Fits) (c : Change)
    (hfew : b.puts c ≠ [] → b.scheduler.pending.length < 2 ^ 64) :
    (b.attempt c).2.snapshot.Fits := by
  obtain ⟨a, hrep⟩ := h.represents
  intro e he
  have hmem := (pending_perm_attempt h c).mem_iff.2 (List.mem_append_right _ he)
  rcases List.mem_append.1 hmem with hold | hnew
  · exact hfits e hold
  · rw [id_of_mem_puts hnew]
    exact hrep.freeId_le_length.trans_lt (hfew (List.ne_nil_of_mem hnew))

theorem Onward.fits (h : b.Sound) (hfits : b.snapshot.Fits) (hp : b.Onward added removed p)
    (hfew : b.scheduler.pending.length + added.length ≤ 2 ^ 64) : p.snapshot.Fits := by
  induction hp with
  | refl => exact hfits
  | aside _ hs ih =>
    rw [hs.snapshot]
    exact ih hfew
  | @change added removed p hp c ih =>
    rw [List.length_append] at hfew
    refine fits_attempt (hp.sound h) (ih (by omega)) c ?_
    intro hputs
    have hlength := (hp.pending_perm h).length_eq
    have hpos := List.length_pos_of_ne_nil hputs
    rw [List.length_append, List.length_append] at hlength
    omega

/-! ## The store -/

/-- The saves of a bot succeed, and its store holds its state if that can be stored at all. -/
structure Saved (b : Bot) : Prop where
  reliable : b.store.Reliable
  current : b.snapshot.Fits → b.store.load = .ok b.snapshot

theorem saved_persist (h : b.store.Reliable) : b.persist.Saved := ⟨h.save _, h b.snapshot⟩

theorem Made.store {c : Change} (h : b.Made c p) : p.store = b.store := by
  cases h <;> rfl

namespace Saved

/-- What would be saved is what was saved. -/
theorem of_snapshot_eq (h : b.Saved) (hstore : p.store = b.store)
    (hsnapshot : p.snapshot = b.snapshot) : p.Saved where
  reliable := hstore ▸ h.reliable
  current := by
    rw [hstore, hsnapshot]
    exact h.current

theorem aside (h : b.Saved) (hs : SameState b p) : p.Saved := h.of_snapshot_eq hs.store hs.snapshot

theorem attempt (h : b.Saved) (hb : b.Sound) (c : Change) : (b.attempt c).2.Saved := by
  rcases attempt_cases hb c with heq | ⟨made, hmade, heq⟩
  · rw [heq]
    exact h
  · rw [heq]
    exact saved_persist (hmade.store ▸ h.reliable)

theorem onward (h : b.Saved) (hb : b.Sound) (hp : b.Onward added removed p) : p.Saved := by
  induction hp with
  | refl => exact h
  | aside _ hs ih => exact ih.aside hs
  | change hp c ih => exact ih.attempt (hp.sound hb) c

theorem leadsTo (h : b.Saved) (hb : b.Sound) (hp : b.LeadsTo p) : p.Saved := by
  obtain ⟨_, _, hp⟩ := hp
  exact h.onward hb hp

theorem takeDue (h : b.Saved) (hb : b.Sound) (now : Instant) (lateness : Elapsed) :
    (b.takeDue now lateness).2.Saved := by
  unfold Bot.takeDue
  dsimp only
  split
  next => exact saved_persist h.reliable
  next hdue =>
    obtain ⟨a, hrep⟩ := hb.represents
    have hpending := hrep.pending_takeDue_of_not_hasCommands now lateness (by simpa using hdue)
    exact h.of_snapshot_eq rfl (by simp only [snapshot, hpending])

theorem addCommand (h : b.Saved) {c : Command} (hadd : b.addCommand? c = some p) : p.Saved := by
  obtain ⟨registry, hregistry, rfl⟩ := Option.map_eq_some_iff.1 hadd
  refine h.of_snapshot_eq rfl ?_
  simp only [snapshot, Registry.aliases_of_addCommand? hregistry]

end Saved

end Bot

/-- Whether an operation restores what is stored. -/
def Operation.restores : Operation → Bool
  | .restore _ => true
  | _ => false

namespace Bot

variable {b p : Bot}

/-- Every operation but restoring keeps the store current. -/
theorem Performed.saved {op : Operation} (hp : b.Performed op p) (hb : b.Sound) (h : b.Saved)
    (hop : op.restores = false) : p.Saved := by
  cases hp with
  | course hp => exact h.leadsTo hb hp.leadsTo
  | tick hp => exact (h.takeDue hb _ _).leadsTo (hb.takeDue _ _) hp.leadsTo
  | addCommand hadd => exact h.addCommand hadd
  | scheduleTask => exact h.of_snapshot_eq rfl rfl
  | persist => exact saved_persist h.reliable
  | restore => contradiction
  | restoreNothing => contradiction

theorem Saved.foldl_perform (h : b.Saved) (hb : b.Sound) {ops : List Operation}
    (hops : ∀ op ∈ ops, op.restores = false) : (ops.foldl perform b).Saved := by
  induction ops generalizing b with
  | nil => exact h
  | cons op ops ih =>
    rw [List.forall_mem_cons] at hops
    have hop := b.performed op
    exact ih (hop.saved hb h hops.1) (hop.sound hb) hops.2

/-- **The store always holds the current state.** If saves succeed and the store holds the state
of the bot, it does so after any operations other than restoring, as numbers of scheduled commands
have 64 bits. A change that is refused leaves the whole bot as it was, without a save, and one that
is made is saved once; either way such numbers stay so unless all of them are taken. -/
theorem store_holds_state (h : Reachable b) :
    (b.store.Reliable → b.store.load = .ok b.snapshot →
      ∀ ops : List Operation, (∀ op ∈ ops, op.restores = false) →
        (ops.foldl perform b).snapshot.Fits →
        (ops.foldl perform b).store.load = .ok (ops.foldl perform b).snapshot) ∧
    ∀ c, ((b.attempt c).1 = false → (b.attempt c).2 = b) ∧
      ((b.attempt c).1 = true → (b.attempt c).2.store.saves = b.store.saves + 1) ∧
      (b.snapshot.Fits → b.scheduler.pending.length < 2 ^ 64 → (b.attempt c).2.snapshot.Fits) := by
  constructor
  · intro hreliable hcurrent ops hops
    exact (Saved.foldl_perform ⟨hreliable, fun _ => hcurrent⟩ h.sound hops).current
  · intro c
    have hnumbers : b.snapshot.Fits → b.scheduler.pending.length < 2 ^ 64 →
        (b.attempt c).2.snapshot.Fits :=
      fun hfits hfew => fits_attempt h.sound hfits c fun _ => hfew
    rcases attempt_cases h.sound c with heq | ⟨made, hmade, heq⟩
    · rw [heq] at hnumbers ⊢
      exact ⟨fun _ => rfl, nofun, hnumbers⟩
    · rw [heq] at hnumbers ⊢
      refine ⟨nofun, fun _ => ?_, hnumbers⟩
      rw [← hmade.store]
      rfl

theorem store_holds_state_linked :
    let x : Chat := ⟨⟨"Console"⟩, "x"⟩
    let y : Chat := ⟨⟨"Console"⟩, "y"⟩
    let b := [.change (.link x y), .change (.schedule x default "echo" ["a"] .epoch)].foldl perform
      filing
    b.store.load = .ok b.snapshot ∧ b.snapshot.links = [⟨x, [y]⟩, ⟨y, [x]⟩] ∧
      (b.attempt (.link y x)).2 = b ∧ (b.attempt (.unlink y x)).2.store.saves = 3 := by
  intro x y b
  have hb : Reachable b := (reachable_filing.step (.change (.link x y))).step
    (.change (.schedule x default "echo" ["a"] .epoch))
  have hreliable : filing.store.Reliable := Store.reliable_iff.2 ⟨rfl, nofun⟩
  have hpending : b.scheduler.pending = [⟨0, .epoch, x, default, "echo", ["a"]⟩] := by decide
  have hfits : b.snapshot.Fits := by
    show ∀ e ∈ b.scheduler.pending, e.id < 2 ^ 64
    rw [hpending]
    decide
  have hcurrent := (store_holds_state reachable_filing).1 hreliable rfl
    [.change (.link x y), .change (.schedule x default "echo" ["a"] .epoch)] (by decide) hfits
  have hchange := (store_holds_state hb).2
  exact ⟨hcurrent, by decide, (hchange (.link y x)).1 (by decide),
    (hchange (.unlink y x)).2.1 (by decide)⟩

end Bot

end ChatBot
