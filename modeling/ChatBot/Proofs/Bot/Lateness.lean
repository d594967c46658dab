import Mathlib
import ChatBot.Proofs.Time.Order
import ChatBot.Proofs.Bot.Operation

/-!
# The lateness that is allowed

A length of time is measured in milliseconds with 64 bits. All times between two instants can be
measured (`Instant.fits_since`), and so can the configured lateness, unless it lies between the most
seconds that can be measured and those that have 64 bits (`Config.lateness?_eq`). Only then a bot
cannot tick (`Bot.ticks_with_measured_lateness`).
-/

namespace ChatBot

/-! ## Lengths that can be measured -/

/-- A length of time has a signed number of milliseconds in 64 bits. -/
def Elapsed.Fits (e : Elapsed) : Prop := |e.nanoseconds| ≤ (2 ^ 63 - 1) * 1000000

theorem Elapsed.fits_ofSeconds {n : Nat} : (ofSeconds n).Fits ↔ n ≤ Config.longestSeconds := by
  have hlongest : Config.longestSeconds = 9223372036854775 := rfl
  rw [Fits, ofSeconds, abs_le, hlongest]
  dsimp only
  omega

/-- The years of instants are so few that all times between them can be measured. -/
theorem Instant.fits_since (t u : Instant) : (t.since u).Fits := by
  have hfirst : firstSecond = -8334601228800 := by decide
  have hlast : lastSecond = 8210266876799 := by decide
  obtain ⟨ht, ht', htn, -⟩ := t.valid
  obtain ⟨hu, hu', hun, -⟩ := u.valid
  rw [Elapsed.Fits, since, abs_le]
  dsimp only
  split
  · omega
  · split
    · omega
    · omega

/-! ## The configured lateness -/

namespace Config

variable {c c' : Config} {e e' : Elapsed}

/-- The configured lateness is too long to be measured, though its seconds have 64 bits. -/
def Unmeasurable (c : Config) : Prop :=
  longestSeconds < c.allowedLateness ∧ c.allowedLateness < 2 ^ 63

/-- The lateness is what is configured, but at most the longest time. -/
def cappedLateness (c : Config) : Elapsed := .ofSeconds (min c.allowedLateness longestSeconds : Nat)

theorem lateness?_eq_some_iff : c.lateness? = some e ↔ ¬c.Unmeasurable ∧ e = c.cappedLateness := by
  have hpow : Nat.pow 2 63 = 2 ^ 63 := rfl
  have hlongest : longestSeconds < 2 ^ 63 := by decide
  rw [lateness?, hpow, Unmeasurable, cappedLateness, eq_comm]
  by_cases hsigned : c.allowedLateness < 2 ^ 63
  · rw [if_pos hsigned]
    by_cases hle : c.allowedLateness ≤ longestSeconds
    · rw [if_pos hle, Nat.min_eq_left hle, Option.some.injEq]
      exact (and_iff_right fun h => h.1.not_ge hle).symm
    · rw [if_neg hle]
      exact iff_of_false nofun fun h => h.1 ⟨Nat.lt_of_not_le hle, hsigned⟩
  · -- Only here the longest lateness stands in for the configured one.
    have hle : longestSeconds ≤ c.allowedLateness := by omega
    rw [if_neg hsigned, if_pos le_rfl, Nat.min_eq_right hle, Option.some.injEq]
    exact (and_iff_right fun h => hsigned h.2).symm

theorem lateness?_eq_none_iff : c.lateness? = none ↔ c.Unmeasurable := by
  constructor
  · intro hnone
    apply Classical.byContradiction
    intro hmeasurable
    rw [lateness?_eq_some_iff.2 ⟨hmeasurable, rfl⟩] at hnone
    contradiction
  · intro hunmeasurable
    apply Option.eq_none_iff_forall_ne_some.2
    intro e he
    exact (lateness?_eq_some_iff.1 he).1 hunmeasurable

theorem cappedLateness_mono (h : c.allowedLateness ≤ c'.allowedLateness) :
    c.cappedLateness ≤ c'.cappedLateness := by
  have hmin : min c.allowedLateness longestSeconds ≤ min c'.allowedLateness longestSeconds :=
    min_le_min_right _ h
  show (_ : Int) ≤ _
  rw [cappedLateness, cappedLateness, Elapsed.ofSeconds, Elapsed.ofSeconds]
  dsimp only
  omega

end Config

/-! ## Ticks -/

namespace Bot

/-- What a tick does with a lateness. -/
def tickWithin (b : Bot) (now clock : Instant) (lateness : Elapsed) : Bot :=
  (b.takeDue now lateness).2.runDue clock (b.takeDue now lateness).1

theorem tick?_eq_none_iff {b : Bot} {now clock : Instant} :
    b.tick? now clock = none ↔ b.config.Unmeasurable := by
  rw [tick?, Option.map_eq_none_iff, Config.lateness?_eq_none_iff]

theorem tick?_of_measurable {b : Bot} (h : ¬b.config.Unmeasurable) (now clock : Instant) :
    b.tick? now clock = some (b.tickWithin now clock b.config.cappedLateness) := by
  rw [tick?, Config.lateness?_eq_some_iff.2 ⟨h, rfl⟩]
  rfl

/-- **A bot ticks unless its lateness cannot be measured.** The longest lateness is the greatest
number of whole seconds that can be measured. The lateness is what is configured, but at most the
longest, and a tick at any time comes to an end, exactly if the configuration is not one of those
that cannot be measured. More seconds never mean a shorter lateness, and all times that a tick
measures can be measured. -/
theorem ticks_with_measured_lateness (b : Bot) (now clock : Instant) :
    (∀ n : Nat, (Elapsed.ofSeconds n).Fits ↔ n ≤ Config.longestSeconds) ∧
    (b.config.lateness? =
        some (.ofSeconds (min b.config.allowedLateness Config.longestSeconds : Nat)) ↔
      ¬(Config.longestSeconds < b.config.allowedLateness ∧ b.config.allowedLateness < 2 ^ 63)) ∧
    (∀ c : Config, b.config.allowedLateness ≤ c.allowedLateness →
      ∀ e ∈ b.config.lateness?, ∀ e' ∈ c.lateness?, e ≤ e') ∧
    (∀ t u : Instant, (t.since u).Fits) ∧
    (b.tick? now clock = some (b.tickWithin now clock b.config.cappedLateness) ↔
      ¬b.config.Unmeasurable) ∧
    (b.tick? now clock = none ↔ b.config.Unmeasurable) := by
  refine ⟨fun _ => Elapsed.fits_ofSeconds, ?_, ?_, Instant.fits_since, ?_, tick?_eq_none_iff⟩
  · exact Config.lateness?_eq_some_iff.trans (and_iff_left rfl)
  · intro c hle e he e' he'
    rw [(Config.lateness?_eq_some_iff.1 he).2, (Config.lateness?_eq_some_iff.1 he').2]
    exact Config.cappedLateness_mono hle
  · constructor
    · intro htick hunmeasurable
      rw [tick?_eq_none_iff.2 hunmeasurable] at htick
      contradiction
    · intro hmeasurable
      exact tick?_of_measurable hmeasurable now clock

/-- One second more than can be measured is a valid configuration, and a bot with it cannot tick. -/
theorem ticks_with_measured_lateness_fails :
    let c : Config := { Config.standard with allowedLateness := 9223372036854776 }
    c.problems = [] ∧ c.allowedLateness < 2 ^ 64 ∧ c.lateness? = none ∧
      c.lateness? ≠ some c.cappedLateness ∧ (new c default).tick? .epoch .epoch = none := by
  intro c
  have hunmeasurable : c.Unmeasurable := ⟨by decide, by decide⟩
  have hnone : c.lateness? = none := Config.lateness?_eq_none_iff.2 hunmeasurable
  refine ⟨by decide, by decide, hnone, ?_, tick?_eq_none_iff.2 hunmeasurable⟩
  rw [hnone]
  exact nofun

end Bot

end ChatBot
