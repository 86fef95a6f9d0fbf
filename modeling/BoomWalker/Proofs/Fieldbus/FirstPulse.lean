/-
Where the first pulse of the slaves' clocks falls.

Only the part of the time below a second is counted, and a boundary of the period is found for
that part (`Clock.shift?_lands`). The pulse itself comes the whole seconds later, so that it is as
far from a boundary of the period as they are (`Clock.shift?_modEq`).

Main statement (`FieldbusParams.pulse_lands`): with any period that can be used the first pulse
comes within one period, and falls on the next boundary after the time and the offset exactly when
the period divides the whole seconds. It always does only if the period divides a second.
-/
import BoomWalker.Proofs.Fieldbus.Delivery
import BoomWalker.Proofs.Fieldbus.SimConfiguring
import Mathlib.Data.Nat.ModEq

namespace BoomWalker

/-! ## Whole seconds -/

namespace Clock

/-- The whole seconds of a time, in nanoseconds. -/
def wholeSeconds (now : Nat) : Nat := nanosPerSecond * (now / nanosPerSecond)

/-- The first pulse falls on the next boundary of the period after `now + offset`. -/
def Lands (period offset now : Nat) : Prop :=
  ∃ shift, shift? period offset now = some shift ∧ 0 < shift ∧ shift ≤ period ∧
    period ∣ now + offset + shift

variable {period offset now shift : Nat}

theorem exists_shift? (hperiod : 0 < period) (hfits : now + offset ≤ Word.max64) :
    ∃ shift, shift? period offset now = some shift := by
  have hpart : now % nanosPerSecond + offset ≤ Word.max64 :=
    (Nat.add_le_add_right (Nat.mod_le _ _) _).trans hfits
  exact ⟨_, if_pos ⟨hpart, hperiod⟩⟩

/-- The first pulse is as far from a boundary as the whole seconds. -/
theorem shift?_modEq (h : shift? period offset now = some shift) :
    now + offset + shift ≡ wholeSeconds now [MOD period] := by
  obtain ⟨-, -, hpart⟩ := shift?_lands h
  have hsum : now + offset + shift =
      wholeSeconds now + (now % nanosPerSecond + offset + shift) := by
    have hdiv : wholeSeconds now + now % nanosPerSecond = now := Nat.div_add_mod _ _
    omega
  rw [hsum]
  exact (Nat.modEq_zero_iff_dvd.mpr hpart).add_left _

theorem lands_iff (hperiod : 0 < period) (hfits : now + offset ≤ Word.max64) :
    Lands period offset now ↔ period ∣ wholeSeconds now := by
  obtain ⟨shift, hshift⟩ := exists_shift? hperiod hfits
  have hsame : period ∣ now + offset + shift ↔ period ∣ wholeSeconds now :=
    (shift?_modEq hshift).dvd_iff dvd_rfl
  obtain ⟨hpos, hle, -⟩ := shift?_lands hshift
  constructor
  · rintro ⟨shift', hshift', -, -, hlands⟩
    cases hshift.symm.trans hshift'
    exact hsame.mp hlands
  · intro hwhole
    exact ⟨shift, hshift, hpos, hle, hsame.mpr hwhole⟩

theorem forall_lands_iff (hperiod : 0 < period) :
    (∀ offset now, now + offset ≤ Word.max64 → Lands period offset now) ↔
      period ∣ nanosPerSecond := by
  constructor
  · intro hall
    -- After one second the whole time is counted in seconds.
    have hsecond : nanosPerSecond + 0 ≤ Word.max64 := by decide
    exact (lands_iff hperiod hsecond).mp (hall 0 nanosPerSecond hsecond)
  · intro hdivides offset now hfits
    exact (lands_iff hperiod hfits).mpr (hdivides.mul_right _)

end Clock

/-! ## Parameters that can be used -/

/-- With parameters that can be used the first pulse comes within one period, as far from a boundary
as the whole seconds. It always falls on the next boundary only if the period divides a second. -/
theorem FieldbusParams.pulse_lands {α : Type} {p : FieldbusParams α} (hcheck : p.check = .ok ()) :
    (∀ offset now, now + offset ≤ Word.max64 →
      (∃ shift, Clock.shift? p.cyclePeriod offset now = some shift ∧ 0 < shift ∧
        shift ≤ p.cyclePeriod ∧
        now + offset + shift ≡ Clock.wholeSeconds now [MOD p.cyclePeriod]) ∧
      (Clock.Lands p.cyclePeriod offset now ↔ p.cyclePeriod ∣ Clock.wholeSeconds now)) ∧
    ((∀ offset now, now + offset ≤ Word.max64 → Clock.Lands p.cyclePeriod offset now) ↔
      p.cyclePeriod ∣ Clock.nanosPerSecond) := by
  have hperiod : 0 < p.cyclePeriod := Nat.pos_of_ne_zero (p.check_eq_ok_iff.mp hcheck).period
  refine ⟨fun offset now hfits => ⟨?_, Clock.lands_iff hperiod hfits⟩,
    Clock.forall_lands_iff hperiod⟩
  obtain ⟨shift, hshift⟩ := Clock.exists_shift? hperiod hfits
  obtain ⟨hpos, hle, -⟩ := Clock.shift?_lands hshift
  exact ⟨shift, hshift, hpos, hle, Clock.shift?_modEq hshift⟩

/-- A bus whose period of one and a half milliseconds does not divide a second. -/
def unevenBus : FieldbusParams Float := { Interleaved.promptBus with cyclePeriod := 1500000 }

/-- After one second the first pulse of this bus comes a whole period later, as far past a boundary
as the second is. So it does not always fall on one. After three seconds it does. -/
theorem unevenBus_misses :
    unevenBus.check = .ok () ∧
      Clock.shift? unevenBus.cyclePeriod 0 1000000000 = some 1500000 ∧
      1000000000 + 0 + 1500000 ≡ 1000000000 [MOD unevenBus.cyclePeriod] ∧
      ¬ Clock.Lands unevenBus.cyclePeriod 0 1000000000 ∧
      Clock.Lands unevenBus.cyclePeriod 700000 3000400000 ∧
      ¬ ∀ offset now, now + offset ≤ Word.max64 → Clock.Lands unevenBus.cyclePeriod offset now := by
  obtain ⟨hpulse, halways⟩ := FieldbusParams.pulse_lands (p := unevenBus) rfl
  obtain ⟨⟨shift, hshift, -, -, hmod⟩, hlands⟩ := hpulse 0 1000000000 (by decide)
  have hperiod : Clock.shift? unevenBus.cyclePeriod 0 1000000000 = some 1500000 := by decide
  obtain rfl : 1500000 = shift := Option.some.inj (hperiod.symm.trans hshift)
  obtain ⟨-, hlands'⟩ := hpulse 700000 3000400000 (by decide)
  refine ⟨rfl, hperiod, hmod, fun h => ?_, hlands'.mpr (by decide), fun h => ?_⟩
  · exact absurd (hlands.mp h) (by decide)
  · exact absurd (halways.mp h) (by decide)

/-- After one second the next boundary of this bus is half a millisecond away, but the first pulse
comes a whole period later. -/
theorem not_always_lands :
    ¬ ∀ p : FieldbusParams Float, p.check = .ok () → ∀ offset now,
      now + offset ≤ Word.max64 → Clock.Lands p.cyclePeriod offset now := by
  intro hall
  obtain ⟨shift, hshift, -, -, hlands⟩ := hall unevenBus rfl 0 1000000000 (by decide)
  have hperiod : Clock.shift? unevenBus.cyclePeriod 0 1000000000 = some 1500000 := by decide
  cases hperiod.symm.trans hshift
  exact absurd hlands (by decide)

end BoomWalker
