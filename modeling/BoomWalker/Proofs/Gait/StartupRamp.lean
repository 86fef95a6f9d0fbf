/-
The startup ramp, over exact arithmetic.

Main statement: after any events, a controller with checked parameters obeys `CycleLaw` for the
streak of enabled cycles at the end of those events. A disabled cycle is answered by the safe
command and resets the gait. An enabled cycle evaluates the gait once and multiplies its currents
by a factor that grows with the streak from zero to one.
-/
import BoomWalker.Gait.ConstForce
import BoomWalker.Proofs.Gait.Calls
import BoomWalker.Proofs.Scalar.Real

namespace BoomWalker

namespace Framework

/-- The factor on the currents after a number of enabled cycles: the time since the gait was enabled
as a part of the ramp, and no more than one. -/
noncomputable def startupFactor (f : Framework ℝ) (n : ℕ) : ℝ :=
  if f.startupRamp = 0 then 1 else min 1 (n * f.cyclePeriod / f.startupRamp)

theorem startupFactor_le_one (f : Framework ℝ) (n : ℕ) : f.startupFactor n ≤ 1 := by
  unfold startupFactor
  split
  · exact le_refl 1
  · exact min_le_left _ _

/-- Parameters are accepted if the period is positive and the ramp is not negative. -/
theorem check_eq_ok_iff (f : Framework ℝ) :
    f.check = .ok () ↔ 0 < f.cyclePeriod ∧ 0 ≤ f.startupRamp := by
  unfold check
  simp only [Scalar.real_lt, Scalar.real_le, Scalar.real_zero]
  by_cases hperiod : 0 < f.cyclePeriod
  · by_cases hramp : 0 ≤ f.startupRamp
    · simp [hperiod, hramp]
    · simp [hperiod, hramp]
  · simp [hperiod]

theorem rampFactor_eq (f : Framework ℝ) (hramp : 0 ≤ f.startupRamp) (n : ℕ) :
    f.rampFactor n = f.startupFactor n := by
  unfold rampFactor startupFactor
  simp only [Scalar.real_le, Scalar.real_zero, Scalar.real_one, Scalar.real_mul, Scalar.real_div,
    Scalar.real_ofNat, Scalar.real_minNum]
  by_cases hzero : f.startupRamp = 0
  · rw [if_pos hzero, if_pos (le_of_eq hzero)]
  · have hpos : 0 < f.startupRamp := lt_of_le_of_ne hramp (Ne.symm hzero)
    rw [if_neg hzero, if_neg (not_le.mpr hpos), min_comm]

end Framework

/-- Every controller has a period that is positive, checked or not. -/
theorem GaitControl.Created.cyclePeriod_pos {g : Gait ℝ} {c₀ : GaitControl g} (h : c₀.Created) :
    0 < c₀.framework.cyclePeriod := by
  cases h with
  | @new f p c₀ hnew =>
    rw [GaitControl.eq_of_new hnew]
    exact (f.check_eq_ok_iff.mp (GaitControl.check_of_new hnew)).1
  | unconfigured =>
    have hperiod : (0 : ℝ) < (1 : ℕ) / 10 ^ 3 := by positivity
    exact hperiod

/-- A factor of one may as well be left out. -/
theorem Command.scale_one (c : Command ℝ) : c.scale 1 = c := by
  obtain ⟨⟨⟨a, b, hip⟩, ⟨a', b', hip'⟩⟩, code⟩ := c
  simp [Command.scale, Sided.map, LegCurrents.map]

namespace GaitControl

variable {g : Gait ℝ}

/-- What a cycle does to a controller `c` with parameters `f` after `n` enabled cycles in a row. The
controller `t` is the same one with a record of what it asks of the gait. -/
structure CycleLaw (f : Framework ℝ) (n : ℕ) (c : GaitControl g) (t : GaitControl g.traced) :
    Prop where
  twin : t.untraced = c
  makeSafe : t.makeSafe.calls = t.calls
  disabled (snap : Snapshot ℝ) (gui : g.Input) :
    (t.process ⟨snap, gui, false⟩).1.calls = t.calls ++ [.reset snap] ∧
    (c.process ⟨snap, gui, false⟩).2.1 = .safe ∧
    (c.process ⟨snap, gui, false⟩).2.2.enabled = false ∧
    (c.process ⟨snap, gui, false⟩).2.2.rampFactor = 0
  enabled (snap : Snapshot ℝ) (gui : g.Input) :
    ∃ answer : Command ℝ,
      (t.process ⟨snap, gui, true⟩).1.calls =
        t.calls ++ (if n = 0 then [.onEnable snap] else []) ++
          [.evaluate f.cyclePeriod snap gui answer] ∧
      (c.process ⟨snap, gui, true⟩).2.1 =
        ⟨answer.legs.map fun leg => leg.map (· * f.startupFactor n), answer.code⟩ ∧
      (c.process ⟨snap, gui, true⟩).2.2.enabled = true ∧
      (c.process ⟨snap, gui, true⟩).2.2.rampFactor = f.startupFactor n

/-- Currents are scaled only during the ramp, but the factor is right in every cycle. -/
theorem scaled_answer (f : Framework ℝ) (hramp : 0 ≤ f.startupRamp) (n : ℕ)
    (answer : Command ℝ) :
    (if f.rampFactor n < 1 then answer.scale (f.rampFactor n) else answer) =
      ⟨answer.legs.map fun leg => leg.map (· * f.startupFactor n), answer.code⟩ := by
  rw [f.rampFactor_eq hramp]
  split
  · rfl
  · next hlt =>
    have hone : f.startupFactor n = 1 :=
      le_antisymm (f.startupFactor_le_one n) (not_lt.mp hlt)
    rw [hone]
    exact answer.scale_one.symm

theorem cycleLaw_of_steady {f : Framework ℝ} (hramp : 0 ≤ f.startupRamp) {c : GaitControl g}
    {t : GaitControl g.traced} {es : List (Event g)} (hframework : c.framework = f)
    (hsteady : Steady es c) (htwin : t.untraced = c) : CycleLaw f (enabledStreak es) c t := by
  subst htwin hframework
  refine ⟨rfl, rfl, fun snap gui => ?_, fun snap gui => ?_⟩
  · exact ⟨calls_process_disabled t snap gui, rfl, rfl, Scalar.real_zero⟩
  have hstreak : t.streak = enabledStreak es := hsteady.streak
  have hon : t.enabled = decide (0 < enabledStreak es) := hsteady.enabled
  obtain ⟨answer, hcalls, hcommand⟩ := calls_process_enabled t snap gui
  refine ⟨answer, ?_, ?_, ?_, ?_⟩
  · rw [hcalls, hon]
    by_cases hzero : enabledStreak es = 0
    · simp [hzero, untraced]
    · simp [hzero, Nat.pos_of_ne_zero hzero, untraced]
  · rw [← (process_traced t snap gui true).2, hcommand, hstreak]
    simp only [Scalar.real_lt, Scalar.real_one]
    exact scaled_answer t.framework hramp (enabledStreak es) answer
  · rw [process_enabled]
  · rw [process_enabled]
    show t.untraced.framework.rampFactor t.untraced.streak = _
    rw [hsteady.streak, Framework.rampFactor_eq _ hramp]

/-- After any events, a controller with checked parameters obeys the law of the streak of enabled
cycles at their end. -/
theorem new_run_cycleLaw (g : Gait ℝ) (f : Framework ℝ) (p : g.Params) (hf : f.check = .ok ()) :
    ∃ (c₀ : GaitControl g) (t₀ : GaitControl g.traced),
      GaitControl.new g f p = .ok c₀ ∧ GaitControl.new g.traced f p = .ok t₀ ∧
      ∀ es : List (Event g),
        CycleLaw f (enabledStreak es) (c₀.run es).1 (t₀.run (es.map Event.traced)).1 := by
  obtain ⟨-, hramp⟩ := f.check_eq_ok_iff.mp hf
  refine ⟨⟨f, p, g.configure p g.initial, false, 0, 0⟩,
    ⟨f, p, g.traced.configure p g.traced.initial, false, 0, 0⟩, ?_, ?_, fun es => ?_⟩
  · simp [GaitControl.new, hf]
  · simp [GaitControl.new, hf]
  · exact cycleLaw_of_steady hramp
      (run_fixed ⟨f, p, g.configure p g.initial, false, 0, 0⟩ es).1
      (steady_run ⟨f, p, g.configure p g.initial, false, 0, 0⟩ rfl rfl es)
      (run_traced ⟨f, p, g.traced.configure p g.traced.initial, false, 0, 0⟩ es)

/-- A period of one second and a ramp of two are accepted. -/
theorem constForce_run_cycleLaw :
    Framework.check (⟨1, 2⟩ : Framework ℝ) = .ok () ∧
    ∃ (c₀ : GaitControl (ConstForce.gait : Gait ℝ)) (t₀ : GaitControl ConstForce.gait.traced),
      GaitControl.new ConstForce.gait ⟨1, 2⟩ ConstForce.Params.standard = .ok c₀ ∧
      GaitControl.new ConstForce.gait.traced ⟨1, 2⟩ ConstForce.Params.standard = .ok t₀ ∧
      ∀ es : List (Event (ConstForce.gait : Gait ℝ)),
        CycleLaw ⟨1, 2⟩ (enabledStreak es) (c₀.run es).1 (t₀.run (es.map Event.traced)).1 := by
  have hcheck : Framework.check (⟨1, 2⟩ : Framework ℝ) = .ok () := by
    rw [Framework.check_eq_ok_iff]
    norm_num
  exact ⟨hcheck, new_run_cycleLaw ConstForce.gait ⟨1, 2⟩ ConstForce.Params.standard hcheck⟩

end GaitControl

end BoomWalker
