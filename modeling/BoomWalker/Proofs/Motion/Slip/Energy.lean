/-
The energy of the pendulum over exact arithmetic.

Gravity takes part in two of the pendulum's equations, along the leg and across it. The equation along
the leg is that of a mass under gravity, and the one across it has gravity the wrong way round: a mass
that tilts to one side is accelerated to the other. So the energy of a pendulum is not kept. It changes
at the rate of `drift`, twice the power of gravity across the leg, and stands still exactly where that
power is zero (`energy_drifts`). With gravity across the leg turned round the energy would be kept
everywhere (`power_falling`).
-/
import Mathlib
import BoomWalker.Motion.Slip
import BoomWalker.Proofs.Scalar.Real

namespace BoomWalker

open Real

/-- The states of a motion change at the rate `d` at the time `t`. -/
structure SlipState.Moves (x : ℝ → SlipState ℝ) (d : SlipState ℝ) (t : ℝ) : Prop where
  r : HasDerivAt (fun τ => (x τ).r) d.r t
  dr : HasDerivAt (fun τ => (x τ).dr) d.dr t
  q : HasDerivAt (fun τ => (x τ).q) d.q t
  dq : HasDerivAt (fun τ => (x τ).dq) d.dq t

/-- The motion straight on from a state, at a rate. -/
theorem SlipState.moves_line (s d : SlipState ℝ) :
    SlipState.Moves (fun t => s.add (d.scale t)) d 0 := by
  have hline (a b : ℝ) : HasDerivAt (fun t => a + b * t) b 0 := by
    simpa using ((hasDerivAt_id (0 : ℝ)).const_mul b).const_add a
  exact ⟨hline s.r d.r, hline s.dr d.dr, hline s.q d.q, hline s.dq d.dq⟩

namespace SlipModel

variable (m : SlipModel ℝ) (s : SlipState ℝ)

/-! ## Energy and power -/

/-- Energy of the mass in motion, of the mass under gravity and of the spring. -/
noncomputable def energy : ℝ :=
  0.5 * m.mass * (s.dr ^ 2 + s.r ^ 2 * s.dq ^ 2) - m.mass * m.gravity * s.r * sin s.q +
    0.5 * m.spring * (m.restLength - s.r) ^ 2

/-- The rate of the energy in a state that changes at the rate `d`. -/
noncomputable def power (d : SlipState ℝ) : ℝ :=
  m.mass * s.dr * d.dr + m.mass * s.r * d.r * s.dq ^ 2 + m.mass * s.r ^ 2 * s.dq * d.dq -
    m.mass * m.gravity * (d.r * sin s.q + s.r * cos s.q * d.q) -
    m.spring * (m.restLength - s.r) * d.r

variable {m s}

/-- The energy of a motion changes by its power. -/
theorem hasDerivAt_energy {x : ℝ → SlipState ℝ} {d : SlipState ℝ} {t : ℝ}
    (h : SlipState.Moves x d t) :
    HasDerivAt (fun τ => m.energy (x τ)) (m.power (x t) d) t := by
  have hspeed := ((h.dr.pow 2).add ((h.r.pow 2).mul (h.dq.pow 2))).const_mul (0.5 * m.mass)
  have hheight := (h.r.const_mul (m.mass * m.gravity)).mul h.q.sin
  have hspring := ((h.r.const_sub m.restLength).pow 2).const_mul (0.5 * m.spring)
  refine ((hspeed.sub hheight).add hspring).congr_deriv ?_
  simp only [power, Pi.pow_apply]
  ring

/-! ## Gravity along the leg and across it -/

theorem derivative_eq (m : SlipModel ℝ) (s : SlipState ℝ) :
    m.derivative s =
      ⟨s.dr, s.r * s.dq * s.dq + m.gravity * sin s.q + m.spring * (m.restLength - s.r) / m.mass,
        s.dq, -(2 * s.dq * s.dr + m.gravity * cos s.q) / s.r⟩ := by
  simp only [derivative, Scalar.real_add, Scalar.real_sub, Scalar.real_mul, Scalar.real_div,
    Scalar.real_neg, Scalar.real_sin, Scalar.real_cos, Scalar.real_numeral]

/-- The power that gravity has across the leg. -/
noncomputable def acrossPower (m : SlipModel ℝ) (s : SlipState ℝ) : ℝ :=
  m.mass * m.gravity * s.r * cos s.q * s.dq

/-- The rates of a mass that falls: across the leg, gravity is the other way round. -/
noncomputable def falling (m : SlipModel ℝ) (s : SlipState ℝ) : SlipState ℝ :=
  { m.derivative s with dq := (SlipModel.derivative { m with gravity := -m.gravity } s).dq }

/-- A mass that falls keeps its energy. -/
theorem power_falling (hm : m.mass ≠ 0) : m.power s (m.falling s) = 0 := by
  simp only [power, falling, derivative_eq]
  field_simp
  ring

/-- The pendulum is a mass that falls, but for gravity across the leg. -/
theorem power_derivative (hm : m.mass ≠ 0) :
    m.power s (m.derivative s) = -2 * m.acrossPower s := by
  have hturned : (m.derivative s).dq - (m.falling s).dq = -2 * (m.gravity * cos s.q) / s.r := by
    simp only [falling, derivative_eq]
    ring
  -- The two rates differ across the leg only, and so do their powers.
  have hacross : m.power s (m.derivative s) = m.power s (m.falling s) +
      m.mass * s.r ^ 2 * s.dq * ((m.derivative s).dq - (m.falling s).dq) := by
    simp only [power, falling]
    ring
  rw [hacross, power_falling hm, hturned, acrossPower]
  field_simp
  ring

theorem acrossPower_eq_zero_iff (hm : m.mass ≠ 0) (hr : s.r ≠ 0) :
    m.acrossPower s = 0 ↔ m.gravity = 0 ∨ cos s.q = 0 ∨ s.dq = 0 := by
  simp [acrossPower, hm, hr, or_assoc]

/-- The energy of a pendulum drifts by twice the power that gravity has across the leg, in the
equations of motion and along every motion that obeys them. It stands still exactly where there is no
such power, and would stand still everywhere if gravity were turned round there. -/
theorem energy_drifts (m : SlipModel ℝ) (s : SlipState ℝ) (hm : m.mass ≠ 0) (hr : s.r ≠ 0) :
    let d := m.derivative s
    let drift := -2 * (m.mass * m.gravity * s.r * cos s.q * s.dq)
    m.mass * s.dr * d.dr + m.mass * s.r * s.dr * s.dq ^ 2 + m.mass * s.r ^ 2 * s.dq * d.dq -
        m.mass * m.gravity * (s.dr * sin s.q + s.r * cos s.q * s.dq) -
        m.spring * (m.restLength - s.r) * s.dr = drift ∧
      (∀ x t, x t = s → SlipState.Moves x d t → HasDerivAt (fun τ => m.energy (x τ)) drift t) ∧
      (drift = 0 ↔ m.gravity = 0 ∨ cos s.q = 0 ∨ s.dq = 0) ∧
      ∀ x t, x t = s → SlipState.Moves x (m.falling s) t →
        HasDerivAt (fun τ => m.energy (x τ)) 0 t := by
  intro d drift
  have hpower : m.power s d = drift := power_derivative hm
  refine ⟨hpower, ?_, ?_, ?_⟩
  · rintro x t rfl hmoves
    rw [← hpower]
    exact hasDerivAt_energy hmoves
  · rw [← acrossPower_eq_zero_iff hm hr, mul_eq_zero_iff_left (by norm_num)]
    rfl
  · rintro x t rfl hmoves
    rw [← power_falling hm]
    exact hasDerivAt_energy hmoves

/-- A pendulum at rest length that leans to one side and swings upwards. -/
noncomputable def leaning : SlipState ℝ := ⟨0.9, 0, arccos 0.5, 1⟩

/-- Gravity takes energy from the leaning pendulum, across the leg. -/
theorem acrossPower_leaning :
    (onSite 10000 0.9 60 : SlipModel ℝ).acrossPower leaning = -264.87 := by
  have hcos : cos leaning.q = 0.5 := cos_arccos (by norm_num) (by norm_num)
  rw [acrossPower, hcos]
  norm_num [onSite, standardGravity, leaning]

theorem onSite_energy_drifts :
    let m : SlipModel ℝ := onSite 10000 0.9 60
    (m.mass ≠ 0 ∧ leaning.r ≠ 0) ∧
      HasDerivAt (fun τ => m.energy (leaning.add ((m.derivative leaning).scale τ))) 529.74 0 := by
  intro m
  have hm : m.mass ≠ 0 := by norm_num [m, onSite]
  have hr : leaning.r ≠ 0 := by norm_num [leaning]
  have hstart : leaning.add ((m.derivative leaning).scale 0) = leaning := by
    simp [SlipState.add, SlipState.scale, SlipState.zipWith]
  obtain ⟨-, hdrift, -, -⟩ := energy_drifts m leaning hm hr
  have hgain : -2 * m.acrossPower leaning = 529.74 := by
    rw [acrossPower_leaning]
    norm_num
  rw [← hgain]
  exact ⟨⟨hm, hr⟩, hdrift _ 0 hstart (SlipState.moves_line _ _)⟩

/-- The leaning pendulum swings upwards and gains speed. -/
theorem not_always_conserved :
    ¬ ∀ (m : SlipModel ℝ) (s : SlipState ℝ), m.mass ≠ 0 → s.r ≠ 0 →
      let d := m.derivative s
      m.mass * s.dr * d.dr + m.mass * s.r * s.dr * s.dq ^ 2 + m.mass * s.r ^ 2 * s.dq * d.dq -
        m.mass * m.gravity * (s.dr * sin s.q + s.r * cos s.q * s.dq) -
        m.spring * (m.restLength - s.r) * s.dr = 0 := by
  intro h
  have hm : (onSite 10000 0.9 60 : SlipModel ℝ).mass ≠ 0 := by norm_num [onSite]
  have hzero := h (onSite 10000 0.9 60) leaning hm (by norm_num [leaning])
  have hpower := (power_derivative hm).symm.trans hzero
  rw [acrossPower_leaning] at hpower
  norm_num at hpower

end SlipModel

end BoomWalker
