/-
The course of a pendulum that stands upright, over exact arithmetic.

Upright and without turning, the pendulum is a mass on a spring: what it does is linear in its distance
from the length at which the spring carries the mass (`derivative_upright`). All stages of a step are
upright again, so a step of integration applies the Taylor polynomial of order four of the oscillator
to that distance and its rate (`step_upright`).

Main statement: any number of steps applies a power of that polynomial, and leaves the pendulum upright.
As long as no stage has a leg of no length, no value on the way is undefined (`run_upright`).
-/
import Mathlib
import BoomWalker.Motion.Slip
import BoomWalker.Proofs.Scalar.Partial

namespace BoomWalker

open Real PartialReal
open scoped Matrix

/-- Read the components elsewhere. -/
def SlipState.map {α β : Type} (f : α → β) (s : SlipState α) : SlipState β :=
  ⟨f s.r, f s.dr, f s.q, f s.dq⟩

/-- A rate that has no part across the leg. -/
def SlipState.lengthwise (w : Fin 2 → ℝ) : SlipState ℝ := ⟨w 0, w 1, 0, 0⟩

namespace SlipModel

/-! ## The stages of a step -/

section Stages

variable {α : Type} [Scalar α]

/-- The four states of which a step takes the rates. -/
def stages (m : SlipModel α) (x : SlipState α) (dt : α) : List (SlipState α) :=
  let second := x.add ((m.derivative x).scale (dt / 2))
  let third := x.add ((m.derivative second).scale (dt / 2))
  let fourth := x.add ((m.derivative third).scale dt)
  [x, second, third, fourth]

/-- The state after a number of steps. -/
def run (m : SlipModel α) (dt : α) (n : ℕ) (x : SlipState α) : SlipState α :=
  (fun y => m.step y dt)^[n] x

theorem run_succ (m : SlipModel α) (dt : α) (n : ℕ) (x : SlipState α) :
    m.run dt (n + 1) x = m.step (m.run dt n x) dt :=
  Function.iterate_succ_apply' _ _ _

end Stages

/-! ## Where all values are defined -/

/-- Read the parameters elsewhere. -/
def map {α β : Type} (f : α → β) (m : SlipModel α) : SlipModel β :=
  ⟨f m.spring, f m.restLength, f m.mass, f m.gravity⟩

section Defined

variable {m : SlipModel ℝ} {x : SlipState ℝ}

theorem derivative_of (hm : m.mass ≠ 0) (hr : x.r ≠ 0) :
    (m.map of).derivative (x.map of) = (m.derivative x).map of := by
  simp only [derivative, map, SlipState.map, of_add, of_sub, of_mul, of_neg, sin_of, cos_of,
    numeral_eq, of_div _ hm, of_div _ hr]
  rfl

/-- A step is defined if its stages have legs of some length. -/
theorem step_of (hm : m.mass ≠ 0) {dt : ℝ} (hx : ∀ s ∈ m.stages x dt, s.r ≠ 0) :
    (m.map of).step (x.map of) (of dt) = (m.step x dt).map of := by
  simp only [stages, List.forall_mem_cons] at hx
  obtain ⟨h1, h2, h3, h4, -⟩ := hx
  -- The stages are one state each, put together from the rates of the stages before.
  have hadd (y z : SlipState ℝ) : (y.map of).add (z.map of) = (y.add z).map of := rfl
  have hscale (y : SlipState ℝ) (c : ℝ) : (y.map of).scale (of c) = (y.scale c).map of := rfl
  have hsixth : of dt / of 6 = of (dt / 6) := of_div dt (by norm_num)
  simp only [step, numeral_eq, of_div _ two_ne_zero, hsixth, hadd, hscale, derivative_of hm h1,
    derivative_of hm h2, derivative_of hm h3, derivative_of hm h4]

/-- A run is defined if no stage on the way has a leg of no length. -/
theorem run_of (hm : m.mass ≠ 0) {dt : ℝ} {n : ℕ}
    (hx : ∀ i < n, ∀ s ∈ m.stages (m.run dt i x) dt, s.r ≠ 0) :
    (m.map of).run (of dt) n (x.map of) = (m.run dt n x).map of := by
  induction n with
  | zero => rfl
  | succ n ih =>
    have hrun := ih fun i hi => hx i (hi.trans n.lt_succ_self)
    rw [run_succ, hrun, step_of hm (hx n n.lt_succ_self), ← run_succ]

end Defined

/-! ## The linear oscillator -/

/-- The acceleration of a pendulum that stands upright. -/
noncomputable def lift (m : SlipModel ℝ) (r : ℝ) : ℝ :=
  m.gravity + m.spring * (m.restLength - r) / m.mass

/-- The length at which the spring carries the mass. -/
noncomputable def equilibrium (m : SlipModel ℝ) : ℝ :=
  m.restLength + m.gravity * m.mass / m.spring

/-- The rates of a mass on a spring, by its distance from the equilibrium and its speed. -/
noncomputable def oscillator (m : SlipModel ℝ) : Matrix (Fin 2) (Fin 2) ℝ :=
  !![0, 1; -(m.spring / m.mass), 0]

/-- The Taylor polynomial of order four of the exponential. -/
noncomputable def taylor (z : Matrix (Fin 2) (Fin 2) ℝ) : Matrix (Fin 2) (Fin 2) ℝ :=
  ∑ k ∈ Finset.range 5, (k.factorial : ℝ)⁻¹ • z ^ k

theorem taylor_eq (z : Matrix (Fin 2) (Fin 2) ℝ) :
    taylor z = 1 + z + (1 / 2 : ℝ) • z ^ 2 + (1 / 6 : ℝ) • z ^ 3 + (1 / 24 : ℝ) • z ^ 4 := by
  simp [taylor, Finset.sum_range_succ, Nat.factorial]

theorem taylor_mulVec (z : Matrix (Fin 2) (Fin 2) ℝ) (v : Fin 2 → ℝ) :
    taylor z *ᵥ v = v + z *ᵥ v + (1 / 2 : ℝ) • z *ᵥ z *ᵥ v + (1 / 6 : ℝ) • z *ᵥ z *ᵥ z *ᵥ v +
      (1 / 24 : ℝ) • z *ᵥ z *ᵥ z *ᵥ z *ᵥ v := by
  simp only [taylor_eq, pow_succ, pow_zero, one_mul, Matrix.add_mulVec, Matrix.one_mulVec,
    Matrix.smul_mulVec, Matrix.mulVec_mulVec, mul_assoc]

/-- The upright pendulum at a distance from the equilibrium, with a speed. -/
noncomputable def upright (m : SlipModel ℝ) (v : Fin 2 → ℝ) : SlipState ℝ :=
  ⟨m.equilibrium + v 0, v 1, Scalar.halfPi, 0⟩

section Upright

variable {m : SlipModel ℝ} (v w : Fin 2 → ℝ)

theorem upright_add : (m.upright v).add (SlipState.lengthwise w) = m.upright (v + w) := by
  simp [SlipState.add, SlipState.zipWith, SlipState.lengthwise, upright, add_assoc]

theorem lengthwise_add :
    (SlipState.lengthwise v).add (SlipState.lengthwise w) = SlipState.lengthwise (v + w) := by
  simp [SlipState.add, SlipState.zipWith, SlipState.lengthwise]

theorem lengthwise_scale (c : ℝ) :
    (SlipState.lengthwise w).scale c = SlipState.lengthwise (c • w) := by
  simp [SlipState.scale, SlipState.lengthwise, mul_comm]

theorem oscillator_mulVec : m.oscillator *ᵥ v = ![v 1, -(m.spring / m.mass) * v 0] := by
  ext i
  fin_cases i
  · simp [oscillator, Matrix.mulVec, dotProduct]
  · simp [oscillator, Matrix.mulVec, dotProduct]

/-- The polynomial of the oscillator, written out. -/
theorem taylor_oscillator (x dx dt : ℝ) :
    let k := m.spring / m.mass
    let c := 1 - k * dt ^ 2 / 2 + (k * dt ^ 2) ^ 2 / 24
    let s := dt * (1 - k * dt ^ 2 / 6)
    taylor (dt • m.oscillator) *ᵥ ![x, dx] = ![c * x + s * dx, c * dx - k * s * x] := by
  intro k c s
  simp only [taylor_mulVec, Matrix.smul_mulVec, oscillator_mulVec, Matrix.cons_val_zero,
    Matrix.cons_val_one, Matrix.smul_cons, Matrix.smul_empty, Matrix.cons_add_cons,
    Matrix.empty_add_empty, smul_eq_mul, k, c, s]
  congr 1
  · ring
  · congr 1
    ring

variable (hk : m.spring ≠ 0) (hm : m.mass ≠ 0)

include hk hm

/-- What lifts the mass is linear in the distance from the equilibrium. -/
theorem lift_equilibrium (x : ℝ) :
    m.lift (m.equilibrium + x) = -(m.spring / m.mass) * x := by
  unfold lift equilibrium
  field_simp
  ring

/-- Upright, the pendulum is a mass on a spring. -/
theorem derivative_upright :
    m.derivative (m.upright v) = SlipState.lengthwise (m.oscillator *ᵥ v) := by
  rw [oscillator_mulVec]
  simp [derivative, upright, SlipState.lengthwise, ← lift_equilibrium hk hm, lift]

/-- A step of integration is the polynomial of order four, because the rates are linear. -/
theorem step_upright (dt : ℝ) :
    m.step (m.upright v) dt = m.upright (taylor (dt • m.oscillator) *ᵥ v) := by
  simp only [step, derivative_upright _ hk hm, upright_add, lengthwise_add, lengthwise_scale,
    taylor_mulVec, Matrix.mulVec_add, Matrix.mulVec_smul, Matrix.smul_mulVec]
  congr 1
  module

/-- The lengths of the leg in the four stages of a step. -/
theorem stages_upright_r (dt : ℝ) :
    let k := m.spring / m.mass
    (m.stages (m.upright v) dt).map SlipState.r =
      [m.equilibrium + v 0, m.equilibrium + (v 0 + dt / 2 * v 1),
        m.equilibrium + (v 0 + dt / 2 * (v 1 - dt / 2 * (k * v 0))),
        m.equilibrium + (v 0 + dt * (v 1 - dt / 2 * (k * (v 0 + dt / 2 * v 1))))] := by
  simp only [stages, derivative_upright _ hk hm, upright_add, lengthwise_scale, oscillator_mulVec]
  simp [upright, sub_eq_add_neg]

theorem run_of_upright (dt : ℝ) (n : ℕ) :
    m.run dt n (m.upright v) = m.upright (taylor (dt • m.oscillator) ^ n *ᵥ v) := by
  induction n with
  | zero => simp [run]
  | succ n ih => rw [run_succ, ih, step_upright _ hk hm, Matrix.mulVec_mulVec, ← pow_succ']

end Upright

/-- An upright pendulum stays upright, and its distance from the equilibrium and its speed are carried
by the Taylor polynomial of order four of the oscillator, once for each step. No value on the way is
undefined as long as the stages have legs of some length. -/
theorem run_upright (m : SlipModel ℝ) (hk : m.spring ≠ 0) (hm : m.mass ≠ 0) (dt : ℝ)
    (x : SlipState ℝ) (hq : x.q = π / 2) (hdq : x.dq = 0) (n : ℕ)
    (hlengths : ∀ i < n, ∀ s ∈ m.stages (m.run dt i x) dt, s.r ≠ 0) :
    let y := m.run dt n x
    (m.map of).run (of dt) n (x.map of) = y.map of ∧ y.q = π / 2 ∧ y.dq = 0 ∧
      ![y.r - m.equilibrium, y.dr] =
        taylor (dt • m.oscillator) ^ n *ᵥ ![x.r - m.equilibrium, x.dr] := by
  intro y
  have hstart : x = m.upright ![x.r - m.equilibrium, x.dr] := by
    obtain ⟨r, dr, q, dq⟩ := x
    simp_all [upright]
  have hend : y = m.upright (taylor (dt • m.oscillator) ^ n *ᵥ ![x.r - m.equilibrium, x.dr]) := by
    rw [← run_of_upright _ hk hm, ← hstart]
  refine ⟨run_of hm hlengths, ?_, ?_, ?_⟩
  · rw [hend]
    rfl
  · rw [hend]
    rfl
  · rw [hend]
    ext i
    fin_cases i
    · exact add_sub_cancel_left _ _
    · rfl

theorem onSite_run_upright :
    let m : SlipModel ℝ := onSite 10000 0.9 60
    let x : SlipState ℝ := ⟨0.9, -1, π / 2, 0⟩
    let y := m.run 0.001 2 x
    (m.spring ≠ 0 ∧ m.mass ≠ 0 ∧ x.q = π / 2 ∧ x.dq = 0 ∧
      ∀ i < 2, ∀ s ∈ m.stages (m.run 0.001 i x) 0.001, s.r ≠ 0) ∧
    (m.map of).run (of 0.001) 2 (x.map of) = y.map of ∧ y.q = π / 2 ∧ y.dq = 0 ∧
      ![y.r - m.equilibrium, y.dr] =
        taylor ((0.001 : ℝ) • m.oscillator) ^ 2 *ᵥ ![x.r - m.equilibrium, x.dr] := by
  intro m x y
  have hk : m.spring ≠ 0 := by norm_num [m, onSite]
  have hm : m.mass ≠ 0 := by norm_num [m, onSite]
  have hstiffness : m.spring / m.mass = 500 / 3 := by norm_num [m, onSite]
  have hequilibrium : m.equilibrium = 0.84114 := by
    norm_num [m, equilibrium, onSite, standardGravity]
  have hstart : x = m.upright ![0.05886, -1] := by
    norm_num [x, upright, hequilibrium]
  have hlengths : ∀ i < 2, ∀ s ∈ m.stages (m.run 0.001 i x) 0.001, s.r ≠ 0 := by
    intro i hi
    have hrun := run_of_upright ![0.05886, -1] hk hm 0.001 i
    rw [← hstart] at hrun
    -- The lengths of all stages are numbers, once the state before the step is.
    have hr : ∀ r ∈ (m.stages (m.run 0.001 i x) 0.001).map SlipState.r, r ≠ 0 := by
      rw [hrun, stages_upright_r _ hk hm, hstiffness, hequilibrium]
      obtain rfl | rfl : i = 0 ∨ i = 1 := by omega
      · norm_num
      · rw [pow_one, taylor_oscillator, hstiffness]
        norm_num
    exact fun s hs => hr _ (List.mem_map_of_mem hs)
  exact ⟨⟨hk, hm, rfl, rfl, hlengths⟩, run_upright m hk hm 0.001 x rfl rfl 2 hlengths⟩

end SlipModel

end BoomWalker
