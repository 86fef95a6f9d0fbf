/-
The cubic polynomial as a polynomial, over any field.

A polynomial of degree three at most is known from value and slope at two points, because one that has
double roots at both is zero (`Meets.unique`). Main statement: the control law evaluates just that
polynomial, and its formal derivative, at every point of the field and for ends in either order
(`eval_interpolates`). Nothing is asked of the field: it need have no order, and may have any
characteristic.
-/
import Mathlib
import BoomWalker.Motion.CubicSpline
import BoomWalker.Proofs.Scalar.Field

namespace BoomWalker.CubicSpline

open Polynomial

variable {K : Type} [Field K]

/-! ## Polynomials with given ends -/

/-- The ends of a polynomial, with its value and slope at each. -/
noncomputable def through (p : K[X]) (x0 x1 : K) : CubicSpline K :=
  ⟨x0, x1, p.eval x0, p.eval x1, p.derivative.eval x0, p.derivative.eval x1⟩

/-- A cubic polynomial has the given value and slope at both ends. -/
structure Meets (c : CubicSpline K) (p : K[X]) : Prop where
  degree_le : p.degree ≤ 3
  eval_x0 : p.eval c.x0 = c.y0
  eval_x1 : p.eval c.x1 = c.y1
  slope_x0 : p.derivative.eval c.x0 = c.dy0
  slope_x1 : p.derivative.eval c.x1 = c.dy1

theorem through_meets {p : K[X]} (hp : p.degree ≤ 3) (x0 x1 : K) : (through p x0 x1).Meets p :=
  ⟨hp, rfl, rfl, rfl, rfl⟩

/-- A polynomial that touches zero is divided by the square of the distance. -/
theorem sq_dvd_of_touches {p : K[X]} {a : K} (hvalue : p.eval a = 0)
    (hslope : p.derivative.eval a = 0) : (X - C a) ^ 2 ∣ p := by
  by_cases hp : p = 0
  · exact hp ▸ dvd_zero _
  · exact (le_rootMultiplicity_iff hp).mp
      ((one_lt_rootMultiplicity_iff_isRoot hp).mpr ⟨hvalue, hslope⟩)

/-- No cubic polynomial but zero touches zero twice. -/
theorem eq_zero_of_touches_twice {p : K[X]} {a b : K} (hab : a ≠ b) (hp : p.degree ≤ 3)
    (ha : p.eval a = 0) (ha' : p.derivative.eval a = 0) (hb : p.eval b = 0)
    (hb' : p.derivative.eval b = 0) : p = 0 := by
  have hcoprime : IsCoprime ((X - C a) ^ 2) ((X - C b) ^ 2) :=
    (isCoprime_X_sub_C_of_isUnit_sub (sub_ne_zero.mpr hab).isUnit).pow
  have hdvd := hcoprime.mul_dvd (sq_dvd_of_touches ha ha') (sq_dvd_of_touches hb hb')
  have hfour : ((X - C a) ^ 2 * (X - C b) ^ 2).degree = 4 := by
    rw [degree_mul, degree_pow, degree_pow, degree_X_sub_C, degree_X_sub_C]
    rfl
  -- What divides it has a higher degree than the polynomial.
  exact eq_zero_of_dvd_of_degree_lt hdvd (hp.trans_lt (hfour ▸ by decide))

variable {c : CubicSpline K}

/-- Value and slope at both ends leave one cubic polynomial. -/
theorem Meets.unique {p q : K[X]} (hc : c.x0 ≠ c.x1) (hp : c.Meets p) (hq : c.Meets q) :
    p = q := by
  refine sub_eq_zero.mp (eq_zero_of_touches_twice hc ?_ ?_ ?_ ?_ ?_)
  · exact (degree_sub_le p q).trans (max_le hp.degree_le hq.degree_le)
  · rw [eval_sub, hp.eval_x0, hq.eval_x0, sub_self]
  · rw [derivative_sub, eval_sub, hp.slope_x0, hq.slope_x0, sub_self]
  · rw [eval_sub, hp.eval_x1, hq.eval_x1, sub_self]
  · rw [derivative_sub, eval_sub, hp.slope_x1, hq.slope_x1, sub_self]

/-! ## The polynomial in Hermite form -/

/-- Where a point lies in the domain, whose ends are at zero and one. -/
noncomputable def place (c : CubicSpline K) : K[X] := C (c.x1 - c.x0)⁻¹ * (X - C c.x0)

/-- The polynomial that has the value and slope of each end there, and touches zero at the other. -/
noncomputable def polynomial (c : CubicSpline K) : K[X] :=
  let s := c.place
  let t := 1 - s
  t ^ 2 * (C c.y0 * (1 + (s + s)) + C ((c.x1 - c.x0) * c.dy0) * s) +
    s ^ 2 * (C c.y1 * (1 + (t + t)) - C ((c.x1 - c.x0) * c.dy1) * t)

theorem degree_polynomial (c : CubicSpline K) : c.polynomial.degree ≤ 3 := by
  simp only [polynomial, place]
  compute_degree

theorem eval_place (c : CubicSpline K) (x : K) :
    c.place.eval x = (x - c.x0) / (c.x1 - c.x0) := by
  simp [place, div_eq_inv_mul]

theorem derivative_place (c : CubicSpline K) : derivative c.place = C (c.x1 - c.x0)⁻¹ := by
  simp [place]

theorem eval_polynomial (c : CubicSpline K) (x : K) :
    let s := c.place.eval x
    c.polynomial.eval x =
      (2 * s ^ 3 - 3 * s ^ 2 + 1) * c.y0 + (s ^ 3 - 2 * s ^ 2 + s) * ((c.x1 - c.x0) * c.dy0) +
        (3 * s ^ 2 - 2 * s ^ 3) * c.y1 + (s ^ 3 - s ^ 2) * ((c.x1 - c.x0) * c.dy1) := by
  simp [polynomial]
  ring

section Ends

variable (hc : c.x0 ≠ c.x1)

include hc

theorem eval_derivative_polynomial (x : K) :
    let s := c.place.eval x
    (derivative c.polynomial).eval x =
      (6 * s ^ 2 - 6 * s) * (c.y0 / (c.x1 - c.x0)) + (3 * s ^ 2 - 4 * s + 1) * c.dy0 +
        (6 * s - 6 * s ^ 2) * (c.y1 / (c.x1 - c.x0)) + (3 * s ^ 2 - 2 * s) * c.dy1 := by
  have hlength : c.x1 - c.x0 ≠ 0 := sub_ne_zero.mpr hc.symm
  simp [polynomial, derivative_place, derivative_pow]
  field_simp
  ring

theorem polynomial_meets : c.Meets c.polynomial := by
  have hlength : c.x1 - c.x0 ≠ 0 := sub_ne_zero.mpr hc.symm
  have hfirst : c.place.eval c.x0 = 0 := by rw [eval_place, sub_self, zero_div]
  have hlast : c.place.eval c.x1 = 1 := by rw [eval_place, div_self hlength]
  refine ⟨c.degree_polynomial, ?_, ?_, ?_, ?_⟩
  · rw [eval_polynomial, hfirst]
    ring
  · rw [eval_polynomial, hlast]
    ring
  · rw [eval_derivative_polynomial hc, hfirst]
    ring
  · rw [eval_derivative_polynomial hc, hlast]
    ring

/-- The control law evaluates the polynomial in Hermite form, and its derivative. -/
theorem eval_ofField (o : Scalar.Others K) (x : K) :
    @eval K (.ofField o) c x = (c.polynomial.eval x, (derivative c.polynomial).eval x) := by
  apply Prod.ext
  · rw [eval_polynomial, eval_place]
    simp only [eval, Scalar.ofField_add, Scalar.ofField_sub, Scalar.ofField_mul, Scalar.ofField_div,
      Scalar.ofField_neg, Scalar.ofField_one, Scalar.ofField_numeral]
    ring
  · rw [eval_derivative_polynomial hc, eval_place]
    simp only [eval, Scalar.ofField_add, Scalar.ofField_sub, Scalar.ofField_mul, Scalar.ofField_div,
      Scalar.ofField_neg, Scalar.ofField_one, Scalar.ofField_numeral]
    ring

/-- Whatever polynomial meets the ends is the one that is evaluated. -/
theorem Meets.eval_eq (o : Scalar.Others K) {p : K[X]} (hp : c.Meets p) (x : K) :
    @eval K (.ofField o) c x = (p.eval x, (derivative p).eval x) := by
  rw [hp.unique hc (polynomial_meets hc), eval_ofField hc]

end Ends

/-- A cubic polynomial is evaluated from its ends, with its derivative, at every point. So any value
and slope at two points are met, by one cubic polynomial only, and it is this polynomial and its
derivative that are evaluated. -/
theorem eval_interpolates (o : Scalar.Others K) {x0 x1 : K} (hx : x0 ≠ x1) :
    (∀ p : K[X], p.degree ≤ 3 → ∀ x, @eval K (.ofField o) (through p x0 x1) x =
      (p.eval x, (derivative p).eval x)) ∧
    ∀ y0 y1 dy0 dy1 : K,
      let c : CubicSpline K := ⟨x0, x1, y0, y1, dy0, dy1⟩
      @eval K (.ofField o) c x0 = (y0, dy0) ∧ @eval K (.ofField o) c x1 = (y1, dy1) ∧
        ∃ p, c.Meets p ∧ (∀ q, c.Meets q → q = p) ∧
          ∀ x, @eval K (.ofField o) c x = (p.eval x, (derivative p).eval x) := by
  refine ⟨fun p hp x => (through_meets hp x0 x1).eval_eq hx o x, ?_⟩
  intro y0 y1 dy0 dy1 c
  have hmeets : c.Meets c.polynomial := polynomial_meets hx
  refine ⟨?_, ?_, c.polynomial, hmeets, fun q hq => hq.unique hx hmeets, hmeets.eval_eq hx o⟩
  · rw [hmeets.eval_eq hx, hmeets.eval_x0, hmeets.slope_x0]
  · rw [hmeets.eval_eq hx, hmeets.eval_x1, hmeets.slope_x1]

/-- The cube from two to one, continued to five. -/
theorem cube_eval_interpolates :
    (2 : ℝ) ≠ 1 ∧ (through (X ^ 3 : ℝ[X]) 2 1).eval 5 = (125, 75) ∧
      (⟨2, 1, 7, 4, -3, 0⟩ : CubicSpline ℝ).eval 1 = (4, 0) := by
  have hx : (2 : ℝ) ≠ 1 := by norm_num
  obtain ⟨hcube, hends⟩ := eval_interpolates (Scalar.others ℝ) hx
  rw [Scalar.ofField_real] at hcube hends
  obtain ⟨-, hend, -⟩ := hends 7 4 (-3) 0
  refine ⟨hx, ?_, hend⟩
  rw [hcube _ (degree_X_pow_le 3)]
  norm_num

end BoomWalker.CubicSpline
