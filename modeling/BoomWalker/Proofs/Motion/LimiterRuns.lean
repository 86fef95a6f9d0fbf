/-
Runs of a rate limiter that is given undefined and infinite values.

A limiter that starts from a real number keeps to real numbers, as long as its bounds are not infinite.
An undefined target or bound holds its output, and an infinite target is one that is never reached. So
each call is a move over the real numbers (`apply_real`, `apply_top`, `apply_bot`).

Main statement: every call of a run takes the output towards the target, by no more than the bound, and
not past it. A target that stays is reached in a straight line (`run_approaches`).
-/
import Mathlib
import BoomWalker.Proofs.Motion.RateLimiter
import BoomWalker.Proofs.Scalar.Extended

namespace BoomWalker.RateLimiter

open ExtendedReal

/-! ## One call -/

/-- The bound that is kept. One that is negative or undefined is none. -/
noncomputable def keptBound : ExtendedReal → ℝ
  | .of d => (max 0 d).toReal
  | .undefined => 0

theorem keptBound_nonneg (d : ExtendedReal) : 0 ≤ keptBound d := by
  cases d with
  | undefined => exact le_rfl
  | of d => exact EReal.toReal_nonneg (le_max_left _ _)

theorem keptBound_real (d : ℝ) : keptBound (real d) = max d 0 := by
  show (max ((0 : ℝ) : EReal) d).toReal = _
  rw [← EReal.coe_strictMono.monotone.map_max, EReal.toReal_coe, max_comm]

theorem bound_eq {d : ExtendedReal} (hd : d ≠ .of ⊤) :
    (if 0 < d then d else 0) = real (keptBound d) := by
  rw [zero_eq]
  cases d with
  | undefined => exact if_neg (not_lt_undefined _)
  | of d =>
    cases d with
    | bot =>
      have hbound : keptBound (.of ⊥) = 0 := by simp [keptBound]
      rw [hbound, if_neg (by simp)]
    | top => exact absurd rfl hd
    | coe d =>
      have hlt : real 0 < real d ↔ 0 < d := EReal.coe_lt_coe_iff
      rw [keptBound_real, max_comm, max_def_lt, apply_ite real]
      exact if_congr hlt rfl rfl

/-- One call with a bound takes the output towards the target. -/
structure Approaches (bound : ℝ) (target : ExtendedReal) (before after : ℝ) : Prop where
  near : |after - before| ≤ bound
  between : ∀ t, target = .of t → (after : EReal) ∈ Set.uIcc (before : EReal) t
  held : target = .undefined → after = before

theorem apply_undefined (l : RateLimiter ExtendedReal) (d : ExtendedReal) :
    l.apply .undefined d = l := by
  simp [apply]

section Calls

variable (v : ℝ) {d : ExtendedReal} (hd : d ≠ .of ⊤)

include hd

theorem apply_of (t : EReal) :
    (⟨real v⟩ : RateLimiter ExtendedReal).apply (.of t) d =
      ⟨real v + .of (min (max (t - v) (-keptBound d : ℝ)) (keptBound d))⟩ := by
  simp only [apply, bound_eq hd, of_sub_real, isNaN_of, neg_real, maxNum_of, minNum_of]
  rfl

theorem apply_real (t : ℝ) :
    (⟨real v⟩ : RateLimiter ExtendedReal).apply (real t) d = ⟨real (moved t (keptBound d) v)⟩ := by
  have hmono := EReal.coe_strictMono.monotone
  rw [apply_of v hd, ← EReal.coe_sub, ← hmono.map_max, ← hmono.map_min, real_add, moved]

theorem apply_top :
    (⟨real v⟩ : RateLimiter ExtendedReal).apply (.of ⊤) d = ⟨real (v + keptBound d)⟩ := by
  rw [apply_of v hd, EReal.top_sub_coe, max_eq_left le_top, min_eq_right le_top, real_add]

theorem apply_bot :
    (⟨real v⟩ : RateLimiter ExtendedReal).apply (.of ⊥) d = ⟨real (v - keptBound d)⟩ := by
  have hle : ((-keptBound d : ℝ) : EReal) ≤ keptBound d :=
    EReal.coe_le_coe_iff.mpr (neg_le_self (keptBound_nonneg d))
  rw [apply_of v hd, EReal.bot_sub, max_eq_right bot_le, min_eq_left hle, real_add, sub_eq_add_neg]

/-- A call leaves a real number, and takes it towards the target. -/
theorem apply_approaches (target : ExtendedReal) :
    ∃ o, (⟨real v⟩ : RateLimiter ExtendedReal).apply target d = ⟨real o⟩ ∧
      Approaches (keptBound d) target v o := by
  have hb := keptBound_nonneg d
  cases target with
  | undefined => exact ⟨v, apply_undefined _ d, by simpa using hb, nofun, fun _ => rfl⟩
  | of t =>
    cases t with
    | bot =>
      refine ⟨v - keptBound d, apply_bot v hd, ?_, ?_, nofun⟩
      · rw [sub_sub_cancel_left, abs_neg, abs_of_nonneg hb]
      · rintro _ ⟨⟩
        exact Set.mem_uIcc_of_ge bot_le (EReal.coe_le_coe_iff.mpr (sub_le_self v hb))
    | top =>
      refine ⟨v + keptBound d, apply_top v hd, ?_, ?_, nofun⟩
      · rw [add_sub_cancel_left, abs_of_nonneg hb]
      · rintro _ ⟨⟩
        exact Set.mem_uIcc_of_le (EReal.coe_le_coe_iff.mpr (le_add_of_nonneg_right hb)) le_top
    | coe t =>
      refine ⟨moved t (keptBound d) v, apply_real v hd t, abs_moved_sub_le hb, ?_, nofun⟩
      rintro _ ⟨⟩
      exact EReal.coe_strictMono.monotone.mapsTo_uIcc (moved_mem hb)

end Calls

/-! ## Runs -/

/-- The limiter after calls, each with a target and a bound. -/
def run {α : Type} [Scalar α] (l : RateLimiter α) (calls : List (α × α)) : RateLimiter α :=
  calls.foldl (fun l call => l.apply call.1 call.2) l

theorem run_concat {α : Type} [Scalar α] (l : RateLimiter α) (calls : List (α × α))
    (target d : α) : l.run (calls ++ [(target, d)]) = (l.run calls).apply target d := by
  rw [run, List.foldl_append]
  rfl

/-- The output stays a real number. -/
theorem exists_run_eq (v : ℝ) {calls : List (ExtendedReal × ExtendedReal)}
    (hcalls : ∀ call ∈ calls, call.2 ≠ .of ⊤) : ∃ p, run ⟨real v⟩ calls = ⟨real p⟩ := by
  -- The output of the first call is where the other calls start.
  induction calls generalizing v with
  | nil => exact ⟨v, rfl⟩
  | cons call calls ih =>
    obtain ⟨hcall, hcalls⟩ := List.forall_mem_cons.mp hcalls
    obtain ⟨o, ho, -⟩ := apply_approaches v hcall call.1
    obtain ⟨p, hp⟩ := ih o hcalls
    refine ⟨p, ?_⟩
    rw [← hp, ← ho]
    rfl

/-- Calls with one target and one bound make one move. -/
theorem run_replicate (v t : ℝ) {d : ℝ} (hd : 0 < d) (n : ℕ) :
    run ⟨real v⟩ (List.replicate n (real t, real d)) = ⟨real (moved t (n * d) v)⟩ := by
  induction n generalizing v with
  | zero => simp [run, moved]
  | succ n ih =>
    have hcall : (⟨real v⟩ : RateLimiter ExtendedReal).apply (real t) (real d) =
        ⟨real (moved t d v)⟩ := by
      rw [apply_real v (real_ne_top d), keptBound_real, max_eq_left hd.le]
    have hrun : run ⟨real v⟩ (List.replicate (n + 1) (real t, real d)) =
        run (RateLimiter.apply ⟨real v⟩ (real t) (real d)) (List.replicate n (real t, real d)) := rfl
    -- One move by `d`, and one by `n * d` after it.
    rw [hrun, hcall, ih, moved_moved hd.le (by positivity), Nat.cast_succ]
    ring_nf

/-- From a real number on, each call of a run takes the output towards its target, by no more than
its bound. Calls with one target and one positive bound reach it as soon as the bounds add up to its
distance, and go straight towards it before. -/
theorem run_approaches (v : ℝ) :
    (∀ calls : List (ExtendedReal × ExtendedReal), (∀ call ∈ calls, call.2 ≠ .of ⊤) →
      ∀ before target d after, calls = before ++ (target, d) :: after →
        ∃ p o : ℝ, run ⟨real v⟩ before = ⟨real p⟩ ∧
          run ⟨real v⟩ (before ++ [(target, d)]) = ⟨real o⟩ ∧
          Approaches (keptBound d) target p o) ∧
    ∀ t d : ℝ, 0 < d → ∀ n : ℕ, run ⟨real v⟩ (List.replicate n (real t, real d)) =
      ⟨real (if |t - v| ≤ n * d then t else if v < t then v + n * d else v - n * d)⟩ := by
  constructor
  · rintro calls hcalls before target d after rfl
    obtain ⟨hbefore, hd, -⟩ := List.forall_mem_append.mp hcalls |>.imp_right List.forall_mem_cons.mp
    obtain ⟨p, hp⟩ := exists_run_eq v hbefore
    obtain ⟨o, ho, happroaches⟩ := apply_approaches p hd target
    exact ⟨p, o, hp, by rw [run_concat, hp, ho], happroaches⟩
  · intro t d hd n
    rw [run_replicate v t hd, moved_eq_ite (by positivity)]

/-- An undefined target, an infinite one, an undefined bound and one that is infinitely negative. -/
noncomputable def mixedCalls : List (ExtendedReal × ExtendedReal) :=
  [(.undefined, real 1), (.of ⊤, real 0.5), (real 0, .undefined), (.of ⊥, .of ⊥)]

theorem mixedCalls_run_approaches :
    ((∀ call ∈ mixedCalls, call.2 ≠ .of ⊤) ∧ (0 : ℝ) < 0.25) ∧
      (∃ p o : ℝ, run ⟨real 2⟩ (mixedCalls.take 1) = ⟨real p⟩ ∧
        run ⟨real 2⟩ (mixedCalls.take 2) = ⟨real o⟩ ∧
        Approaches (keptBound (real 0.5)) (.of ⊤) p o) ∧
      run ⟨real 2⟩ (List.replicate 3 (real 1, real 0.25)) = ⟨real 1.25⟩ ∧
      run ⟨real 2⟩ (List.replicate 5 (real 1, real 0.25)) = ⟨real 1⟩ := by
  have hcalls : ∀ call ∈ mixedCalls, call.2 ≠ .of ⊤ := by
    simp only [mixedCalls, List.forall_mem_cons]
    exact ⟨real_ne_top 1, real_ne_top 0.5, nofun, by simp, nofun⟩
  have hbound : (0 : ℝ) < 0.25 := by norm_num
  obtain ⟨hcourse, hstays⟩ := run_approaches 2
  refine ⟨⟨hcalls, hbound⟩, hcourse mixedCalls hcalls [_] _ _ _ rfl, ?_, ?_⟩
  · rw [hstays 1 0.25 hbound 3]
    norm_num
  · rw [hstays 1 0.25 hbound 5]
    norm_num

end BoomWalker.RateLimiter
