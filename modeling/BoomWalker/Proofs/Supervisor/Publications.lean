/-
How often a publish timer fires, over exact arithmetic.

Main statement: for a positive rate the first call fires, firings are at least a period apart, a
call that comes a period or more after the last firing fires, and no span of time holds more firings
than its periods and one; for any other rate every call fires (`run_spaces_firings`).

A timer remembers the last firing, so an answer depends on the calls before it through that time
only (`last_after`). Each firing is a period after the one remembered, so all firings are a period
apart from each other (`firings_apart`), and such times are few in a span (`length_le_of_apart`).
-/
import Mathlib
import BoomWalker.Proofs.Scalar.Real
import BoomWalker.Supervisor.Timer

namespace BoomWalker.PublishTimer

variable {t : PublishTimer ℝ} {rate now : ℝ} {times : List ℝ}

/-- The timer after some calls. -/
noncomputable def after (t : PublishTimer ℝ) (times : List ℝ) : PublishTimer ℝ :=
  times.foldl (fun t now => (t.due now).1) t

/-- The times of the calls that fire. -/
noncomputable def firings (t : PublishTimer ℝ) (times : List ℝ) : List ℝ :=
  ((times.zip (t.run times)).filter (·.2)).map (·.1)

/-! ## One call -/

/-- Has the period passed since the last firing, if there was one? -/
def Elapsed (t : PublishTimer ℝ) (now : ℝ) : Prop :=
  ∀ last, t.last = some last → t.period ≤ now - last

theorem due_of_elapsed (h : t.Elapsed now) : t.due now = ({ t with last := some now }, true) := by
  unfold due
  split
  · next last hlast => exact if_neg (not_lt.mpr (h last hlast))
  · rfl

theorem due_of_not_elapsed (h : ¬ t.Elapsed now) : t.due now = (t, false) := by
  obtain ⟨last, hlast, hearly⟩ : ∃ last, t.last = some last ∧ now - last < t.period := by
    simpa only [Elapsed, not_forall, not_le, exists_prop] using h
  simp only [due, hlast]
  exact if_pos hearly

theorem due_iff_elapsed : (t.due now).2 = true ↔ t.Elapsed now := by
  by_cases h : t.Elapsed now
  · simp [due_of_elapsed h, h]
  · simp [due_of_not_elapsed h, h]

/-! ## Sequences of calls -/

theorem firings_cons_of_elapsed (h : t.Elapsed now) (times : List ℝ) :
    t.firings (now :: times) = now :: firings { t with last := some now } times := by
  simp [firings, run, due_of_elapsed h]

theorem firings_cons_of_not_elapsed (h : ¬ t.Elapsed now) (times : List ℝ) :
    t.firings (now :: times) = t.firings times := by
  simp [firings, run, due_of_not_elapsed h]

/-- The calls before decide an answer through the timer that they leave. -/
theorem run_at (t : PublishTimer ℝ) (before : List ℝ) (now : ℝ) (rest : List ℝ) :
    (t.run (before ++ now :: rest))[before.length]? = some ((t.after before).due now).2 := by
  induction before generalizing t with
  | nil => rfl
  | cons first before ih => exact ih (t.due first).1

theorem period_after (t : PublishTimer ℝ) (times : List ℝ) : (t.after times).period = t.period := by
  induction times generalizing t with
  | nil => rfl
  | cons now times ih =>
    have hperiod : (t.due now).1.period = t.period := by
      by_cases h : t.Elapsed now
      · rw [due_of_elapsed h]
      · rw [due_of_not_elapsed h]
    exact (ih (t.due now).1).trans hperiod

/-- What a timer remembers is the last firing. -/
theorem last_after (t : PublishTimer ℝ) (times : List ℝ) :
    (t.after times).last = (t.firings times).getLast?.or t.last := by
  induction times generalizing t with
  | nil => rfl
  | cons now times ih =>
    have hafter : t.after (now :: times) = (t.due now).1.after times := rfl
    rw [hafter, ih]
    by_cases h : t.Elapsed now
    · rw [due_of_elapsed h, firings_cons_of_elapsed h, List.getLast?_cons]
      cases (firings { t with last := some now } times).getLast? <;> rfl
    · rw [due_of_not_elapsed h, firings_cons_of_not_elapsed h]

/-- All firings are a period apart, and also from the one that is remembered. -/
theorem firings_apart (hperiod : 0 ≤ t.period) (times : List ℝ) :
    (t.last.toList ++ t.firings times).Pairwise fun s s' => t.period ≤ s' - s := by
  induction times generalizing t with
  | nil => cases h : t.last <;> simp [firings]
  | cons now times ih =>
    by_cases h : t.Elapsed now
    · have hrest := ih (t := { t with last := some now }) hperiod
      rw [firings_cons_of_elapsed h]
      cases hlast : t.last with
      | none => exact hrest
      | some last =>
        -- The firings that follow are later still than this one.
        refine List.pairwise_cons.mpr ⟨fun s hs => ?_, hrest⟩
        have hnow : t.period ≤ now - last := h last hlast
        obtain rfl | hs := List.mem_cons.mp hs
        · exact hnow
        · have hs' : t.period ≤ s - now := (List.pairwise_cons.mp hrest).1 s hs
          linarith
    · rw [firings_cons_of_not_elapsed h]
      exact ih hperiod

/-- Times that lie apart from each other are few before an end. -/
theorem length_mul_le_of_apart {period first stop : ℝ} {times : List ℝ}
    (hapart : (first :: times).Pairwise fun s s' => period ≤ s' - s)
    (hstop : ∀ s ∈ first :: times, s ≤ stop) : times.length * period ≤ stop - first := by
  induction times generalizing first with
  | nil => simpa using hstop first List.mem_cons_self
  | cons second times ih =>
    obtain ⟨hfirst, hrest⟩ := List.pairwise_cons.mp hapart
    have hgap : period ≤ second - first := hfirst second List.mem_cons_self
    have hlater : times.length * period ≤ stop - second :=
      ih hrest fun s hs => hstop s (List.mem_cons_of_mem first hs)
    rw [List.length_cons, Nat.cast_succ, add_mul, one_mul]
    linarith

theorem length_le_of_apart (hrate : 0 < rate) (start span : ℝ) {times : List ℝ}
    (hapart : times.Pairwise fun s s' => 1 / rate ≤ s' - s)
    (hspan : ∀ s ∈ times, s ∈ Set.Icc start (start + span)) :
    times.length ≤ ⌊span * rate⌋₊ + 1 := by
  cases times with
  | nil => exact Nat.zero_le _
  | cons first times =>
    have hlength : times.length * (1 / rate) ≤ start + span - first :=
      length_mul_le_of_apart hapart fun s hs => (hspan s hs).2
    have hfirst : start ≤ first := (hspan first List.mem_cons_self).1
    have hperiods : (times.length : ℝ) ≤ span * rate := by
      rw [mul_one_div, div_le_iff₀ hrate] at hlength
      exact hlength.trans (mul_le_mul_of_nonneg_right (by linarith) hrate.le)
    exact Nat.succ_le_succ (Nat.le_floor hperiods)

/-- A timer that does not limit fires at every call of a sequence that does not go back. -/
theorem run_of_unlimited (hperiod : t.period = 0) (hlast : ∀ now ∈ times, ∀ last ∈ t.last, last ≤ now)
    (hmono : times.Pairwise (· ≤ ·)) : ∀ fired ∈ t.run times, fired = true := by
  induction times generalizing t with
  | nil => exact fun fired hfired => absurd hfired List.not_mem_nil
  | cons now times ih =>
    obtain ⟨hnow, hmono⟩ := List.pairwise_cons.mp hmono
    have helapsed : t.Elapsed now := fun last h => by
      rw [hperiod]
      exact sub_nonneg.mpr (hlast now List.mem_cons_self last h)
    rw [run, due_of_elapsed helapsed]
    refine List.forall_mem_cons.mpr ⟨rfl, ih hperiod ?_ hmono⟩
    rintro s hs last ⟨⟩
    exact hnow s hs

/-! ## A new timer -/

theorem period_ofRate (rate : ℝ) :
    (ofRate rate).period = if 0 < rate then 1 / rate else 0 := by
  simp [ofRate]

/-- The answers of a new timer: the first call fires, and a later one if and only if it comes a
period or more after the last firing. So firings are a period apart, and a span of time holds no
more of them than whole periods fit into it, and one. Without a positive rate every call fires. -/
theorem run_spaces_firings (rate : ℝ) (times : List ℝ) :
    (0 < rate →
      (∀ now rest, times = now :: rest → ((ofRate rate).run times)[0]? = some true) ∧
      ((ofRate rate).firings times).Pairwise (fun s s' => 1 / rate ≤ s' - s) ∧
      (∀ before now rest last, times = before ++ now :: rest →
        ((ofRate rate).firings before).getLast? = some last →
        (((ofRate rate).run times)[before.length]? = some true ↔ 1 / rate ≤ now - last)) ∧
      ∀ start span, ((ofRate rate).firings times).countP (· ∈ Set.Icc start (start + span)) ≤
        ⌊span * rate⌋₊ + 1) ∧
    (rate ≤ 0 → times.Pairwise (· ≤ ·) → ∀ fired ∈ (ofRate rate).run times, fired = true) := by
  refine ⟨fun hrate => ?_, fun hrate hmono => ?_⟩
  · have hperiod : (ofRate rate).period = 1 / rate := by rw [period_ofRate, if_pos hrate]
    have hapart : ((ofRate rate).firings times).Pairwise fun s s' => 1 / rate ≤ s' - s := by
      rw [← hperiod]
      exact firings_apart (hperiod ▸ (one_div_pos.mpr hrate).le) times
    refine ⟨?_, hapart, ?_, fun start span => ?_⟩
    · rintro now rest rfl
      rfl
    · rintro before now rest last rfl hlast
      have hremembered : ((ofRate rate).after before).last = some last := by
        rw [last_after, hlast]
        rfl
      rw [run_at, Option.some_inj, due_iff_elapsed, Elapsed, period_after, hperiod, hremembered]
      exact ⟨fun h => h last rfl, by rintro h _ ⟨⟩; exact h⟩
    · rw [List.countP_eq_length_filter]
      refine length_le_of_apart hrate start span (hapart.filter _) fun s hs => ?_
      exact of_decide_eq_true (List.mem_filter.mp hs).2
  · have hperiod : (ofRate rate).period = 0 := by rw [period_ofRate, if_neg (not_lt.mpr hrate)]
    exact run_of_unlimited hperiod (fun _ _ _ => nofun) hmono

/-- Twenty publications a second: the calls that come too early do not fire, and the call exactly
one period after a firing does. -/
theorem twentyHertz_run_spaces_firings :
    let times : List ℝ := [0, 0.049, 0.05, 0.06]
    (0 : ℝ) < 20 ∧ (ofRate 20).firings times = [0, 0.05] ∧
      ((ofRate 20).run times)[0]? = some true ∧ ((ofRate 20).run times)[2]? = some true ∧
      ((ofRate 20).firings times).Pairwise (fun s s' => 1 / 20 ≤ s' - s) ∧
      ((ofRate 20).firings times).countP (· ∈ Set.Icc 0 (0 + 0.04)) ≤ 1 ∧
      (0 : ℝ) ≤ 0 ∧ [(0 : ℝ), 0, 1].Pairwise (· ≤ ·) ∧
      ∀ fired ∈ (ofRate 0).run [(0 : ℝ), 0, 1], fired = true := by
  intro times
  have hrate : (0 : ℝ) < 20 := by norm_num
  have hperiod : (ofRate (20 : ℝ)).period = 1 / 20 := by rw [period_ofRate, if_pos hrate]
  have helapsed (last now : ℝ) :
      Elapsed { ofRate (20 : ℝ) with last := some last } now ↔ 1 / 20 ≤ now - last := by
    simp [Elapsed, hperiod]
  have hnew : (ofRate 20).Elapsed 0 := nofun
  have hearly := mt (helapsed 0 0.049).mp (by norm_num)
  have hpassed := (helapsed 0 0.05).mpr (by norm_num)
  have hagain := mt (helapsed 0.05 0.06).mp (by norm_num)
  have hfirst : (ofRate 20).firings [0, 0.049] = [0] := by
    rw [firings_cons_of_elapsed hnew, firings_cons_of_not_elapsed hearly]
    rfl
  have hall : (ofRate 20).firings times = [0, 0.05] := by
    rw [firings_cons_of_elapsed hnew, firings_cons_of_not_elapsed hearly,
      firings_cons_of_elapsed hpassed, firings_cons_of_not_elapsed hagain]
    rfl
  obtain ⟨hcalls, -⟩ := run_spaces_firings 20 times
  obtain ⟨hfires, hapart, hlater, hspan⟩ := hcalls hrate
  obtain ⟨-, hunlimited⟩ := run_spaces_firings 0 [0, 0, 1]
  have hmono : [(0 : ℝ), 0, 1].Pairwise (· ≤ ·) := by norm_num
  refine ⟨hrate, hall, hfires _ _ rfl, ?_, hapart, ?_, le_rfl, hmono, hunlimited le_rfl hmono⟩
  · exact (hlater [0, 0.049] 0.05 [0.06] 0 rfl (by rw [hfirst]; rfl)).mpr (by norm_num)
  · exact (hspan 0 0.04).trans (by norm_num)

end BoomWalker.PublishTimer
