/-
Which way the pendulum's force points while a hopping leg is on the ground.

Main statement: a stance cycle that leaves the pendulum no longer than at rest pushes. The cycle in
which the pendulum grows longer than at rest does not: it commands the force of a stretched spring,
which pulls at the ground, and only the cycles after it command none (`run_rebound`). The signs come
from `SignLaws`, so this holds in binary64 too, where a force may also be undefined. A light
pendulum that falls upright shows the pull in its first cycle on the ground (`not_always_pushes`).
-/
import BoomWalker.Proofs.Gait.LegHop.Pendulum
import BoomWalker.Proofs.Gait.Resuming
import BoomWalker.Proofs.Motion.Slip.Upright
import BoomWalker.Proofs.Scalar.Signs

namespace BoomWalker

namespace LegHop

variable {α : Type} [Scalar α]

/-! ## One stance cycle -/

/-- An input that follows the pendulum on a spring, at a given rest length. -/
structure Springs (restLength : α) (i : Input α) : Prop where
  slipForce : i.slipForce = true
  constantForce : i.constantForce = false
  slipSpring : 0 < i.slipSpring
  slipLeg : i.slipLeg = restLength

/-- The force of the spring along the leg, positive if it pushes. -/
def thrust (i : Input α) (slip : SlipState α) : α := i.slipSpring * (i.slipLeg - slip.r)

/-- A force along the leg of the pendulum. -/
def alongLeg (slip : SlipState α) (c : α) : α × α := (c * Scalar.cos slip.q, c * Scalar.sin slip.q)

/-- What a stance cycle does to the pendulum and to the force. It takes the pendulum one step
further, which leaves it no longer than at rest or takes it past that, or it keeps it. -/
inductive StanceCycle (p : Params α) (i : Input α) (s s' : State α) : Prop where
  | pushes (hbefore : ¬ i.slipLeg < s.slip.r) (hafter : ¬ i.slipLeg < s'.slip.r)
    (hslip : s'.slip = (model i).step s.slip p.slipStep)
    (hforce : s'.force = alongLeg s'.slip (thrust i s'.slip)) (hsign : ¬ thrust i s'.slip < 0)
  | crosses (hbefore : ¬ i.slipLeg < s.slip.r) (hafter : i.slipLeg < s'.slip.r)
    (hslip : s'.slip = (model i).step s.slip p.slipStep)
    (hforce : s'.force = alongLeg s'.slip (thrust i s'.slip)) (hsign : ¬ 0 < thrust i s'.slip)
  | rests (hbefore : i.slipLeg < s.slip.r) (hslip : s'.slip = s.slip) (hforce : s'.force = (0, 0))

variable [SignLaws α] {i : Input α} {slip : SlipState α}

theorem thrust_not_neg (hspring : 0 < i.slipSpring) (h : ¬ i.slipLeg < slip.r) :
    ¬ thrust i slip < 0 := by
  intro hneg
  exact h (SignLaws.lt_of_sub_neg (SignLaws.neg_of_mul_neg hspring hneg))

theorem thrust_not_pos (hspring : 0 < i.slipSpring) (h : i.slipLeg < slip.r) :
    ¬ 0 < thrust i slip := by
  intro hpos
  exact SignLaws.lt_asymm h (SignLaws.lt_of_sub_pos (SignLaws.pos_of_mul_pos hspring hpos))

theorem StanceCycle.of_stanceForce {L : α} (hi : Springs L i) {p : Params α} {s s' : State α}
    (h : (s'.slip, s'.force) = stanceForce p i s.slip) : StanceCycle p i s s' := by
  -- The length is tested before the step and the force is taken after it, which leaves three cases.
  by_cases hbefore : i.slipLeg < s.slip.r
  · rw [stanceForce_of_longer hi.slipForce hi.constantForce hbefore] at h
    obtain ⟨hslip, hforce⟩ := Prod.mk.inj h
    exact .rests hbefore hslip hforce
  · rw [stanceForce_of_not_longer hi.slipForce hi.constantForce hbefore] at h
    obtain ⟨hslip, hforce⟩ := Prod.mk.inj h
    rw [← hslip] at hforce
    by_cases hafter : i.slipLeg < s'.slip.r
    · exact .crosses hbefore hafter hslip hforce (thrust_not_pos hi.slipSpring hafter)
    · exact .pushes hbefore hafter hslip hforce (thrust_not_neg hi.slipSpring hafter)

theorem stanceCycle_step (c : GaitControl (gait : Gait α)) {snap : Snapshot α} {L : α}
    (hi : Springs L i) (hstance : turn (.process ⟨snap, i, true⟩) = .cycle .stance) :
    StanceCycle c.params i c.gait (c.step (.process ⟨snap, i, true⟩)).1.gait := by
  have hnext := pendulum_step c (i := i) (e := .process ⟨snap, i, true⟩) rfl
  rw [hstance] at hnext
  exact .of_stanceForce hi (congrArg (fun s => (s.slip, s.force)) hnext)

/-! ## Runs -/

/-- Is the event under an input that follows the pendulum, should it be an enabled cycle? -/
def SpringsUnder (restLength : α) : GaitControl.Event (gait : Gait α) → Prop
  | .process ⟨_, i, true⟩ => Springs restLength i
  | _ => True

/-- Once the pendulum is longer than at rest, a step that is not in flight keeps it. -/
theorem step_rests (c : GaitControl (gait : Gait α)) {L : α} {e : GaitControl.Event (gait : Gait α)}
    (he : SpringsUnder L e) (hlonger : L < (State.slip c.gait).r)
    (hturn : turn e = .keep ∨ turn e = .cycle .stance) :
    State.slip (c.step e).1.gait = State.slip c.gait ∧
      State.force (c.step e).1.gait =
        if turn e = .keep then State.force c.gait else (0, 0) := by
  cases e with
  | makeSafe => exact ⟨rfl, (if_pos rfl).symm⟩
  | process input =>
    obtain ⟨snap, i, enabled⟩ := input
    cases enabled with
    | false => simp [turn] at hturn
    | true =>
      have hstance : turn (.process ⟨snap, i, true⟩) = .cycle .stance := by
        simpa [turn] using hturn
      have hi : Springs L i := he
      cases stanceCycle_step c hi hstance with
      | pushes hbefore => exact absurd (hi.slipLeg ▸ hlonger) hbefore
      | crosses hbefore => exact absurd (hi.slipLeg ▸ hlonger) hbefore
      | rests _ hslip hforce => exact ⟨hslip, hforce⟩

/-- A pendulum that is longer than at rest stays so, and stance commands no force, until a cycle in
flight. -/
theorem run_rests (c : GaitControl (gait : Gait α)) {L : α} (hlonger : L < (State.slip c.gait).r)
    {es : List (GaitControl.Event (gait : Gait α))} (hes : ∀ e ∈ es, SpringsUnder L e)
    (hturns : ∀ t ∈ es.map turn, t = .keep ∨ t = .cycle .stance) :
    State.slip (c.run es).1.gait = State.slip c.gait ∧
      (.cycle .stance ∈ es.map turn → State.force (c.run es).1.gait = (0, 0)) := by
  induction es using List.reverseRecOn with
  | nil => exact ⟨rfl, fun hmem => absurd hmem List.not_mem_nil⟩
  | append_singleton es e ih =>
    rw [List.map_append, List.map_singleton] at hturns ⊢
    obtain ⟨hslip, hforce⟩ := ih (fun e he => hes e (by simp [he]))
      fun t ht => hturns t (List.mem_append_left _ ht)
    rw [GaitControl.run_concat]
    -- What was kept so far keeps the pendulum longer than at rest for the last event.
    obtain ⟨hslip', hforce'⟩ := step_rests (c.run es).1 (hes e (by simp)) (hslip ▸ hlonger)
      (hturns _ (by simp))
    refine ⟨hslip'.trans hslip, fun hmem => hforce'.trans ?_⟩
    split
    · next hkeep =>
      rw [hkeep, List.mem_append, List.mem_singleton] at hmem
      exact hforce (hmem.resolve_right nofun)
    · rfl

/-- Under inputs that follow the pendulum on a spring of one rest length, every stance cycle pushes,
or crosses the rest length, or rests beyond it. The cycle that crosses it commands the force of the
stretched spring; the stance cycles after it rest, up to the next cycle in flight. -/
theorem run_rebound (c₀ : GaitControl (gait : Gait α)) {L : α}
    {es : List (GaitControl.Event (gait : Gait α))} (hes : ∀ e ∈ es, SpringsUnder L e) :
    ∀ before snap i fs, es = before ++ .process ⟨snap, i, true⟩ :: fs →
      turn (.process ⟨snap, i, true⟩) = .cycle .stance →
      let s : State α := (c₀.run before).1.gait
      let s' : State α := (c₀.run (before ++ [.process ⟨snap, i, true⟩])).1.gait
      let last : State α := (c₀.run es).1.gait
      StanceCycle c₀.params i s s' ∧
        (L < s'.slip.r → (∀ t ∈ fs.map turn, t = .keep ∨ t = .cycle .stance) →
          last.slip = s'.slip ∧ (.cycle .stance ∈ fs.map turn → last.force = (0, 0))) := by
  intro before snap i fs hsplit hstance s s' last
  rw [hsplit, List.forall_mem_append, List.forall_mem_cons] at hes
  obtain ⟨-, hi, hfs⟩ := hes
  constructor
  · have hs' : s' = ((c₀.run before).1.step (.process ⟨snap, i, true⟩)).1.gait := by
      simp only [s']
      rw [GaitControl.run_concat]
    rw [hs', ← (c₀.run_fixed before).2]
    exact stanceCycle_step _ hi hstance
  · intro hlonger hturns
    have hlast : last = ((c₀.run (before ++ [.process ⟨snap, i, true⟩])).1.run fs).1.gait := by
      simp only [last]
      rw [hsplit, List.append_cons, GaitControl.run_append]
    rw [hlast]
    exact run_rests _ hlonger hfs hturns

/-- The defaults, following the pendulum. -/
def bounceInput : Input Float := { Input.standard with slipForce := true }

/-- A cycle in flight. -/
def fall : GaitControl.Event (gait : Gait Float) := .process ⟨torsoAt 1.1, bounceInput, true⟩

/-- A fall and a first cycle on the ground, with the pendulum at its defaults. -/
theorem unconfigured_run_rebound :
    let c₀ : GaitControl (gait : Gait Float) := .unconfigured gait
    let cycle : GaitControl.Event (gait : Gait Float) := .process ⟨torsoAt 0.8, bounceInput, true⟩
    (∀ e ∈ [fall, cycle], SpringsUnder 0.9 e) ∧ turn cycle = .cycle .stance ∧
      StanceCycle .standard bounceInput (c₀.run [fall]).1.gait (c₀.run [fall, cycle]).1.gait := by
  intro c₀ cycle
  have hsprings : Springs 0.9 bounceInput := ⟨rfl, rfl, by decide +kernel, rfl⟩
  have hes : ∀ e ∈ [fall, cycle], SpringsUnder 0.9 e := by
    simp only [List.forall_mem_cons]
    exact ⟨hsprings, hsprings, by simp⟩
  have hstance : turn cycle = .cycle .stance := by decide +kernel
  exact ⟨hes, hstance, (run_rebound c₀ hes [fall] _ bounceInput [] rfl hstance).1⟩

/-! ## A pull -/

/-- A pendulum of little mass on a stiff spring. -/
noncomputable def pebbleInput : Input ℝ :=
  { Input.standard with slipForce := true, slipMass := 0.002 }

theorem springs_pebbleInput : Springs 0.9 pebbleInput := by
  refine ⟨rfl, rfl, ?_, ?_⟩
  · simp only [pebbleInput, Input.standard, Scalar.real_lt, Scalar.real_zero, Scalar.real_numeral]
    norm_num
  · norm_num [pebbleInput, Input.standard]

theorem spring_pebbleInput : (model pebbleInput).spring = 15000 := by
  norm_num [model, SlipModel.onSite, pebbleInput, Input.standard]

theorem mass_pebbleInput : (model pebbleInput).mass = 0.002 := by
  norm_num [model, SlipModel.onSite, pebbleInput]

theorem pebbleInput_ne_zero : (model pebbleInput).spring ≠ 0 ∧ (model pebbleInput).mass ≠ 0 := by
  norm_num [spring_pebbleInput, mass_pebbleInput]

theorem equilibrium_pebbleInput : (model pebbleInput).equilibrium = 0.899998692 := by
  rw [SlipModel.equilibrium, spring_pebbleInput, mass_pebbleInput]
  norm_num [model, SlipModel.onSite, pebbleInput, Input.standard, standardGravity]

/-- The pendulum touches down with its leg upright, a little longer than at its equilibrium. -/
theorem touchdown_pebbleInput :
    touchdown pebbleInput = (model pebbleInput).upright ![0.000001308, -Real.sqrt 0.981] := by
  have hfall : 2 * |standardGravity| * pebbleInput.slipHeight = 0.981 := by
    norm_num [standardGravity, pebbleInput, Input.standard]
  have hrest : pebbleInput.slipLeg = 0.9 := springs_pebbleInput.slipLeg
  have hsqrt : Scalar.sqrt (2 * Scalar.abs standardGravity * pebbleInput.slipHeight) =
      Real.sqrt 0.981 := congrArg Real.sqrt hfall
  unfold touchdown SlipModel.upright
  rw [hrest, hsqrt, equilibrium_pebbleInput]
  simp
  norm_num

/-- The pendulum after the first stance cycle. -/
noncomputable def pebble : SlipState ℝ :=
  (model pebbleInput).step (touchdown pebbleInput) (Params.standard : Params ℝ).slipStep

theorem pebble_upright : pebble.q = Scalar.halfPi := by
  obtain ⟨hk, hm⟩ := pebbleInput_ne_zero
  unfold pebble
  rw [touchdown_pebbleInput, SlipModel.step_upright _ hk hm]
  rfl

theorem pebble_longer : 0.9 < pebble.r := by
  have hspeed : (0.9 : ℝ) ≤ Real.sqrt 0.981 := Real.le_sqrt_of_sq_le (by norm_num)
  have hstep : (Params.standard : Params ℝ).slipStep = 0.001 := by
    norm_num [Params.standard]
  obtain ⟨hk, hm⟩ := pebbleInput_ne_zero
  unfold pebble
  rw [touchdown_pebbleInput, SlipModel.step_upright _ hk hm, SlipModel.taylor_oscillator, hstep,
    SlipModel.upright, equilibrium_pebbleInput, spring_pebbleInput, mass_pebbleInput,
    Matrix.cons_val_zero]
  -- The fall is fast enough for the step to overshoot, whatever its exact speed.
  generalize Real.sqrt 0.981 = v at hspeed
  norm_num
  linarith

theorem thrust_pebble : thrust pebbleInput pebble < 0 := by
  have hthrust : thrust pebbleInput pebble = 15000 * (0.9 - pebble.r) := by
    norm_num [thrust, pebbleInput, Input.standard]
  rw [hthrust]
  linarith [pebble_longer]

theorem stanceForce_pebbleInput :
    stanceForce .standard pebbleInput (touchdown pebbleInput) =
      (pebble, alongLeg pebble (thrust pebbleInput pebble)) :=
  stanceForce_of_not_longer rfl rfl (lt_irrefl pebbleInput.slipLeg)

/-- A light pendulum on a stiff spring passes its rest length in the first cycle on the ground, and
is made to pull. -/
theorem not_always_pushes :
    ¬ ∀ (c₀ : GaitControl (gait : Gait ℝ)) (L : ℝ)
      (es : List (GaitControl.Event (gait : Gait ℝ))),
      c₀.Created → (∀ e ∈ es, SpringsUnder L e) → ∀ before e, es = before ++ [e] →
        turn e = .cycle .stance →
        let s : State ℝ := (c₀.run es).1.gait
        ∃ c : ℝ, 0 ≤ c ∧ s.force = alongLeg s.slip c := by
  intro h
  let cycle (snap : Snapshot ℝ) : GaitControl.Event (gait : Gait ℝ) :=
    .process ⟨snap, pebbleInput, true⟩
  have hflight : turn (cycle aloft) = .cycle .flight := by
    simp [cycle, turn, Phase.select, aloft, pebbleInput, Input.standard]
    norm_num
  have hstance : turn (cycle landed) = .cycle .stance := by
    simp [cycle, turn, Phase.select, landed, BodyPosition.zero, pebbleInput, Input.standard]
  have hsprings : ∀ e ∈ [cycle aloft, cycle landed], SpringsUnder 0.9 e := by
    simp only [List.forall_mem_cons]
    exact ⟨springs_pebbleInput, springs_pebbleInput, by simp⟩
  have hunder : ∀ e ∈ [cycle aloft, cycle landed], Under pebbleInput e := by
    simp only [List.forall_mem_cons]
    exact ⟨rfl, rfl, by simp⟩
  obtain ⟨c, hc, hforce⟩ := h (.unconfigured gait) 0.9 [cycle aloft, cycle landed] .unconfigured
    hsprings [cycle aloft] (cycle landed) rfl hstance
  have hrun := pendulum_run (.unconfigured gait) hunder
  rw [List.map_cons, List.map_cons, List.map_nil, hflight, hstance] at hrun
  -- The run ends as one stance cycle from touchdown does.
  have hlast := (congrArg (fun s => (s.slip, s.force)) hrun).trans stanceForce_pebbleInput
  obtain ⟨hslip, hpull⟩ := Prod.mk.inj hlast
  have hboth : alongLeg pebble (thrust pebbleInput pebble) = alongLeg pebble c :=
    hpull.symm.trans (hforce.trans (congrArg (alongLeg · c) hslip))
  have hvertical := congrArg Prod.snd hboth
  have hthrust : thrust pebbleInput pebble = c := by
    simpa [alongLeg, pebble_upright] using hvertical
  linarith [thrust_pebble]

end LegHop

end BoomWalker
