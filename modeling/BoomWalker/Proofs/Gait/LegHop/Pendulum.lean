/-
The course of the pendulum that a hopping leg follows.

Main statement: under one input that follows the pendulum, the pendulum takes one step of the
classical Runge-Kutta method of order four in every stance cycle since the last cycle in flight, from
the state of touchdown, and no further step once it is longer than at rest. From then on there is no
force. Touchdowns count the changes from flight to stance. The measured legs and the length of the
control cycle have no part in it (`run_pendulum`).

Only the phase of a cycle reaches the pendulum. `turn` reads it off an event, `Pendulum.next` says
what becomes of the pendulum then, and `pendulum_run` that a run of the controller does nothing
else to it. What stance makes of the pendulum is one invariant of a run of stance cycles (`Carried`).
-/
import BoomWalker.Proofs.Gait.LegHop.Confinement
import BoomWalker.Proofs.Motion.Slip.Upright
import Mathlib.Logic.Function.Iterate

namespace BoomWalker.LegHop

variable {α : Type}

/-! ## What an event does to the pendulum -/

/-- What reaches the pendulum of an event. -/
inductive Turn where
  | keep
  | reset
  | cycle (phase : Phase)
deriving DecidableEq

/-- The phase that follows, if it is given anew. -/
def Turn.phase? : Turn → Option Phase
  | keep => none
  | reset => some .flight
  | cycle phase => some phase

/-- The part of the state that the pendulum's course is made of. -/
structure Pendulum (α : Type) where
  phase : Phase
  slip : SlipState α
  force : α × α
  numTouchdowns : Nat

def State.pendulum (s : State α) : Pendulum α := ⟨s.phase, s.slip, s.force, s.numTouchdowns⟩

variable [Scalar α]

/-- A disabled cycle resets the pendulum, and an enabled one takes it through the phase that its
height selects. -/
def turn : GaitControl.Event (gait : Gait α) → Turn
  | .makeSafe => .keep
  | .process ⟨_, _, false⟩ => .reset
  | .process ⟨snap, i, true⟩ =>
    .cycle (Phase.select snap.position.height (Input.slipLeg i) (Input.debug1 i))

/-- The pendulum after a turn. -/
def Pendulum.next (p : Params α) (i : Input α) (s : Pendulum α) : Turn → Pendulum α
  | .keep => s
  | .reset => ⟨.flight, touchdown .standard, (0, 0), s.numTouchdowns⟩
  | .cycle phase =>
    ⟨phase, (advance p i s.slip phase).1, (advance p i s.slip phase).2,
      if phase = .stance ∧ s.phase ≠ .stance then s.numTouchdowns + 1 else s.numTouchdowns⟩

/-- Enabling does not touch the gait. -/
theorem wake_eq (c : GaitControl (gait : Gait α)) (snap : Snapshot α) : c.wake snap = c.gait := by
  unfold GaitControl.wake
  split
  · rfl
  · rfl

/-- Is the event under an input, should it be an enabled cycle? -/
def Under (i : Input α) : GaitControl.Event (gait : Gait α) → Prop
  | .process ⟨_, gui, true⟩ => gui = i
  | _ => True

theorem pendulum_step (c : GaitControl (gait : Gait α)) {i : Input α}
    {e : GaitControl.Event (gait : Gait α)} (he : Under i e) :
    State.pendulum (c.step e).1.gait =
      (State.pendulum c.gait).next (c.params : Params α) i (turn e) := by
  cases e with
  | makeSafe => rfl
  | process input =>
    obtain ⟨snap, gui, enabled⟩ := input
    cases enabled with
    | false => rfl
    | true =>
      have hstep : (c.step (.process ⟨snap, gui, true⟩)).1.gait = _ :=
        c.gait_process_enabled snap gui
      have hgui : gui = i := he
      rw [hstep, wake_eq, hgui]
      rfl

theorem pendulum_run (c : GaitControl (gait : Gait α)) {i : Input α}
    {es : List (GaitControl.Event (gait : Gait α))} (hes : ∀ e ∈ es, Under i e) :
    State.pendulum (c.run es).1.gait =
      (es.map turn).foldl (Pendulum.next (c.params : Params α) i) (State.pendulum c.gait) := by
  induction es using List.reverseRecOn with
  | nil => rfl
  | append_singleton es e ih =>
    rw [GaitControl.run_concat, pendulum_step _ (hes e (by simp)), (c.run_fixed es).2,
      ih fun e he => hes e (by simp [he]), List.map_append, List.foldl_append]
    rfl

/-- Every cycle reports the phase that it gives anew. -/
theorem phase_step (c : GaitControl (gait : Gait α)) (e : GaitControl.Event (gait : Gait α)) :
    (c.step e).2.map (fun out => Report.phase out.2.gait) = (turn e).phase? := by
  cases e with
  | makeSafe => rfl
  | process input =>
    obtain ⟨snap, gui, enabled⟩ := input
    cases enabled with
    | false => rfl
    | true =>
      show some (Report.phase (c.process ⟨snap, gui, true⟩).2.2.gait) = _
      rw [GaitControl.report_process, GaitControl.gait_process_enabled]
      rfl

theorem phases_run (c : GaitControl (gait : Gait α))
    (es : List (GaitControl.Event (gait : Gait α))) :
    (c.run es).2.map (fun out => Report.phase out.2.gait) =
      (es.map turn).filterMap Turn.phase? := by
  induction es generalizing c with
  | nil => rfl
  | cons e es ih =>
    have hphase := phase_step c e
    show ((c.step e).2.toList ++ ((c.step e).1.run es).2).map _ = _
    rw [List.map_append, ih, List.map_cons, List.filterMap_cons, ← hphase]
    cases (c.step e).2 with
    | none => rfl
    | some out => rfl

/-! ## The count of touchdowns -/

/-- A phase that is given anew is counted if it changes flight to stance. -/
theorem next_of_phase? (p : Params α) (i : Input α) (s : Pendulum α) {t : Turn} {phase : Phase}
    (ht : t.phase? = some phase) :
    (s.next p i t).phase = phase ∧ (s.next p i t).numTouchdowns =
      s.numTouchdowns + if (s.phase, phase) == (Phase.flight, Phase.stance) then 1 else 0 := by
  obtain ⟨before, slip, force, numTouchdowns⟩ := s
  cases t with
  | keep => cases ht
  | reset =>
    cases ht
    cases before with
    | flight => exact ⟨rfl, rfl⟩
    | stance => exact ⟨rfl, rfl⟩
  | cycle phase =>
    cases ht
    refine ⟨rfl, ?_⟩
    cases before <;> cases phase <;> rfl

theorem numTouchdowns_foldl (p : Params α) (i : Input α) (s : Pendulum α) (ts : List Turn) :
    (ts.foldl (Pendulum.next p i) s).numTouchdowns =
      s.numTouchdowns + ((s.phase :: ts.filterMap Turn.phase?).zip
        (ts.filterMap Turn.phase?)).count (.flight, .stance) := by
  -- Forward, so that the phase before the first change is that of the state.
  induction ts generalizing s with
  | nil => rfl
  | cons t ts ih =>
    rw [List.foldl_cons, ih]
    cases ht : t.phase? with
    | none =>
      cases t with
      | keep => rfl
      | reset => cases ht
      | cycle phase => cases ht
    | some phase =>
      obtain ⟨hphase, hcount⟩ := next_of_phase? p i s ht
      rw [hphase, hcount, List.filterMap_cons_some ht, List.zip_cons_cons, List.count_cons]
      omega

/-- The touchdowns that a run adds are the changes from flight to stance in what it reports. -/
theorem numTouchdowns_run (c : GaitControl (gait : Gait α)) {i : Input α}
    {es : List (GaitControl.Event (gait : Gait α))} (hes : ∀ e ∈ es, Under i e) :
    let phases : List Phase := (c.run es).2.map fun out => Report.phase out.2.gait
    State.numTouchdowns (c.run es).1.gait = State.numTouchdowns c.gait +
      ((State.phase c.gait :: phases).zip phases).count (.flight, .stance) := by
  intro phases
  have hcount := numTouchdowns_foldl (c.params : Params α) i (State.pendulum c.gait) (es.map turn)
  rw [← pendulum_run c hes, ← phases_run c] at hcount
  exact hcount

/-- A controller is made in flight, whether or not it is given parameters. -/
theorem created_in_flight {c₀ : GaitControl (gait : Gait α)} (hc₀ : c₀.Created) :
    State.phase c₀.gait = .flight ∧ State.numTouchdowns c₀.gait = 0 := by
  obtain heq | heq := hc₀.gait_eq
  · rw [heq]
    exact ⟨rfl, rfl⟩
  · rw [heq]
    exact ⟨rfl, rfl⟩

/-! ## The course through stance -/

section Follows

variable {p : Params α} {i : Input α} (hslip : i.slipForce = true)
  (hconst : i.constantForce = false) {slip : SlipState α}

include hslip hconst

/-- A pendulum that is longer than at rest stays as it is, without a force. -/
theorem stanceForce_of_longer (h : i.slipLeg < slip.r) :
    stanceForce p i slip = (slip, (0, 0)) := by
  unfold stanceForce
  rw [hconst, if_neg Bool.false_ne_true, if_pos hslip, if_pos h]

theorem stanceForce_of_not_longer (h : ¬ i.slipLeg < slip.r) :
    stanceForce p i slip =
      ((model i).step slip p.slipStep,
        (model i).radialForce ((model i).step slip p.slipStep)) := by
  unfold stanceForce
  rw [hconst, if_neg Bool.false_ne_true, if_pos hslip, if_neg h]

end Follows

section Stance

variable (p : Params α) (i : Input α)

/-- The pendulum after a number of steps of integration. -/
def swing (start : SlipState α) (k : ℕ) : SlipState α :=
  (fun s => (model i).step s p.slipStep)^[k] start

/-- Is the pendulum longer than at rest after so many steps? -/
def Extended (start : SlipState α) (k : ℕ) : Prop := i.slipLeg < (swing p i start k).r

instance (start : SlipState α) (k : ℕ) : Decidable (Extended p i start k) :=
  inferInstanceAs (Decidable (_ < _))

/-- What a number of stance cycles makes of a pendulum without a force, and of its force: one step in
each cycle, until the pendulum is longer than at rest. Then it stays as it is, and there is no force. -/
structure Carried (start : SlipState α) (n : ℕ) (after : SlipState α × (α × α)) : Prop where
  swings : (∀ k < n, ¬ Extended p i start k) →
    after = (swing p i start n,
      if n = 0 then (0, 0) else (model i).radialForce (swing p i start n))
  rests : ∀ m < n, Extended p i start m → (∀ k < m, ¬ Extended p i start k) →
    after = (swing p i start m, (0, 0))

variable {p i} {start : SlipState α}

theorem swing_succ (k : ℕ) :
    swing p i start (k + 1) = (model i).step (swing p i start k) p.slipStep :=
  Function.iterate_succ_apply' _ _ _

theorem Carried.zero : Carried p i start 0 (start, (0, 0)) :=
  ⟨fun _ => rfl, fun m hm => absurd hm m.not_lt_zero⟩

variable (hslip : i.slipForce = true) (hconst : i.constantForce = false)

include hslip hconst

theorem Carried.stance {n : ℕ} {after : SlipState α × (α × α)} (h : Carried p i start n after) :
    Carried p i start (n + 1) (stanceForce p i after.1) := by
  -- The length is tested before the step, so that the cycle which passes the rest length still has
  -- a force, and the next one has none.
  constructor
  · intro hnone
    have hswung := h.swings fun k hk => hnone k (hk.trans n.lt_succ_self)
    have hshorter := stanceForce_of_not_longer (p := p) hslip hconst (hnone n n.lt_succ_self)
    rw [hswung, hshorter, if_neg n.succ_ne_zero, swing_succ]
  · intro m hm hlonger hfirst
    have hkept : after.1 = swing p i start m := by
      obtain hlt | rfl := Nat.lt_succ_iff_lt_or_eq.mp hm
      · rw [h.rests m hlt hlonger hfirst]
      · rw [h.swings hfirst]
    rw [hkept]
    exact stanceForce_of_longer hslip hconst hlonger

/-- Cycles in stance only, from a state without a force. -/
theorem foldl_stance {s : Pendulum α} (hforce : s.force = (0, 0)) {ts : List Turn}
    (hts : ∀ t ∈ ts, t = .keep ∨ t = .cycle .stance) :
    let last := ts.foldl (Pendulum.next p i) s
    Carried p i s.slip (ts.count (.cycle .stance)) (last.slip, last.force) := by
  -- On the last turn: `Carried.stance` takes the invariant over one more cycle.
  induction ts using List.reverseRecOn with
  | nil =>
    show Carried p i s.slip 0 (s.slip, s.force)
    rw [hforce]
    exact .zero
  | append_singleton ts t ih =>
    have hbefore := ih fun t ht => hts t (by simp [ht])
    intro last
    have hlast : last = (ts.foldl (Pendulum.next p i) s).next p i t := by
      simp only [last, List.foldl_append, List.foldl_cons, List.foldl_nil]
    rw [hlast, List.count_append]
    obtain rfl | rfl := hts t (by simp)
    · exact hbefore
    · rw [List.count_singleton_self]
      exact hbefore.stance hslip hconst

/-- Cycles in stance since a flight, whatever went before it. -/
theorem foldl_flight (s : Pendulum α) (ts : List Turn) {us : List Turn}
    (hus : ∀ u ∈ us, u = .keep ∨ u = .cycle .stance) :
    let last := (ts ++ .cycle .flight :: us).foldl (Pendulum.next p i) s
    Carried p i (touchdown i) (us.count (.cycle .stance)) (last.slip, last.force) := by
  intro last
  have hlast : last = us.foldl (Pendulum.next p i)
      ((ts.foldl (Pendulum.next p i) s).next p i (.cycle .flight)) := by
    simp only [last, List.foldl_append, List.foldl_cons]
  have hforce : ((ts.foldl (Pendulum.next p i) s).next p i (.cycle .flight)).force = (0, 0) := rfl
  rw [hlast]
  exact foldl_stance hslip hconst hforce hus

end Stance

/-! ## Runs -/

/-- Under an input that follows the pendulum, the pendulum is carried from touchdown by one
Runge-Kutta step in each stance cycle, until it is longer than at rest; then it stays, and there is
no force. Touchdowns are the changes from flight to stance. Two runs with the same turns have the
same pendulums, whatever is measured in them and however long their control cycles are. -/
theorem run_pendulum {c₀ : GaitControl (gait : Gait α)} (hc₀ : c₀.Created) {i : Input α}
    (hslip : i.slipForce = true) (hconst : i.constantForce = false)
    {es : List (GaitControl.Event (gait : Gait α))} (hes : ∀ e ∈ es, Under i e) :
    let p : Params α := c₀.params
    let s : State α := (c₀.run es).1.gait
    let phases : List Phase := (c₀.run es).2.map fun out => Report.phase out.2.gait
    let dt := p.slipStep
    let g : α := -9.81
    let thrust (x : SlipState α) : α := i.slipSpring * (i.slipLeg - x.r)
    let rates (x : SlipState α) : SlipState α :=
      ⟨x.dr, x.r * x.dq * x.dq + g * Scalar.sin x.q + thrust x / i.slipMass, x.dq,
        -(2 * x.dq * x.dr + g * Scalar.cos x.q) / x.r⟩
    let along (x k : SlipState α) (t : α) : SlipState α :=
      ⟨x.r + k.r * t, x.dr + k.dr * t, x.q + k.q * t, x.dq + k.dq * t⟩
    let step (x : SlipState α) : SlipState α :=
      let k₁ := rates x
      let k₂ := rates (along x k₁ (dt / 2))
      let k₃ := rates (along x k₂ (dt / 2))
      let k₄ := rates (along x k₃ dt)
      ⟨x.r + (k₁.r + k₂.r * 2 + k₃.r * 2 + k₄.r) * (dt / 6),
        x.dr + (k₁.dr + k₂.dr * 2 + k₃.dr * 2 + k₄.dr) * (dt / 6),
        x.q + (k₁.q + k₂.q * 2 + k₃.q * 2 + k₄.q) * (dt / 6),
        x.dq + (k₁.dq + k₂.dq * 2 + k₃.dq * 2 + k₄.dq) * (dt / 6)⟩
    let seed : SlipState α :=
      ⟨i.slipLeg, -Scalar.sqrt (2 * Scalar.abs g * i.slipHeight), Scalar.halfPi, 0⟩
    let course (k : ℕ) : SlipState α := step^[k] seed
    let longer (k : ℕ) : Prop := i.slipLeg < (course k).r
    (∀ before flight fs, es = before ++ flight :: fs → turn flight = .cycle .flight →
      (∀ t ∈ fs.map turn, t = .keep ∨ t = .cycle .stance) →
      let n := (fs.map turn).count (.cycle .stance)
      ((∀ k < n, ¬ longer k) → s.slip = course n ∧ s.force = if n = 0 then (0, 0) else
        (thrust s.slip * Scalar.cos s.slip.q, thrust s.slip * Scalar.sin s.slip.q)) ∧
      ∀ m < n, longer m → (∀ k < m, ¬ longer k) → s.slip = course m ∧ s.force = (0, 0)) ∧
    phases = (es.map turn).filterMap Turn.phase? ∧
    s.numTouchdowns = ((Phase.flight :: phases).zip phases).count (.flight, .stance) ∧
    ∀ (framework : Framework α) (fs : List (GaitControl.Event (gait : Gait α))),
      (∀ e ∈ fs, Under i e) → fs.map turn = es.map turn →
      State.pendulum (({ c₀ with framework } : GaitControl gait).run fs).1.gait = s.pendulum := by
  intro p s phases dt g thrust rates along step seed course longer
  have hrun : s.pendulum = (es.map turn).foldl (Pendulum.next p i) (State.pendulum c₀.gait) :=
    pendulum_run c₀ hes
  refine ⟨?_, phases_run c₀ es, ?_, ?_⟩
  · intro before flight fs hsplit hflight hstance n
    have hcarried := foldl_flight (p := p) hslip hconst (State.pendulum c₀.gait)
      (before.map turn) hstance
    have hmap : es.map turn = before.map turn ++ .cycle .flight :: fs.map turn := by
      rw [hsplit, List.map_append, List.map_cons, hflight]
    rw [← hmap, ← hrun] at hcarried
    obtain ⟨hswings, hrests⟩ := hcarried
    refine ⟨fun hnone => ?_, fun m hm hlonger hfirst => Prod.mk.inj (hrests m hm hlonger hfirst)⟩
    obtain ⟨hcourse, hforce⟩ := Prod.mk.inj (hswings hnone)
    rw [← hcourse] at hforce
    exact ⟨hcourse, hforce⟩
  · obtain ⟨hphase, hnone⟩ := created_in_flight hc₀
    have hcount := numTouchdowns_run c₀ hes
    rw [hphase, hnone] at hcount
    exact hcount.trans (Nat.zero_add _)
  · intro framework fs hfs hturns
    rw [pendulum_run _ hfs, hturns]
    exact hrun.symm

/-! ## A stiff pendulum

Its step is so long for its spring that the first one from touchdown takes it past the rest length. -/

/-- A stiff spring, and a fall that ends at a fifth of the speed that gravity gives in a second. -/
noncomputable def stiffInput : Input ℝ :=
  { Input.standard with slipForce := true, slipSpring := 60000, slipHeight := 0.1962 }

/-- Steps of a tenth of a second. -/
noncomputable def coarseParams : Params ℝ := { Params.standard with slipStep := 0.1 }

/-- A cycle with the torso at a height. -/
noncomputable def stiffCycle (height : ℝ) : GaitControl.Event (gait : Gait ℝ) :=
  .process ⟨⟨.both .zero, ⟨0, 0, 0, height⟩⟩, stiffInput, true⟩

theorem turn_stiffCycle (height : ℝ) :
    turn (stiffCycle height) = .cycle (if height < 0.9 then .stance else .flight) := by
  norm_num [stiffCycle, turn, Phase.select, stiffInput, Input.standard]

theorem model_stiffInput : model stiffInput = ⟨60000, 0.9, 60, -9.81⟩ := by
  norm_num [model, SlipModel.onSite, stiffInput, Input.standard, standardGravity]

theorem touchdown_stiffInput : touchdown stiffInput = ⟨0.9, -1.962, Real.pi / 2, 0⟩ := by
  have hfall : 2 * |standardGravity| * stiffInput.slipHeight = 1.962 ^ 2 := by
    norm_num [standardGravity, stiffInput]
  have hspeed : Scalar.sqrt (2 * Scalar.abs standardGravity * stiffInput.slipHeight) = 1.962 :=
    (congrArg Real.sqrt hfall).trans (Real.sqrt_sq (by norm_num))
  have hrest : stiffInput.slipLeg = 0.9 := by norm_num [stiffInput, Input.standard]
  unfold touchdown
  rw [hspeed, hrest]
  simp

/-- The first step stretches the spring by more than an eighth of a metre. -/
theorem swing_stiffInput :
    swing coarseParams stiffInput (touchdown stiffInput) 1 = ⟨1.022625, 0.327, Real.pi / 2, 0⟩ := by
  let m : SlipModel ℝ := ⟨60000, 0.9, 60, -9.81⟩
  have hequilibrium : m.equilibrium = 0.89019 := by norm_num [m, SlipModel.equilibrium]
  have hstart : (⟨0.9, -1.962, Real.pi / 2, 0⟩ : SlipState ℝ) = m.upright ![0.00981, -1.962] := by
    norm_num [SlipModel.upright, hequilibrium]
  have hstep : coarseParams.slipStep = 0.1 := by norm_num [coarseParams]
  have hspring : m.spring ≠ 0 := by norm_num [m]
  have hmass : m.mass ≠ 0 := by norm_num [m]
  rw [swing, Function.iterate_one, touchdown_stiffInput, model_stiffInput, hstart, hstep,
    SlipModel.step_upright _ hspring hmass, SlipModel.taylor_oscillator, SlipModel.upright,
    hequilibrium]
  norm_num [m]

/-- The cycle that passes the rest length pulls with the force of the stretched spring. The next one
keeps the pendulum, and has no force. -/
theorem stiff_run_pendulum :
    let c₀ : GaitControl (gait : Gait ℝ) := ⟨⟨0.1, 0⟩, coarseParams,
      (gait : Gait ℝ).configure coarseParams (gait : Gait ℝ).initial, false, 0, 0⟩
    let es₁ := [stiffCycle 1.1, stiffCycle 0.8]
    let es₂ := [stiffCycle 1.1, stiffCycle 0.8, .makeSafe, stiffCycle 0.7]
    let s₁ : State ℝ := (c₀.run es₁).1.gait
    let s₂ : State ℝ := (c₀.run es₂).1.gait
    (c₀.Created ∧ stiffInput.slipForce = true ∧ stiffInput.constantForce = false ∧
      (∀ e ∈ es₁, Under stiffInput e) ∧ ∀ e ∈ es₂, Under stiffInput e) ∧
    s₁.slip = ⟨1.022625, 0.327, Real.pi / 2, 0⟩ ∧ s₁.force = (0, -7357.5) ∧
    s₂.slip = ⟨1.022625, 0.327, Real.pi / 2, 0⟩ ∧ s₂.force = (0, 0) ∧ s₂.numTouchdowns = 1 := by
  intro c₀ es₁ es₂ s₁ s₂
  have hnew : GaitControl.new (gait : Gait ℝ) ⟨0.1, 0⟩ coarseParams = .ok c₀ := by
    have hperiod : ¬ (0.1 : ℝ) ≤ 0 := by norm_num
    simp [GaitControl.new, Framework.check, c₀, hperiod]
  have hcreated : c₀.Created := .new hnew
  have hunder₁ : ∀ e ∈ es₁, Under stiffInput e := by
    simp only [es₁, List.forall_mem_cons]
    exact ⟨rfl, rfl, by simp⟩
  have hunder₂ : ∀ e ∈ es₂, Under stiffInput e := by
    simp only [es₂, List.forall_mem_cons]
    exact ⟨rfl, rfl, trivial, rfl, by simp⟩
  have hfall : turn (stiffCycle 1.1) = .cycle .flight := by
    rw [turn_stiffCycle, if_neg (by norm_num)]
  have hland : turn (stiffCycle 0.8) = .cycle .stance := by
    rw [turn_stiffCycle, if_pos (by norm_num)]
  have hstay : turn (stiffCycle 0.7) = .cycle .stance := by
    rw [turn_stiffCycle, if_pos (by norm_num)]
  have hturns₁ : [stiffCycle 0.8].map turn = [.cycle .stance] := by rw [List.map_singleton, hland]
  have hturns₂ : [stiffCycle 0.8, .makeSafe, stiffCycle 0.7].map turn =
      [.cycle .stance, .keep, .cycle .stance] := by
    simp only [List.map_cons, List.map_nil, hland, hstay]
    rfl
  obtain ⟨hcourse₁, -⟩ := run_pendulum hcreated rfl rfl hunder₁
  obtain ⟨hcourse₂, -, hcount, -⟩ := run_pendulum hcreated rfl rfl hunder₂
  obtain ⟨hswings, -⟩ := hcourse₁ [] (stiffCycle 1.1) [stiffCycle 0.8] rfl hfall
    (by rw [hturns₁]; decide)
  obtain ⟨-, hrests⟩ := hcourse₂ [] (stiffCycle 1.1) [stiffCycle 0.8, .makeSafe, stiffCycle 0.7] rfl
    hfall (by rw [hturns₂]; decide)
  rw [hturns₁] at hswings
  rw [hturns₂] at hrests
  rw [phases_run, List.map_cons, hfall, hturns₂] at hcount
  -- The pendulum touches down at rest length, so the first cycle takes a step and the second none.
  have hfirst : ∀ k < 1, ¬ Extended coarseParams stiffInput (touchdown stiffInput) k := by
    intro k hk
    obtain rfl := Nat.lt_one_iff.mp hk
    exact lt_irrefl stiffInput.slipLeg
  have hlonger : Extended coarseParams stiffInput (touchdown stiffInput) 1 := by
    unfold Extended
    rw [swing_stiffInput]
    norm_num [stiffInput, Input.standard]
  obtain ⟨hslip₁, hforce₁⟩ := hswings hfirst
  obtain ⟨hslip₂, hforce₂⟩ := hrests 1 (by decide) hlonger hfirst
  have hs₁ : s₁.slip = ⟨1.022625, 0.327, Real.pi / 2, 0⟩ := hslip₁.trans swing_stiffInput
  have hs₂ : s₂.slip = ⟨1.022625, 0.327, Real.pi / 2, 0⟩ := hslip₂.trans swing_stiffInput
  have hpull : s₁.force = (0, -7357.5) := by
    have hthrust : stiffInput.slipSpring * (stiffInput.slipLeg - 1.022625) = -7357.5 := by
      norm_num [stiffInput, Input.standard]
    refine (hforce₁.trans (if_neg (by decide))).trans ?_
    show (stiffInput.slipSpring * (stiffInput.slipLeg - s₁.slip.r) * Real.cos s₁.slip.q,
      stiffInput.slipSpring * (stiffInput.slipLeg - s₁.slip.r) * Real.sin s₁.slip.q) = _
    rw [hs₁, hthrust, Real.cos_pi_div_two, Real.sin_pi_div_two, mul_zero, mul_one]
  have hnone : s₂.force = (0, 0) := by
    refine hforce₂.trans ?_
    rw [Scalar.real_zero]
  exact ⟨⟨hcreated, rfl, rfl, hunder₁, hunder₂⟩, hs₁, hpull, hs₂, hnone, hcount⟩

end BoomWalker.LegHop
