/-
How the simulated legs move under a command that is held, over exact arithmetic.

Main statement: while the slave of a leg reads one command with the code for running, each joint
velocity approaches its steady value geometrically, each joint angle adds up the velocities, and the
leg side has the motion of the motors. Under any other code the leg stays as it is; and what the
frames hold of the other leg does not matter (`run_drives`).

A joint covers a share of the way to its steady velocity in every step, so its distance shrinks by
one factor each time (`velocity_iterate`). A leg takes one such step in every frame that is
exchanged and none besides (`SimMaster.leg_run`).
-/
import Mathlib
import BoomWalker.Proofs.Fieldbus.LegIndependence
import BoomWalker.Proofs.Fieldbus.SimConfiguring
import BoomWalker.Proofs.Scalar.Real

namespace BoomWalker

namespace Plant

/-! ## One joint -/

/-- A joint after a step, from its angle and velocity. -/
noncomputable def moved (share steady dt : ℝ) (x : ℝ × ℝ) : ℝ × ℝ :=
  let velocity := x.2 + share * (steady - x.2)
  (x.1 + velocity * dt, velocity)

section Joint

variable (share steady dt : ℝ) (x : ℝ × ℝ)

theorem velocity_iterate (n : ℕ) :
    ((moved share steady dt)^[n] x).2 = steady + (1 - share) ^ n * (x.2 - steady) := by
  induction n with
  | zero => simp
  | succ n ih =>
    rw [Function.iterate_succ_apply', moved, ih, pow_succ]
    ring

theorem angle_iterate (n : ℕ) :
    ((moved share steady dt)^[n] x).1 =
      x.1 + dt * ∑ k ∈ Finset.range n, ((moved share steady dt)^[k + 1] x).2 := by
  induction n with
  | zero => simp
  | succ n ih =>
    rw [Finset.sum_range_succ, mul_add, ← add_assoc, ← ih, Function.iterate_succ_apply', moved,
      mul_comm dt]

end Joint

/-- A joint has come from one angle and velocity to others in some steps, each of which covers a
share of the way to the steady velocity. -/
structure Approaches (share steady dt : ℝ) (n : ℕ) (x y : ℝ × ℝ) : Prop where
  velocity : y.2 = steady + (1 - share) ^ n * (x.2 - steady)
  between : y.2 ∈ Set.uIcc x.2 steady
  angle : y.1 = x.1 + dt * ∑ k ∈ Finset.range n, (steady + (1 - share) ^ (k + 1) * (x.2 - steady))

theorem approaches_iterate {share : ℝ} (hshare : share ∈ Set.Icc 0 1) (steady dt : ℝ) (n : ℕ)
    (x : ℝ × ℝ) : Approaches share steady dt n x ((moved share steady dt)^[n] x) where
  velocity := velocity_iterate share steady dt x n
  between := by
    have hrest : 0 ≤ 1 - share := sub_nonneg.mpr hshare.2
    have hpow : (1 - share) ^ n ∈ Set.Icc 0 1 :=
      ⟨pow_nonneg hrest n, pow_le_one₀ hrest (sub_le_self 1 hshare.1)⟩
    rw [velocity_iterate, Set.mem_uIcc]
    rcases le_total x.2 steady with h | h
    · left
      constructor <;> nlinarith [hpow.1, hpow.2]
    · right
      constructor <;> nlinarith [hpow.1, hpow.2]
  angle := by
    rw [angle_iterate]
    simp only [velocity_iterate]

/-! ## One leg -/

theorem share_eq (tc dt : ℝ) : share tc dt = if 0 < tc then min (dt / tc) 1 else 1 := by
  simp [share]

theorem share_mem_Icc (tc : ℝ) {dt : ℝ} (hdt : 0 < dt) : share tc dt ∈ Set.Icc 0 1 := by
  rw [share_eq]
  split_ifs with htc
  · exact ⟨le_min (div_pos hdt htc).le zero_le_one, min_le_right _ _⟩
  · exact ⟨zero_le_one, le_rfl⟩

/-- The leg side of both halves has the angle and velocity of the motors. -/
structure Rigid (l : LegState ℝ) : Prop where
  a : l.a.legAngle = l.a.motorAngle ∧ l.a.legVelocity = l.a.motorVelocity
  b : l.b.legAngle = l.b.motorAngle ∧ l.b.legVelocity = l.b.motorVelocity

variable (p : SimParams ℝ) (dt : ℝ) (i : LegCurrents ℝ) (n : ℕ) (l : LegState ℝ)

/-- Every joint of a leg moves on its own. -/
theorem step_iterate :
    let after := (step p dt i)^[n] l
    let move (current : ℝ) := (moved (share p.plantTimeConstant dt) (p.plantGain * current) dt)^[n]
    (after.a.motorAngle, after.a.motorVelocity) = move i.a (l.a.motorAngle, l.a.motorVelocity) ∧
      (after.b.motorAngle, after.b.motorVelocity) = move i.b (l.b.motorAngle, l.b.motorVelocity) ∧
      (after.hip.angle, after.hip.velocity) = move i.hip (l.hip.angle, l.hip.velocity) := by
  have hjoint (f : LegState ℝ → ℝ × ℝ) (current : ℝ)
      (h : ∀ l, f (step p dt i l) =
        moved (share p.plantTimeConstant dt) (p.plantGain * current) dt (f l)) :
      f ((step p dt i)^[n] l) =
        (moved (share p.plantTimeConstant dt) (p.plantGain * current) dt)^[n] (f l) :=
    Function.Semiconj.iterate_right (show Function.Semiconj f _ _ from h) n l
  exact ⟨hjoint (fun l => (l.a.motorAngle, l.a.motorVelocity)) i.a fun _ => rfl,
    hjoint (fun l => (l.b.motorAngle, l.b.motorVelocity)) i.b fun _ => rfl,
    hjoint (fun l => (l.hip.angle, l.hip.velocity)) i.hip fun _ => rfl⟩

theorem rigid_iterate (hn : 1 ≤ n) : Rigid ((step p dt i)^[n] l) := by
  obtain ⟨k, rfl⟩ := Nat.exists_eq_add_of_le' hn
  rw [Function.iterate_succ_apply']
  exact ⟨⟨rfl, rfl⟩, ⟨rfl, rfl⟩⟩

end Plant

/-! ## Legs on the bus -/

namespace SimMaster

open Plant

section Frames

variable [Transmit ℝ] {m : SimMaster ℝ} {s : Side} {frames : List Bytes}

/-- In every frame the command of a leg has one code and the same currents, with any watchdog. -/
def Repeats (s : Side) (code : CommandCode) (i : LegCurrents ℝ) (frames : List Bytes) : Prop :=
  ∀ frame ∈ frames, ∃ watchdog, s.command? frame = some ⟨code, watchdog, i⟩

theorem follow_run {i : LegCurrents ℝ} (h : Repeats s .run i frames) (leg : LegState ℝ) :
    m.follow s frames leg = (step m.params m.period i)^[frames.length] leg := by
  induction frames generalizing leg with
  | nil => rfl
  | cons frame frames ih =>
    obtain ⟨⟨watchdog, hframe⟩, hframes⟩ := List.forall_mem_cons.mp h
    rw [follow, List.filterMap_cons, hframe]
    exact ih hframes _

theorem follow_still
    (h : ∀ frame ∈ frames, ∀ c : CommandFrame ℝ, s.command? frame = some c → c.code ≠ .run)
    (leg : LegState ℝ) : m.follow s frames leg = leg := by
  induction frames generalizing leg with
  | nil => rfl
  | cons frame frames ih =>
    obtain ⟨hframe, hframes⟩ := List.forall_mem_cons.mp h
    rw [follow, List.filterMap_cons]
    cases hc : s.command? (α := ℝ) frame with
    | none => exact ih hframes leg
    | some c =>
      have hstill : m.driven c leg = leg := if_neg (hframe c hc)
      show m.follow s frames (m.driven c leg) = leg
      rw [hstill]
      exact ih hframes leg

end Frames

/-- However a configured bus is used and its rig was moved before: a leg that reads one command with
the code for running in every frame approaches the steady velocities of its currents and is rigid
from the first frame on; a leg that reads other codes does not change; and whatever had been written
for the other leg instead, and however the other leg had been moved, this leg would be in the same
state. -/
theorem run_drives [Transmit ℝ] {index : ℕ} {sim : SimParams ℝ} {period : ℝ} (hperiod : 0 < period)
    {m : SimMaster ℝ} (hrequest : SimMaster.request index sim period = .ok m)
    {p : FieldbusParams ℝ} {now : ℕ} {c : Connection (SimMaster ℝ) ℝ}
    (hconfigured : (Connection.configure p now m).1 = .ok c) {before ops : List (Operation ℝ)}
    (hbefore : ∀ op ∈ before, op.Fits) (hops : ∀ op ∈ ops, op.Fits) {s : Side}
    (hspares : ∀ op ∈ ops, op.Spares s) :
    let bus := c.link.master.run before
    let frames := bus.exchanges ops
    let leg := bus.leg s
    let leg' := (bus.run ops).leg s
    let share := if 0 < sim.plantTimeConstant then min (period / sim.plantTimeConstant) 1 else 1
    (bus.run ops).broken = false ∧
      (∀ i, Repeats s .run i frames →
        Approaches share (sim.plantGain * i.a) period frames.length
          (leg.a.motorAngle, leg.a.motorVelocity) (leg'.a.motorAngle, leg'.a.motorVelocity) ∧
        Approaches share (sim.plantGain * i.b) period frames.length
          (leg.b.motorAngle, leg.b.motorVelocity) (leg'.b.motorAngle, leg'.b.motorVelocity) ∧
        Approaches share (sim.plantGain * i.hip) period frames.length
          (leg.hip.angle, leg.hip.velocity) (leg'.hip.angle, leg'.hip.velocity) ∧
        (1 ≤ frames.length → Rigid leg')) ∧
      ((∀ frame ∈ frames, ∀ cmd : CommandFrame ℝ, s.command? frame = some cmd → cmd.code ≠ .run) →
        leg' = leg) ∧
      ∀ ops', (∀ op ∈ ops', op.Fits) → List.Forall₂ (Operation.Agrees s) (before ++ ops) ops' →
        (c.link.master.run ops').leg s = leg' := by
  intro bus frames leg leg' share
  obtain ⟨hlaid, hparams, hperiod'⟩ := laid_configured hrequest hconfigured
  have hbus : bus.params = sim ∧ bus.period = period := by
    obtain ⟨hp, hd⟩ := c.link.master.run_keeps before
    exact ⟨hp.trans hparams, hd.trans hperiod'⟩
  have hstart : bus.Laid := hlaid.run hbefore
  have hleg : leg' = bus.follow s frames leg := leg_run hstart hops hspares
  refine ⟨(hstart.run hops).unbroken, fun i hheld => ?_, fun hother => ?_,
    fun ops' hops' hagree => ?_⟩
  · rw [follow_run hheld, hbus.1, hbus.2] at hleg
    obtain ⟨ha, hb, hhip⟩ := step_iterate sim period i frames.length leg
    have hshare : Plant.share sim.plantTimeConstant period = share :=
      share_eq sim.plantTimeConstant period
    have happroaches (current : ℝ) (x : ℝ × ℝ) := approaches_iterate
      (share_mem_Icc sim.plantTimeConstant hperiod) (sim.plantGain * current) period frames.length x
    rw [hleg, ha, hb, hhip, ← hshare]
    exact ⟨happroaches _ _, happroaches _ _, happroaches _ _, rigid_iterate sim period i _ leg⟩
  · rw [hleg, follow_still hother]
  · have hall : c.link.master.run (before ++ ops) = bus.run ops := List.foldl_append
    rw [leg_run_agrees hlaid (List.forall_mem_append.mpr ⟨hbefore, hops⟩) hops' hagree, hall]

end SimMaster

/-! ## A bus over the real numbers -/

namespace Single

/-- The number that a word stands for. A word that stands for none is read as zero. -/
def toRat (w : UInt32) : ℚ :=
  if exponent w = 0xFF then 0 else (-1) ^ sign w * digits w * 2 ^ unit w

theorem exists_nearest_real (x : ℝ) : ∃ w, ∀ v, |(toRat w : ℝ) - x| ≤ |(toRat v : ℝ) - x| := by
  have hfinite : Finite UInt32 := Finite.of_injective UInt32.toFin fun _ _ => UInt32.toFin_inj.mp
  exact Finite.exists_min fun w => |(toRat w : ℝ) - x|

end Single

/-- Real numbers travel as a word that is nearest to them. -/
noncomputable instance instTransmitReal : Transmit ℝ where
  toWord x := (Single.exists_nearest_real x).choose
  ofWord w := Single.toRat w

namespace SimMaster

/-- A bus that is operational from the first frame on. Its motors have the time constant `tc`. -/
def laggingPlant (tc : ℝ) : FieldbusParams ℝ := ⟨0, 0, [1, 2], 1, 0, 0, 0, 1, ⟨2, 0, 1, tc⟩⟩

/-- Its master as it is requested. -/
noncomputable def laggingRequest (tc : ℝ) : SimMaster ℝ :=
  ⟨(laggingPlant tc).sim, 1, none, [], false, false, [], false, 0, ⟨.zero, .both none, 0, 0, false⟩,
    false⟩

/-- Its connection. -/
noncomputable def laggingConnection (tc : ℝ) : Connection (SimMaster ℝ) ℝ :=
  ⟨laggingPlant tc, ⟨{ laggingRequest tc with
        domain := some (List.replicate Side.domainLength 0), slaves := slavePair true },
      Connection.medullas ([Side.left, Side.right].map Side.frameOffsets), false, false⟩,
    0, .zero, false, 0⟩

/-- A frame that drives motor A of the left leg with one ampere and gives the right leg a code. -/
def leftFrame (code : UInt8) : Bytes :=
  [1, 0, 0, 0, 0, 0x80, 0x3F] ++ List.replicate 66 0 ++ code :: List.replicate 72 0

/-- Two cycles that send such a frame. -/
def leftCycles (code : UInt8) : List (Operation ℝ) :=
  let cycle : List (Operation ℝ) := [.write (leftFrame code), .send, .receive, .processDomain]
  cycle ++ cycle

theorem laggingPlant_configured (tc : ℝ) :
    (Connection.configure (laggingPlant tc) 0 (laggingRequest tc)).1 =
      .ok (laggingConnection tc) := by
  have hrequest : SimMaster.request 0 (laggingPlant tc).sim 1 = .ok (laggingRequest tc) := rfl
  have husable : (laggingPlant tc).Usable := ⟨rfl, one_ne_zero, one_ne_zero⟩
  have hshift : Clock.shift? (laggingPlant tc).cyclePeriod (laggingPlant tc).clockOffset 0 =
    some 1 := rfl
  obtain ⟨c, hc, -⟩ := configure_present husable (m := laggingRequest tc) rfl le_rfl hshift
  rw [hc, configure_ok hrequest hc]
  rfl

/-- After two frames the motor has come three quarters of the way, and the segment behind it as
well. The right leg is at rest, and would not matter if it ran. -/
theorem laggingPlant_run_drives :
    let bus := (laggingConnection 2).link.master.run [.activate]
    let leg := (bus.run (leftCycles 0)).leg .left
    SimMaster.request 0 (laggingPlant 2).sim 1 = .ok (laggingRequest 2) ∧
      (Connection.configure (laggingPlant 2) 0 (laggingRequest 2)).1 = .ok (laggingConnection 2) ∧
      Repeats .left .run ⟨1, 0, 0⟩ (bus.exchanges (leftCycles 0)) ∧
      leg.a.motorVelocity = 3 / 4 ∧ leg.a.legVelocity = 3 / 4 ∧
      (bus.run (leftCycles 0)).leg .right = bus.leg .right ∧
      ((laggingConnection 2).link.master.run ([.activate] ++ leftCycles 1)).leg .left = leg := by
  intro bus leg
  have hrequest : SimMaster.request 0 (laggingPlant 2).sim 1 = .ok (laggingRequest 2) := rfl
  have hbefore : ∀ op ∈ [Operation.activate (α := ℝ)], op.Fits := by simp [Operation.Fits]
  have hfits (code : UInt8) : ∀ op ∈ leftCycles code, op.Fits := by
    have hlength : (leftFrame code).length = Side.domainLength := rfl
    simp [leftCycles, Operation.Fits, hlength]
  have hspares (s : Side) : ∀ op ∈ leftCycles 0, op.Spares s := by
    simp [leftCycles, Operation.Spares]
  have hframes : bus.exchanges (leftCycles 0) = [leftFrame 0, leftFrame 0] := by decide +kernel
  have hone : Single.toRat 0x3F800000 = 1 := by decide +kernel
  have hzero : Single.toRat 0 = 0 := by decide +kernel
  have hleft (code : UInt8) : Side.left.command? (leftFrame code) = some (⟨.run, 0,
      Single.toRat 0x3F800000, Single.toRat 0, Single.toRat 0⟩ : CommandFrame ℝ) := rfl
  have hright (code : UInt8) : Side.right.command? (leftFrame code) = some (⟨.ofByte code, 0,
      Single.toRat 0, Single.toRat 0, Single.toRat 0⟩ : CommandFrame ℝ) := rfl
  have hheld : Repeats .left .run ⟨1, 0, 0⟩ (bus.exchanges (leftCycles 0)) := by
    have hread := hleft 0
    rw [hone, hzero, Rat.cast_one, Rat.cast_zero] at hread
    rw [hframes]
    simp only [Repeats, List.forall_mem_cons]
    exact ⟨⟨0, hread⟩, ⟨0, hread⟩, List.forall_mem_nil _⟩
  have hrest : ∀ frame ∈ bus.exchanges (leftCycles 0), ∀ cmd : CommandFrame ℝ,
      Side.right.command? frame = some cmd → cmd.code ≠ .run := by
    rw [hframes]
    simp only [List.forall_mem_cons]
    have hidle (cmd : CommandFrame ℝ) (h : Side.right.command? (leftFrame 0) = some cmd) :
        cmd.code ≠ .run := by
      obtain rfl := Option.some_inj.mp ((hright 0).symm.trans h)
      exact CommandCode.noConfusion
    exact ⟨hidle, hidle, List.forall_mem_nil _⟩
  have hagree : List.Forall₂ (Operation.Agrees .left) ([.activate] ++ leftCycles 0)
      ([.activate] ++ leftCycles 1) := by
    have hwrite : Operation.Agrees (α := ℝ) .left (.write (leftFrame 0)) (.write (leftFrame 1)) :=
      .write rfl
    exact .cons .activate <|
      .cons hwrite <| .cons .send <| .cons .receive <| .cons .processDomain <|
      .cons hwrite <| .cons .send <| .cons .receive <| .cons .processDomain .nil
  obtain ⟨-, hrun, -, hleg⟩ :=
    run_drives one_pos hrequest (laggingPlant_configured 2) hbefore (hfits 0) (hspares .left)
  obtain ⟨-, -, hstill, -⟩ :=
    run_drives one_pos hrequest (laggingPlant_configured 2) hbefore (hfits 0) (hspares .right)
  obtain ⟨ha, -, -, hrigid⟩ := hrun _ hheld
  have hn : (bus.exchanges (leftCycles 0)).length = 2 := congrArg List.length hframes
  have hvelocity : leg.a.motorVelocity = 3 / 4 := by
    have hfrom : (bus.leg .left).a.motorVelocity = ((0 : ℕ) : ℝ) := rfl
    have hto := ha.velocity
    rw [hn] at hto
    dsimp only at hto
    rw [hto, hfrom]
    norm_num [laggingPlant]
  refine ⟨hrequest, laggingPlant_configured 2, hheld, hvelocity, ?_, hstill hrest, ?_⟩
  · have hone : 1 ≤ (bus.exchanges (leftCycles 0)).length := hn ▸ one_le_two
    rw [(hrigid hone).a.2, hvelocity]
  · exact hleg _ (by simpa using ⟨trivial, hfits 1⟩) hagree

end SimMaster

end BoomWalker
