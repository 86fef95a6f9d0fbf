/-
What a simulated leg depends on.

Main statement: two sequences of operations that write the same commands for a leg leave it in one
state, whatever they write for the other leg and however they move the other leg and the body by
hand (`leg_run_agrees`).

The invariant (`Alike`) is what a leg can tell of a master: how far the slaves have come up, and its
own command in the domain and in the copy. The slave of the other leg writes to neither place.
-/
import BoomWalker.Proofs.Fieldbus.SimOperations

namespace BoomWalker.SimMaster

variable {α : Type} {m m' : SimMaster α} {s : Side}

/-! ## Operations that agree -/

/-- Two operations do the same to a leg: they write one command for it, and put it into one state if
they move it by hand. -/
inductive Operation.Agrees (s : Side) : Operation α → Operation α → Prop
  | activate : Agrees s activate activate
  | write {bytes bytes' : Bytes} (h : s.commandWindow bytes' = s.commandWindow bytes) :
      Agrees s (write bytes) (write bytes')
  | send : Agrees s send send
  | receive : Agrees s receive receive
  | processDomain : Agrees s processDomain processDomain
  | syncReferenceClock : Agrees s syncReferenceClock syncReferenceClock
  | setLeg {t : Side} {l l' : LegState α} (h : t = s → l' = l) : Agrees s (setLeg t l) (setLeg t l')
  | setPosition (p p' : BodyPosition α) : Agrees s (setPosition p) (setPosition p')

/-! ## Masters that a leg cannot tell apart -/

/-- The slaves have come up as far, and the domain and its copy hold one command for the leg. -/
structure Alike (s : Side) (m m' : SimMaster α) : Prop where
  params : m'.params = m.params
  period : m'.period = m.period
  active : m'.active = m.active
  sent : m'.sent = m.sent
  received : m'.received = m.received
  numFrames : m'.numFrames = m.numFrames
  domain : m'.domain.map s.commandWindow = m.domain.map s.commandWindow
  copy : s.commandWindow m'.inFlight = s.commandWindow m.inFlight
  leg : m'.leg s = m.leg s

namespace Alike

theorem refl (s : Side) (m : SimMaster α) : Alike s m m :=
  ⟨rfl, rfl, rfl, rfl, rfl, rfl, rfl, rfl, rfl⟩

theorem count (h : Alike s m m') : Alike s m.count m'.count :=
  ⟨h.params, h.period, h.active, h.sent, rfl,
    congrArg (fun n => min (n + 1) Word.max32) h.numFrames, h.domain, h.copy, h.leg⟩

theorem linkState (h : Alike s m m') : m'.linkState = m.linkState := by
  unfold SimMaster.linkState
  rw [h.active, h.params, h.numFrames]

theorem activate (h : Alike s m m') (hm : m.Laid) (hm' : m'.Laid) :
    Alike s m.activate.2 m'.activate.2 := by
  obtain ⟨d, hd, hdomain⟩ := hm.domain
  obtain ⟨d', hd', hdomain'⟩ := hm'.domain
  obtain ⟨counter, hslaves⟩ := hm.slaves
  obtain ⟨counter', hslaves'⟩ := hm'.slaves
  unfold SimMaster.activate
  simp only [hd, hd', if_pos (all_ready hslaves), if_pos (all_ready hslaves'), hdomain, hdomain']
  exact ⟨h.params, h.period, rfl, h.sent, h.received, rfl, hd ▸ hd' ▸ h.domain, rfl, h.leg⟩

theorem send (h : Alike s m m') (hm : m.Laid) (hm' : m'.Laid) : Alike s m.send m'.send := by
  obtain ⟨d, hd, hdomain⟩ := hm.domain
  obtain ⟨d', hd', hdomain'⟩ := hm'.domain
  have hsame : s.commandWindow d' = s.commandWindow d := by
    have hmap := h.domain
    rw [hd, hd'] at hmap
    exact Option.some_inj.mp hmap
  unfold SimMaster.send
  by_cases hactive : m.active = true
  · have hactive' : m'.active = true := h.active.trans hactive
    have hfits : d.length = m.inFlight.length := hdomain.trans (hm.copy hactive).symm
    have hfits' : d'.length = m'.inFlight.length := hdomain'.trans (hm'.copy hactive').symm
    simp only [hactive, hactive', if_true, hd, hd', if_pos hfits, if_pos hfits']
    exact ⟨h.params, h.period, rfl, rfl, h.received, h.numFrames, congrArg some hsame, hsame, h.leg⟩
  · have hactive' : ¬ m'.active = true := by rwa [h.active]
    rw [if_neg hactive, if_neg hactive']
    exact h

variable [Scalar α] [Transmit α]

/-- Both slaves of the leg read the same command, and no state is written over a command. -/
theorem exchange (h : Alike s m m') (hm : m.Laid) (hm' : m'.Laid) (hactive : m.active = true) :
    Alike s m.exchange m'.exchange := by
  obtain ⟨read, slaves, d, hread, hexchange, -, hkept⟩ := hm.exchange hactive
  obtain ⟨read', slaves', d', hread', hexchange', -, hkept'⟩ :=
    hm'.exchange (h.active.trans hactive)
  have hsame : read' s = read s := by
    have hcommand := hread' s
    rw [Side.command?, h.copy] at hcommand
    exact Option.some_inj.mp (hcommand.symm.trans (hread s))
  have hleg : m'.driven (read' s) (m'.leg s) = m.driven (read s) (m.leg s) := by
    unfold driven
    rw [h.params, h.period, hsame, h.leg]
  rw [hexchange, hexchange']
  exact ⟨h.params, h.period, h.active, h.sent, h.received, h.numFrames,
    (hkept' s).trans (h.domain.trans (hkept s).symm), h.copy,
    (m'.leg_serveAll read' s).trans (hleg.trans (m.leg_serveAll read s).symm)⟩

theorem processDomain (h : Alike s m m') (hm : m.Laid) (hm' : m'.Laid) :
    Alike s m.processDomain m'.processDomain := by
  unfold SimMaster.processDomain
  dsimp only
  rw [h.received]
  by_cases hreceived : m.received = true
  · rw [if_pos hreceived, if_pos hreceived, h.count.linkState]
    by_cases hop : m.count.linkState = .op
    · rw [if_pos hop, if_pos hop]
      exact h.count.exchange hm.count hm'.count (m.count.active_of_op hop)
    · rw [if_neg hop, if_neg hop]
      exact h.count
  · rw [if_neg hreceived, if_neg hreceived]
    exact h

/-- Operations that agree keep masters alike. -/
theorem perform (h : Alike s m m') (hm : m.Laid) (hm' : m'.Laid) {op op' : Operation α}
    (hop : op.Agrees s op') : Alike s (m.perform op) (m'.perform op') := by
  cases hop with
  | activate => exact h.activate hm hm'
  | write hsame =>
    refine ⟨h.params, h.period, h.active, h.sent, h.received, h.numFrames, ?_, h.copy, h.leg⟩
    obtain ⟨d, hd, -⟩ := hm.domain
    obtain ⟨d', hd', -⟩ := hm'.domain
    show (m'.domain.map _).map _ = (m.domain.map _).map _
    rw [hd, hd']
    exact congrArg some hsame
  | send => exact h.send hm hm'
  | receive =>
    exact ⟨h.params, h.period, h.active, rfl, h.sent, h.numFrames, h.domain, h.copy, h.leg⟩
  | processDomain => exact h.processDomain hm hm'
  | @setLeg t l l' hsame =>
    refine ⟨h.params, h.period, h.active, h.sent, h.received, h.numFrames, h.domain, h.copy, ?_⟩
    show (m'.rig.snapshot.legs.set t l').get s = (m.rig.snapshot.legs.set t l).get s
    by_cases hside : t = s
    · rw [hsame hside, hside, Sided.get_set_self, Sided.get_set_self]
    · rw [Sided.get_set_of_ne _ (Ne.symm hside), Sided.get_set_of_ne _ (Ne.symm hside)]
      exact h.leg
  | syncReferenceClock | setPosition =>
    exact ⟨h.params, h.period, h.active, h.sent, h.received, h.numFrames, h.domain, h.copy, h.leg⟩

end Alike

/-! ## Runs -/

variable [Scalar α] [Transmit α]

theorem Alike.run (h : Alike s m m') (hm : m.Laid) (hm' : m'.Laid) {ops ops' : List (Operation α)}
    (hfits : ∀ op ∈ ops, op.Fits) (hfits' : ∀ op ∈ ops', op.Fits)
    (hagree : List.Forall₂ (Operation.Agrees s) ops ops') : Alike s (m.run ops) (m'.run ops') := by
  induction hagree generalizing m m' with
  | nil => exact h
  | cons hop _ ih =>
    obtain ⟨hfit, hfits⟩ := List.forall_mem_cons.mp hfits
    obtain ⟨hfit', hfits'⟩ := List.forall_mem_cons.mp hfits'
    exact ih (h.perform hm hm' hop) (hm.perform (s := s) hfit).1 (hm'.perform (s := s) hfit').1
      hfits hfits'

/-- A leg is in one state after operations that agree for it. -/
theorem leg_run_agrees (hm : m.Laid) {ops ops' : List (Operation α)} (hfits : ∀ op ∈ ops, op.Fits)
    (hfits' : ∀ op ∈ ops', op.Fits) (hagree : List.Forall₂ (Operation.Agrees s) ops ops') :
    (m.run ops').leg s = (m.run ops).leg s :=
  ((Alike.refl s m).run hm hm hfits hfits' hagree).leg

end BoomWalker.SimMaster
