/-
The process data of two slaves, one for each leg.

The frames of the left leg come first, those of the right leg follow; of each leg the command frame
comes before the state frame. So no two frames overlap, and whatever the codecs and the slaves write
leaves the frames of the other leg alone. The codecs and slaves are taken as lists along the legs
they belong to, and every lemma is an induction along such a list.

In an exchange every slave reads the command of its leg, the leg moves, and the state of the leg
stands in the process data when all slaves have had their turn (`SimMaster.exchangeAll_seated`).
-/
import BoomWalker.Fieldbus.Connection
import BoomWalker.Fieldbus.Sim.Master
import BoomWalker.Proofs.Fieldbus.Codec
import Mathlib.Data.List.Forall2

namespace BoomWalker

/-! ## Places -/

namespace Side

/-- Length of the frames of one leg. -/
def framesLength : Nat := CommandFrame.length + StateFrame.length

/-- Where the frames of a leg stand. -/
def frameOffsets : Side → FrameOffsets
  | left => ⟨0, CommandFrame.length⟩
  | right => ⟨framesLength, framesLength + CommandFrame.length⟩

/-- Length of the process data of both legs. -/
def domainLength : Nat := framesLength + framesLength

theorem output_fits (s : Side) :
    s.frameOffsets.output + CommandFrame.length ≤ domainLength := by
  cases s <;> decide

theorem input_fits (s : Side) : s.frameOffsets.input + StateFrame.length ≤ domainLength := by
  cases s <;> decide

theorem outputs_apart {s t : Side} (h : s ≠ t) :
    s.frameOffsets.output + CommandFrame.length ≤ t.frameOffsets.output ∨
      t.frameOffsets.output + CommandFrame.length ≤ s.frameOffsets.output := by
  revert h
  cases s <;> cases t <;> decide

theorem inputs_apart {s t : Side} (h : s ≠ t) :
    s.frameOffsets.input + StateFrame.length ≤ t.frameOffsets.input ∨
      t.frameOffsets.input + StateFrame.length ≤ s.frameOffsets.input := by
  revert h
  cases s <;> cases t <;> decide

theorem output_apart_input (s t : Side) :
    s.frameOffsets.output + CommandFrame.length ≤ t.frameOffsets.input ∨
      t.frameOffsets.input + StateFrame.length ≤ s.frameOffsets.output := by
  cases s <;> cases t <;> decide

/-- The command frame of a leg in the process data. -/
def commandWindow (s : Side) (domain : Bytes) : Option Bytes :=
  Bytes.window? s.frameOffsets.output CommandFrame.length domain

theorem commandWindow_overwrite_state (s t : Side) {domain frame : Bytes}
    (hdomain : domain.length = domainLength) (hframe : frame.length = StateFrame.length) :
    s.commandWindow (Bytes.overwrite t.frameOffsets.input frame domain) =
      s.commandWindow domain := by
  refine Bytes.window?_overwrite_of_disjoint ?_ ?_
  · rw [hframe, hdomain]
    exact t.input_fits
  · rw [hframe]
    exact s.output_apart_input t

/-- The state frame of a leg in the process data. -/
def stateWindow (s : Side) (domain : Bytes) : Option Bytes :=
  Bytes.window? s.frameOffsets.input StateFrame.length domain

theorem stateWindow_overwrite_self (s : Side) {domain frame : Bytes}
    (hdomain : domain.length = domainLength) (hframe : frame.length = StateFrame.length) :
    s.stateWindow (Bytes.overwrite s.frameOffsets.input frame domain) = some frame := by
  unfold stateWindow
  rw [← hframe]
  refine Bytes.window?_overwrite ?_
  rw [hframe, hdomain]
  exact s.input_fits

theorem stateWindow_overwrite_other {s t : Side} (h : s ≠ t) {domain frame : Bytes}
    (hdomain : domain.length = domainLength) (hframe : frame.length = StateFrame.length) :
    s.stateWindow (Bytes.overwrite t.frameOffsets.input frame domain) = s.stateWindow domain := by
  refine Bytes.window?_overwrite_of_disjoint ?_ ?_
  · rw [hframe, hdomain]
    exact t.input_fits
  · rw [hframe]
    exact inputs_apart h

end Side

theorem Sided.get_set_of_ne {β : Type} (p : Sided β) {s t : Side} (h : s ≠ t) (b : β) :
    (p.set t b).get s = p.get s := by
  cases s <;> cases t <;> first | rfl | exact absurd rfl h

/-! ## The codecs -/

variable {α : Type} [Transmit α]

theorem exists_of_forall₂ {β γ : Type} {R : β → γ → Prop} {bs : List β} {cs : List γ}
    (h : List.Forall₂ R bs cs) {b : β} (hb : b ∈ bs) : ∃ c ∈ cs, R b c := by
  induction h with
  | nil => cases hb
  | @cons b' c' bs cs hrel _ ih =>
    obtain rfl | hb := List.mem_cons.mp hb
    · exact ⟨c', List.mem_cons_self, hrel⟩
    · obtain ⟨c, hc, hrel⟩ := ih hb
      exact ⟨c, List.mem_cons_of_mem c' hc, hrel⟩

/-- The command frames at two places do not overlap. -/
def FrameOffsets.CommandsApart (o o' : FrameOffsets) : Prop :=
  o.output + CommandFrame.length ≤ o'.output ∨ o'.output + CommandFrame.length ≤ o.output

namespace Medulla

/-- The codec when it has written one more command. -/
def ticked (m : Medulla) : Medulla := { m with watchdog := m.watchdog + 1 }

/-- Codecs whose command frames lie within the process data and apart from each other all write
their commands, and nothing else. -/
theorem encodeAll_of_apart {ms : List Medulla} {domain : Bytes}
    (hrange : ∀ m ∈ ms, m.offsets.output + CommandFrame.length ≤ domain.length)
    (hapart : (ms.map (·.offsets)).Pairwise FrameOffsets.CommandsApart) (c : Command α) :
    (encodeAll c ms domain).1 = ms.map ticked ∧
      (encodeAll c ms domain).2.length = domain.length ∧
      (∀ m ∈ ms, m.commandBytes? (encodeAll c ms domain).2 =
        some (CommandFrame.toBytes ⟨c.code, m.watchdog + 1, c.legs.get m.side⟩)) ∧
      ∀ m' : Medulla, (∀ o ∈ ms.map (·.offsets), m'.offsets.CommandsApart o) →
        m'.commandBytes? (encodeAll c ms domain).2 = m'.commandBytes? domain := by
  -- Every codec changes the process data, but not its length, so all places stay in range.
  induction ms generalizing domain with
  | nil => exact ⟨rfl, rfl, fun m hm => absurd hm List.not_mem_nil, fun _ _ => rfl⟩
  | cons m ms ih =>
    have hfits := hrange m List.mem_cons_self
    let frame : CommandFrame α := ⟨c.code, m.watchdog + 1, c.legs.get m.side⟩
    have hframe : m.offsets.output + frame.toBytes.length ≤ domain.length := by
      rw [frame.length_toBytes]
      exact hfits
    have hlength : (Bytes.overwrite m.offsets.output frame.toBytes domain).length = domain.length :=
      Bytes.length_overwrite hframe
    have hall : encodeAll c (m :: ms) domain =
        (m.ticked :: (encodeAll c ms (Bytes.overwrite m.offsets.output frame.toBytes domain)).1,
          (encodeAll c ms (Bytes.overwrite m.offsets.output frame.toBytes domain)).2) := by
      rw [encodeAll, encode_of_le hfits c]
      rfl
    obtain ⟨hfirst, hapart⟩ := List.pairwise_cons.mp hapart
    obtain ⟨hmoved, hrest, hin, hout⟩ :=
      ih (fun m' hm' => hlength.symm ▸ hrange m' (List.mem_cons_of_mem m hm')) hapart
    rw [hall]
    refine ⟨congrArg (m.ticked :: ·) hmoved, hrest.trans hlength, fun m' hm' => ?_,
      fun m' hm' => ?_⟩
    · obtain rfl | hm' := List.mem_cons.mp hm'
      · -- The frame just written stays, since the others lie apart from it.
        refine (hout m' hfirst).trans ?_
        exact commandBytes?_overwrite hfits frame
      · exact hin m' hm'
    · refine (hout m' fun o ho => hm' o (List.mem_cons_of_mem _ ho)).trans ?_
      refine Bytes.window?_overwrite_of_disjoint hframe ?_
      rw [frame.length_toBytes]
      exact hm' m.offsets List.mem_cons_self

/-- The codec of a leg, after a number of commands. -/
structure Seated (watchdog : UInt16) (s : Side) (m : Medulla) : Prop where
  side : m.side = s
  offsets : m.offsets = s.frameOffsets
  watchdog : m.watchdog = watchdog

variable {w : UInt16} {sides : List Side} {ms : List Medulla} {domain : Bytes}

theorem Seated.ticked {s : Side} {m : Medulla} (h : m.Seated w s) : m.ticked.Seated (w + 1) s :=
  ⟨h.side, h.offsets, congrArg (· + 1) h.watchdog⟩

theorem offsets_seated (h : List.Forall₂ (Seated w) sides ms) :
    ms.map (·.offsets) = sides.map Side.frameOffsets := by
  induction h with
  | nil => rfl
  | cons hseated _ ih => exact congrArg₂ List.cons hseated.offsets ih

/-- The command frames of different legs lie apart from each other. -/
theorem frameOffsets_apart (hnodup : sides.Nodup) :
    (sides.map Side.frameOffsets).Pairwise FrameOffsets.CommandsApart :=
  List.pairwise_map.mpr (hnodup.imp Side.outputs_apart)

/-- The command frame of a leg lies within the process data. -/
theorem output_fits_seated (h : List.Forall₂ (Seated w) sides ms)
    (hdomain : domain.length = Side.domainLength) :
    ∀ m ∈ ms, m.offsets.output + CommandFrame.length ≤ domain.length := by
  intro m hm
  obtain ⟨s, -, hseated⟩ := exists_of_forall₂ h.flip hm
  rw [hseated.offsets, hdomain]
  exact s.output_fits

/-- Every leg that has a codec gets its command frame, and the watchdogs move on. -/
theorem encodeAll_seated (h : List.Forall₂ (Seated w) sides ms) (hnodup : sides.Nodup)
    (c : Command α) (hdomain : domain.length = Side.domainLength) :
    List.Forall₂ (Seated (w + 1)) sides (encodeAll c ms domain).1 ∧
      (encodeAll c ms domain).2.length = Side.domainLength ∧
      ∀ s ∈ sides, s.commandWindow (encodeAll c ms domain).2 =
        some (CommandFrame.toBytes ⟨c.code, w + 1, c.legs.get s⟩) := by
  have hapart : (ms.map (·.offsets)).Pairwise FrameOffsets.CommandsApart := by
    rw [offsets_seated h]
    exact frameOffsets_apart hnodup
  obtain ⟨hmoved, hlength, hwritten, -⟩ :=
    encodeAll_of_apart (output_fits_seated h hdomain) hapart c
  refine ⟨?_, hlength.trans hdomain, fun s hs => ?_⟩
  · rw [hmoved]
    exact List.forall₂_map_right_iff.mpr (h.imp fun s m hseated => hseated.ticked)
  · obtain ⟨m, hm, hseated⟩ := exists_of_forall₂ h hs
    have hframe := hwritten m hm
    rw [hseated.side, hseated.watchdog] at hframe
    unfold commandBytes? at hframe
    rw [hseated.offsets] at hframe
    exact hframe

theorem decodeAll_seated (h : List.Forall₂ (Seated w) sides ms) (snap : Snapshot α) :
    List.Forall₂ (Seated w) sides (decodeAll domain ms snap).1 := by
  induction h generalizing snap with
  | nil => exact .nil
  | @cons s m sides ms hseated _ ih =>
    refine .cons ?_ (ih _)
    split
    · exact hseated
    · exact ⟨hseated.side, hseated.offsets, hseated.watchdog⟩

theorem postOp_seated (h : List.Forall₂ (Seated w) sides ms) :
    List.Forall₂ (Seated 0) sides (ms.map (·.postOp domain)) := by
  induction h with
  | nil => exact .nil
  | cons hseated _ ih => exact .cons ⟨hseated.side, hseated.offsets, rfl⟩ ih

end Medulla

/-! ## The slaves -/

/-- The slave of a leg, ready to be activated, after a number of updates of its state. -/
structure SimSlave.Seated (counter : UInt16) (s : Side) (slave : SimSlave) : Prop where
  side : slave.side = s
  offsets : slave.offsets = some s.frameOffsets
  clocked : slave.clocked = true
  counter : slave.counter = counter

theorem SimSlave.Seated.updated {counter : UInt16} {s : Side} {slave : SimSlave}
    (h : slave.Seated counter s) : slave.updated.Seated (counter + 1) s :=
  ⟨h.side, h.offsets, h.clocked, congrArg (· + 1) h.counter⟩

namespace SimMaster

variable [Scalar α] {m : SimMaster α} {sides : List Side} {slaves : List SimSlave}
  {domain : Bytes} {read : Side → CommandFrame α} {counter : UInt16}

/-- Slaves whose frames have their places and whose clocks are turned on are ready. -/
theorem all_ready (h : List.Forall₂ (SimSlave.Seated counter) sides slaves) :
    slaves.all SimSlave.ready = true := by
  induction h with
  | nil => rfl
  | @cons s slave sides slaves hseated _ ih =>
    have hready : SimSlave.ready slave = true := by
      unfold SimSlave.ready
      rw [hseated.offsets, hseated.clocked]
      rfl
    rw [List.all_cons, hready, ih]
    rfl

/-- The rig when some legs, one after the other, have read their commands. -/
def serveAll (m : SimMaster α) (read : Side → CommandFrame α) (sides : List Side)
    (rig : SimRig α) : SimRig α :=
  sides.foldl (fun rig s => m.serve s (read s) rig) rig

omit [Transmit α] in
/-- What a leg reports does not change when other legs move. -/
theorem frame_serveAll {s : Side} (h : s ∉ sides) (rig : SimRig α) :
    (m.serveAll read sides rig).frame s counter = rig.frame s counter := by
  induction sides generalizing rig with
  | nil => rfl
  | cons t sides ih =>
    refine (ih (List.not_mem_of_not_mem_cons h) (m.serve t (read t) rig)).trans ?_
    have hleg : (m.serve t (read t) rig).snapshot.legs.get s = rig.snapshot.legs.get s :=
      Sided.get_set_of_ne _ (List.ne_of_not_mem_cons h) _
    unfold SimRig.frame
    rw [hleg]
    rfl

/-- A slave reads its command from the frame in flight and writes the state that its leg has then. -/
theorem exchangeOne_seated {s : Side} {slave : SimSlave} (h : slave.Seated counter s)
    (hread : (s.commandWindow m.inFlight).bind CommandFrame.ofBytes? = some (read s))
    (rig : SimRig α) (hdomain : domain.length = Side.domainLength) :
    m.exchangeOne slave rig domain =
      some (slave.updated, m.serve s (read s) rig, Bytes.overwrite s.frameOffsets.input
        ((m.serve s (read s) rig).frame s (counter + 1)).toBytes domain) := by
  obtain ⟨rfl, hoffsets, -, rfl⟩ := h
  obtain ⟨frame, hframe, hc⟩ := Option.bind_eq_some_iff.mp hread
  have hfits : slave.side.frameOffsets.input + StateFrame.length ≤ domain.length := by
    rw [hdomain]
    exact slave.side.input_fits
  have hwindow : Bytes.window? slave.side.frameOffsets.output CommandFrame.length m.inFlight =
      some frame := hframe
  unfold exchangeOne
  simp only [hoffsets, hwindow, hc, Option.bind_eq_bind, Option.bind_some]
  exact if_pos hfits

/-- Every slave is updated, every leg reads its command and moves, and its state then stands in the
process data. The commands and the states of the other legs stay where they are. -/
theorem exchangeAll_seated (h : List.Forall₂ (SimSlave.Seated counter) sides slaves)
    (hnodup : sides.Nodup)
    (hread : ∀ s : Side, (s.commandWindow m.inFlight).bind CommandFrame.ofBytes? = some (read s))
    (rig : SimRig α) (hdomain : domain.length = Side.domainLength) :
    ∃ domain', m.exchangeAll slaves rig domain =
        some (slaves.map SimSlave.updated, m.serveAll read sides rig, domain') ∧
      domain'.length = Side.domainLength ∧
      (∀ s : Side, s.commandWindow domain' = s.commandWindow domain) ∧
      (∀ s ∈ sides, s.stateWindow domain' =
        some ((m.serveAll read sides rig).frame s (counter + 1)).toBytes) ∧
      ∀ s ∉ sides, s.stateWindow domain' = s.stateWindow domain := by
  -- All legs read from the frame in flight, which no slave writes to.
  induction h generalizing rig domain with
  | nil =>
    exact ⟨domain, rfl, hdomain, fun _ => rfl, fun s hs => absurd hs List.not_mem_nil,
      fun _ _ => rfl⟩
  | @cons s slave sides slaves hseated _ ih =>
    obtain ⟨hs, hnodup⟩ := List.nodup_cons.mp hnodup
    have hone := exchangeOne_seated hseated (hread s) rig hdomain
    have hframe := ((m.serve s (read s) rig).frame s (counter + 1)).length_toBytes
    have hfits : s.frameOffsets.input +
        ((m.serve s (read s) rig).frame s (counter + 1)).toBytes.length ≤ domain.length := by
      rw [hframe, hdomain]
      exact s.input_fits
    obtain ⟨domain', hall, hlength, hcommands, hin, hout⟩ :=
      ih hnodup (m.serve s (read s) rig) ((Bytes.length_overwrite hfits).trans hdomain)
    refine ⟨domain', ?_, hlength, fun t => (hcommands t).trans ?_, fun t ht => ?_, fun t ht => ?_⟩
    · rw [exchangeAll, hone]
      simp only [Option.bind_eq_bind, Option.bind_some, hall]
      rfl
    · exact Side.commandWindow_overwrite_state t s hdomain hframe
    · -- The state just written stays true: its leg has no second slave that would move it.
      by_cases hts : t = s
      · subst hts
        rw [hout t hs, t.stateWindow_overwrite_self hdomain hframe]
        exact congrArg (fun f => some (StateFrame.toBytes f)) (frame_serveAll hs _).symm
      · exact hin t ((List.mem_cons.mp ht).resolve_left hts)
    · rw [hout t (List.not_mem_of_not_mem_cons ht)]
      exact Side.stateWindow_overwrite_other (List.ne_of_not_mem_cons ht) hdomain hframe

/-- An exchange says nothing of how far the slaves have come up, and leaves the plant as it is. -/
theorem exchange_keeps (m : SimMaster α) :
    m.exchange.params = m.params ∧ m.exchange.period = m.period ∧
      m.exchange.numFrames = m.numFrames ∧ m.exchange.active = m.active := by
  unfold SimMaster.exchange
  split
  · exact ⟨rfl, rfl, rfl, rfl⟩
  · split
    · exact ⟨rfl, rfl, rfl, rfl⟩
    · exact ⟨rfl, rfl, rfl, rfl⟩

/-- In an exchange every leg reads its own command and reports the state that it has afterwards. Nothing
is written over the commands. -/
theorem exchange_seated
    (h : List.Forall₂ (SimSlave.Seated counter) [Side.left, Side.right] m.slaves)
    (hread : ∀ s : Side, (s.commandWindow m.inFlight).bind CommandFrame.ofBytes? = some (read s))
    (hd : m.domain = some domain) (hdomain : domain.length = Side.domainLength) :
    ∃ domain', m.exchange = { m with
        slaves := m.slaves.map SimSlave.updated
        rig := m.serveAll read [.left, .right] m.rig
        domain := some domain' } ∧
      List.Forall₂ (SimSlave.Seated (counter + 1)) [Side.left, Side.right]
        (m.slaves.map SimSlave.updated) ∧
      domain'.length = Side.domainLength ∧
      (∀ s : Side, s.commandWindow domain' = s.commandWindow domain) ∧
      ∀ s : Side, s.stateWindow domain' = some (m.exchange.rig.frame s (counter + 1)).toBytes := by
  obtain ⟨domain', hall, hlength, hcommands, hstates, -⟩ :=
    exchangeAll_seated h (by decide) hread m.rig hdomain
  have hexchange : m.exchange = { m with
      slaves := m.slaves.map SimSlave.updated
      rig := m.serveAll read [.left, .right] m.rig
      domain := some domain' } := by
    unfold SimMaster.exchange
    simp only [hd, hall]
  refine ⟨domain', hexchange, ?_, hlength, hcommands, fun s => ?_⟩
  · exact List.forall₂_map_right_iff.mpr (h.imp fun s slave hseated => hseated.updated)
  · rw [hexchange]
    exact hstates s (by cases s <;> decide)

end SimMaster

end BoomWalker
