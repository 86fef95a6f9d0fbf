/-
The watchdogs that go out with the commands.

Main statement: over any master that gives the legs command frames within the process data and apart
from each other, the frames of both legs carry the same watchdog in every submission, and two
submissions one after the other carry different ones. There is one exception. When the slaves have
become operational the codecs are set up and count from zero again, so the next submission carries 1;
and so did the one before the set-up, if the submissions that had been made before it, since the
previous set-up, are a multiple of 2 ^ 16.

What is seen of a run is kept in a log of submissions and set-ups (`Logged`). The invariant
(`Watched`) says that the codecs count the submissions since the latest set-up, and that each
submission in the log carries what the codecs counted then.
-/
import BoomWalker.Proofs.Fieldbus.Delivery

namespace BoomWalker

variable {M α : Type} [Master M] [Transmit α]

/-! ## What is written -/

/-- The watchdog that the slave finds in its command frame. -/
def Medulla.watchdog? (α : Type) [Transmit α] (m : Medulla) (domain : Bytes) : Option UInt16 :=
  ((m.commandBytes? domain).bind CommandFrame.ofBytes?).map fun f : CommandFrame α => f.watchdog

namespace Link

/-- The watchdogs that a submission puts into the command frames of the legs. -/
def watchdogs (l : Link M) (cmd : Command α) : List (Option UInt16) :=
  let domain := (Medulla.encodeAll cmd l.slaves (Master.domain l.master)).2
  l.slaves.map fun m => m.watchdog? α domain

/-- The command frames of the legs lie within the process data. -/
def CommandsWithin (l : Link M) : Prop :=
  ∀ m ∈ l.slaves, m.offsets.output + CommandFrame.length ≤ (Master.domain l.master).length

/-- Every codec writes its commands to its place, and has counted `n` of them. -/
structure Counts (places : List FrameOffsets) (n : Nat) (l : Link M) : Prop where
  places : l.slaves.map (·.offsets) = places
  counted : ∀ m ∈ l.slaves, m.watchdog = UInt16.ofNat n

variable {places : List FrameOffsets} {n : Nat} {l : Link M}

/-- A submission puts the next watchdog into the frames of all legs. -/
theorem Counts.submit (h : l.Counts places n)
    (hapart : places.Pairwise FrameOffsets.CommandsApart) (hwithin : l.CommandsWithin)
    (cmd : Command α) :
    l.watchdogs cmd = List.replicate places.length (some (UInt16.ofNat (n + 1))) ∧
      (l.submit cmd).Counts places (n + 1) := by
  obtain ⟨rfl, hcounted⟩ := h
  obtain ⟨hmoved, -, hwritten, -⟩ := Medulla.encodeAll_of_apart hwithin hapart cmd
  -- All codecs have counted alike, so the next watchdog is the same for all.
  have hnext : ∀ m ∈ l.slaves, m.watchdog + 1 = UInt16.ofNat (n + 1) := by
    intro m hm
    rw [hcounted m hm, UInt16.ofNat_add]
    rfl
  refine ⟨?_, ?_, fun m hm => ?_⟩
  · rw [List.length_map]
    refine List.map_eq_replicate_iff.mpr fun m hm => ?_
    unfold Medulla.watchdog?
    rw [hwritten m hm, Option.bind_some, CommandFrame.ofBytes?_toBytes, hnext m hm]
    rfl
  · show (Medulla.encodeAll cmd l.slaves (Master.domain l.master)).1.map _ = _
    rw [hmoved, List.map_map]
    rfl
  · have hticked : m ∈ l.slaves.map Medulla.ticked := hmoved ▸ hm
    obtain ⟨m', hm', rfl⟩ := List.mem_map.mp hticked
    exact hnext m' hm'

end Link

/-- Reading states leaves the places and the watchdogs alone. -/
theorem Medulla.decodeAll_keeps (domain : Bytes) (ms : List Medulla) (s : Snapshot α) :
    (decodeAll domain ms s).1.map (fun m => (m.offsets, m.watchdog)) =
      ms.map fun m => (m.offsets, m.watchdog) := by
  induction ms generalizing s with
  | nil => rfl
  | cons m ms ih =>
    have hone : ((m.decode domain s).1.offsets, (m.decode domain s).1.watchdog) =
        (m.offsets, m.watchdog) := by
      unfold decode
      split
      · rfl
      · rfl
    exact congrArg₂ List.cons hone (ih _)

/-! ## The log -/

/-- What is seen of the commands and of the link. -/
inductive Sign where
  /-- A command was submitted, with these watchdogs in the frames of the legs. -/
  | submitted (watchdogs : List (Option UInt16))
  /-- The slaves have become operational, and the codecs were set up. -/
  | setUp

namespace Sign

/-- Submissions since the latest set-up. -/
def sinceSetUp (log : List Sign) : Nat :=
  log.foldl (fun n sign => match sign with | submitted _ => n + 1 | setUp => 0) 0

theorem sinceSetUp_submitted (log : List Sign) (v : List (Option UInt16)) :
    sinceSetUp (log ++ [submitted v]) = sinceSetUp log + 1 := by
  unfold sinceSetUp
  rw [List.foldl_append]
  rfl

theorem sinceSetUp_setUp (log : List Sign) : sinceSetUp (log ++ [setUp]) = 0 := by
  unfold sinceSetUp
  rw [List.foldl_append]
  rfl

/-- After one set-up or more nothing has been submitted since. -/
theorem sinceSetUp_setUps {gap : List Sign} (hgap : ∀ sign ∈ gap, sign = setUp) (hne : gap ≠ [])
    (log : List Sign) : sinceSetUp (log ++ gap) = 0 := by
  rw [← List.dropLast_append_getLast hne, ← List.append_assoc, hgap _ (List.getLast_mem hne)]
  exact sinceSetUp_setUp _

end Sign

namespace Interleaved

/-- What is seen of a piece. -/
def signs (i : Interleaved M α) : Region α → List Sign
  | .submit cmd => [.submitted (i.connection.link.watchdogs cmd)]
  | .receive =>
    if i.connection.receivePhase.2.linkState = .op ∧ i.connection.link.inOp = false then [.setUp]
    else []
  | _ => []

/-- A sequence of pieces, with what is seen of it. -/
inductive Logged (i₀ : Interleaved M α) : List Sign → Interleaved M α → Prop
  | nil : Logged i₀ [] i₀
  | concat {log : List Sign} {r : Region α} {i i' : Interleaved M α} :
      Logged i₀ log i → Step i r i' → Logged i₀ (log ++ i.signs r) i'

variable {i₀ i i' : Interleaved M α} {log : List Sign} {r : Region α} {c : Connection M α}

theorem signs_setUp (hop : c.receivePhase.2.linkState = .op) (hdown : c.link.inOp = false) :
    signs ⟨c, true⟩ .receive = [.setUp] :=
  if_pos ⟨hop, hdown⟩

theorem Logged.steps (h : Logged i₀ log i) : ∃ rs, Steps i₀ rs i := by
  induction h with
  | nil => exact ⟨[], .nil⟩
  | concat _ hstep ih =>
    obtain ⟨rs, hsteps⟩ := ih
    exact ⟨_, hsteps.concat hstep⟩

/-- The codecs have counted the submissions since the latest set-up, and every submission in the log
carries what was counted then. -/
structure Watched (places : List FrameOffsets) (log : List Sign) (i : Interleaved M α) : Prop where
  counts : i.connection.link.Counts places (Sign.sinceSetUp log)
  seen : ∀ before v, before ++ [.submitted v] <+: log →
    v = List.replicate places.length (some (UInt16.ofNat (Sign.sinceSetUp before + 1)))

variable {places : List FrameOffsets}

/-- The slaves come up: the codecs count from zero again. Otherwise receiving a frame does not
concern the watchdogs. -/
theorem Watched.receive (h : Watched places log ⟨c, true⟩) :
    Watched places (log ++ signs ⟨c, true⟩ .receive) ⟨c.receivePhase.2, false⟩ := by
  obtain ⟨hreceived, -, -, -⟩ := c.receivePhase_received
  obtain ⟨hplaces, hcounted⟩ := h.counts
  by_cases hop : c.receivePhase.2.linkState = .op
  · by_cases hup : c.link.inOp = true
    · have hsigns : signs ⟨c, true⟩ .receive = [] :=
        if_neg fun hboth => Bool.false_ne_true (hboth.2.symm.trans hup)
      obtain ⟨-, hdecoded⟩ := hreceived.decoded hop hup
      have hslaves : c.receivePhase.2.link.slaves = _ := congrArg Prod.fst hdecoded
      have hkept := Medulla.decodeAll_keeps (Master.domain c.receivePhase.2.link.master)
        c.link.slaves c.snapshot
      rw [← hslaves] at hkept
      rw [hsigns, List.append_nil]
      refine ⟨⟨?_, fun m hm => ?_⟩, h.seen⟩
      · have hfst := congrArg (List.map Prod.fst) hkept
        rw [List.map_map, List.map_map] at hfst
        exact hfst.trans hplaces
      · have hmem : (m.offsets, m.watchdog) ∈ c.link.slaves.map fun m =>
            (m.offsets, m.watchdog) := hkept ▸ List.mem_map_of_mem hm
        obtain ⟨m', hm', heq⟩ := List.mem_map.mp hmem
        exact (congrArg Prod.snd heq).symm.trans (hcounted m' hm')
    · obtain ⟨-, -, hpost⟩ := hreceived.setUp hop hup
      rw [signs_setUp hop (Bool.eq_false_iff.mpr hup)]
      refine ⟨⟨?_, fun m hm => ?_⟩, fun before v hbefore => ?_⟩
      · show c.receivePhase.2.link.slaves.map _ = places
        rw [hpost, List.map_map]
        exact hplaces
      · have hmem : m ∈ c.link.slaves.map _ := hpost ▸ hm
        obtain ⟨m', -, rfl⟩ := List.mem_map.mp hmem
        rw [Sign.sinceSetUp_setUp]
        rfl
      · obtain heq | hbefore := List.prefix_concat_iff.mp hbefore
        · cases (List.append_inj' heq rfl).2
        · exact h.seen before v hbefore
  · have hsigns : signs ⟨c, true⟩ .receive = [] := if_neg fun hboth => hop hboth.1
    obtain ⟨-, -, hsame⟩ := hreceived.withheld hop
    rw [hsigns, List.append_nil]
    refine ⟨⟨?_, ?_⟩, h.seen⟩
    · exact (congrArg _ hsame).trans hplaces
    · intro m hm
      exact hcounted m (hsame ▸ hm)

theorem Watched.submit {waiting : Bool} (h : Watched places log ⟨c, waiting⟩)
    (hapart : places.Pairwise FrameOffsets.CommandsApart)
    (hwithin : c.link.CommandsWithin) (cmd : Command α) :
    Watched places (log ++ signs ⟨c, waiting⟩ (.submit cmd)) ⟨c.submit cmd, waiting⟩ := by
  have hsigns : signs ⟨c, waiting⟩ (.submit cmd) = [.submitted (c.link.watchdogs cmd)] := rfl
  obtain ⟨hwatchdogs, hcounts⟩ := h.counts.submit hapart hwithin cmd
  rw [hsigns]
  refine ⟨?_, fun before v hbefore => ?_⟩
  · rw [Sign.sinceSetUp_submitted]
    exact hcounts
  · obtain heq | hbefore := List.prefix_concat_iff.mp hbefore
    · -- The latest submission carries what the codecs have counted so far, and one more.
      obtain ⟨rfl, hlast⟩ := List.append_inj' heq rfl
      cases hlast
      exact hwatchdogs
    · exact h.seen before v hbefore

theorem Watched.step (h : Watched places log i) (hapart : places.Pairwise FrameOffsets.CommandsApart)
    (hwithin : i.connection.link.CommandsWithin) (hstep : Step i r i') :
    Watched places (log ++ i.signs r) i' := by
  cases hstep with
  | receive c => exact h.receive
  | submit c waiting cmd => exact h.submit hapart hwithin cmd
  | stop c =>
    refine (List.append_nil log).symm ▸ ?_
    exact ⟨h.counts, h.seen⟩
  | send c now hrunning =>
    refine (List.append_nil log).symm ▸ ?_
    exact ⟨⟨h.counts.places, h.counts.counted⟩, h.seen⟩
  | start c =>
    refine (List.append_nil log).symm ▸ ?_
    obtain ⟨e, m, -, hstarted⟩ | ⟨m, -, hstarted⟩ := c.start_cases
    all_goals
      rw [hstarted]
      exact ⟨⟨h.counts.places, h.counts.counted⟩, h.seen⟩

theorem Logged.watched (hlogged : Logged i₀ log i) (hstart : Watched places [] i₀)
    (hapart : places.Pairwise FrameOffsets.CommandsApart)
    (hwithin : ∀ log i, Logged i₀ log i → i.connection.link.CommandsWithin) :
    Watched places log i := by
  induction hlogged with
  | nil => exact hstart
  | concat hbefore hstep ih => exact ih.step hapart (hwithin _ _ hbefore) hstep

/-! ## Runs -/

omit [Transmit α] in
/-- A configured connection has a place for the frames of each of two legs. -/
theorem configureSlaves_pair {p : FieldbusParams α} (hcheck : p.check = .ok ()) {m m' : M}
    {ids : List Nat} {offsets : List FrameOffsets}
    (h : (Connection.configureSlaves p).run m = (.ok (ids, offsets), m')) :
    ∃ o₀ o₁, offsets = [o₀, o₁] := by
  obtain ⟨a, b, hcodes⟩ := FieldbusParams.productCodes_of_check hcheck
  unfold Connection.configureSlaves at h
  rw [hcodes] at h
  obtain ⟨_, m₁, -, h⟩ := Setup.bind_ok h
  obtain ⟨ids', m₂, hids, h⟩ := Setup.bind_ok h
  obtain ⟨id₀, id₁, m₃, -, -, rfl⟩ := Setup.mapM_pair_ok hids
  obtain ⟨offsets', m₄, hoffsets, h⟩ := Setup.bind_ok h
  cases h
  obtain ⟨o₀, o₁, m₅, -, -, rfl⟩ := Setup.mapM_pair_ok hoffsets
  exact ⟨o₀, o₁, rfl⟩

variable [Scalar α]

omit [Transmit α] in
theorem watched_configured {p : FieldbusParams α} {now : Nat} {m : M} {c : Connection M α}
    (hconfigured : (Connection.configure p now m).1 = .ok c) :
    ∃ o₀ o₁, Watched [o₀, o₁] [] ⟨c, false⟩ := by
  obtain ⟨hcheck, ids, offsets, m₁, shift, m₂, hslaves, -, rfl⟩ :=
    Connection.configure_ok hconfigured
  obtain ⟨o₀, o₁, rfl⟩ := configureSlaves_pair hcheck hslaves
  refine ⟨o₀, o₁, ⟨rfl, ?_⟩, fun before v hbefore => ?_⟩
  · intro m hm
    have hmem : m ∈ [Medulla.new .left true o₀, Medulla.new .right false o₁] := hm
    simp only [List.mem_cons, List.not_mem_nil, or_false] at hmem
    obtain rfl | rfl := hmem
    · rfl
    · rfl
  · obtain ⟨-, hnone⟩ := List.append_eq_nil_iff.mp (List.prefix_nil.mp hbefore)
    cases hnone

/-- In every submission the frames of both legs carry the same watchdog. Two submissions one after
the other carry different ones, unless the codecs were set up between them and the submissions made
before the first of them, since the previous set-up, are a multiple of 2 ^ 16. Then both carry 1. -/
theorem logged_watchdogs {p : FieldbusParams α} {now : Nat} {m : M} {c : Connection M α}
    (hconfigured : (Connection.configure p now m).1 = .ok c)
    (hapart : (c.link.slaves.map (·.offsets)).Pairwise FrameOffsets.CommandsApart)
    (hwithin : ∀ log i, Logged ⟨c, false⟩ log i → i.connection.link.CommandsWithin)
    (hlogged : Logged ⟨c, false⟩ log i) :
    (∀ before v after, log = before ++ .submitted v :: after → ∃ a, v = [some a, some a]) ∧
      ∀ before v gap w after,
        log = before ++ .submitted v :: (gap ++ .submitted w :: after) →
        (∀ sign ∈ gap, sign = .setUp) →
          ∃ a b, v = [some a, some a] ∧ w = [some b, some b] ∧
            (a = b ↔ gap ≠ [] ∧ Sign.sinceSetUp before % 2 ^ 16 = 0) ∧ (a = b → a = 1) := by
  obtain ⟨o₀, o₁, hstart⟩ := watched_configured hconfigured
  obtain ⟨-, hseen⟩ := hlogged.watched hstart (hstart.counts.places ▸ hapart) hwithin
  refine ⟨fun before v after hlog => ⟨_, hseen before v ⟨after, ?_⟩⟩, ?_⟩
  · rw [hlog, List.append_assoc]
    rfl
  intro before v gap w after hlog hgap
  have hv := hseen before v ⟨gap ++ .submitted w :: after, by
    rw [hlog, List.append_assoc]
    rfl⟩
  have hw := hseen (before ++ .submitted v :: gap) w ⟨after, by
    simp only [hlog, List.append_assoc, List.cons_append, List.nil_append]⟩
  refine ⟨_, _, hv, hw, ?_⟩
  by_cases hnone : gap = []
  · -- Nothing was set up, so the second carries the next watchdog.
    subst hnone
    have hne : UInt16.ofNat (Sign.sinceSetUp before + 1) ≠
        UInt16.ofNat (Sign.sinceSetUp (before ++ [.submitted v]) + 1) := by
      rw [Sign.sinceSetUp_submitted, ne_eq, ← UInt16.toNat_inj, UInt16.toNat_ofNat',
        UInt16.toNat_ofNat']
      omega
    exact ⟨iff_of_false hne fun hboth => hboth.1 rfl, fun heq => absurd heq hne⟩
  · -- The codecs count from zero again, so the second carries 1.
    have hafter : Sign.sinceSetUp (before ++ .submitted v :: gap) = 0 := by
      have hassoc : before ++ .submitted v :: gap = (before ++ [.submitted v]) ++ gap := by
        rw [List.append_assoc]
        rfl
      rw [hassoc]
      exact Sign.sinceSetUp_setUps hgap hnone _
    rw [hafter]
    refine ⟨Iff.trans ?_ (and_iff_right hnone).symm, fun heq => heq.trans rfl⟩
    rw [← UInt16.toNat_inj, UInt16.toNat_ofNat', UInt16.toNat_ofNat']
    omega

/-- The simulated bus gives the legs such command frames. -/
theorem sim_commands {index : Nat} {sim : SimParams α} {period : α} {m : SimMaster α}
    (hrequest : SimMaster.request index sim period = .ok m) {p : FieldbusParams α} {now : Nat}
    {c : Connection (SimMaster α) α} (hconfigured : (Connection.configure p now m).1 = .ok c) :
    (c.link.slaves.map (·.offsets)).Pairwise FrameOffsets.CommandsApart ∧
      ∀ log i, Logged ⟨c, false⟩ log i → i.connection.link.CommandsWithin := by
  refine ⟨?_, fun log i hlogged => ?_⟩
  · obtain ⟨watchdog, hcodecs⟩ := (synced_configured hrequest hconfigured).codecs
    have hplaces := Medulla.offsets_seated hcodecs
    exact hplaces.symm ▸ Medulla.frameOffsets_apart (by decide)
  · obtain ⟨rs, hsteps⟩ := hlogged.steps
    have hsynced := steps_synced hrequest hconfigured hsteps
    obtain ⟨watchdog, hcodecs⟩ := hsynced.codecs
    obtain ⟨d, hd, hholds⟩ := hsynced.master.domain
    have hdomain : Master.domain i.connection.link.master = d := by
      show i.connection.link.master.domain.getD [] = d
      rw [hd]
      rfl
    unfold Link.CommandsWithin
    rw [hdomain]
    exact Medulla.output_fits_seated hcodecs hholds.length

set_option maxRecDepth 4000 in
/-- A submission before the slaves of a bus come up, and the next one after it. -/
theorem promptBus_comes_up :
    ∃ v w i, Logged ⟨promptConnection, false⟩ [.submitted v, .setUp, .submitted w] i := by
  have hop : promptCycle.receivePhase.2.linkState = .op := by rfl
  have hsubmitted : Logged ⟨promptConnection, false⟩ [.submitted _] ⟨promptCycle, true⟩ :=
    ((Logged.nil.concat (.start promptConnection)).concat (.submit _ false promptCommand)).concat
      (.send _ 1 (by rfl))
  have hsetUp := hsubmitted.concat (.receive promptCycle)
  rw [signs_setUp hop (by rfl)] at hsetUp
  exact ⟨_, _, _, hsetUp.concat (.submit _ false promptCommand)⟩

/-- The two first submissions on a bus carry different watchdogs if the slaves have not come up
between them, and both carry 1 if they have. -/
theorem promptBus_logged_watchdogs :
    (∃ a b i, Logged ⟨promptConnection, false⟩
      [.submitted [some a, some a], .submitted [some b, some b]] i ∧ a ≠ b) ∧
    ∃ i, Logged ⟨promptConnection, false⟩
      [.submitted [some 1, some 1], .setUp, .submitted [some 1, some 1]] i := by
  obtain ⟨hapart, hwithin⟩ := sim_commands promptBus_requested promptBus_configured
  constructor
  · have hlogged : Logged ⟨promptConnection, false⟩ [.submitted _, .submitted _] _ :=
      (Logged.nil.concat (.submit _ false promptCommand)).concat (.submit _ false promptCommand)
    obtain ⟨-, hpairs⟩ := logged_watchdogs promptBus_configured hapart hwithin hlogged
    obtain ⟨a, b, hv, hw, hiff, -⟩ :=
      hpairs [] _ [] _ [] rfl fun _ hsign => absurd hsign List.not_mem_nil
    rw [hv, hw] at hlogged
    exact ⟨a, b, _, hlogged, fun heq => (hiff.mp heq).1 rfl⟩
  · obtain ⟨v, w, i, hlogged⟩ := promptBus_comes_up
    obtain ⟨-, hpairs⟩ := logged_watchdogs promptBus_configured hapart hwithin hlogged
    obtain ⟨a, b, rfl, rfl, hiff, hone⟩ :=
      hpairs [] v [.setUp] w [] rfl fun _ hsign => List.mem_singleton.mp hsign
    -- Nothing was submitted before the first one, which is a multiple of 2 ^ 16.
    have hsame : a = b := hiff.mpr ⟨List.cons_ne_nil _ _, rfl⟩
    obtain rfl := hone hsame
    obtain rfl := hsame
    exact ⟨i, hlogged⟩

/-- One submission before the slaves come up, and the next one after it: both carry 1. -/
theorem promptBus_repeats_watchdog :
    (promptConnection.link.slaves.map (·.offsets)).Pairwise FrameOffsets.CommandsApart ∧
      (∀ log i, Logged ⟨promptConnection, false⟩ log i → i.connection.link.CommandsWithin) ∧
      ∃ i, Logged ⟨promptConnection, false⟩
        [.submitted [some 1, some 1], .setUp, .submitted [some 1, some 1]] i := by
  obtain ⟨hapart, hwithin⟩ := sim_commands promptBus_requested promptBus_configured
  obtain ⟨v, w, i, hlogged⟩ := promptBus_comes_up
  obtain ⟨o₀, o₁, hstart⟩ := watched_configured promptBus_configured
  obtain ⟨-, hseen⟩ := hlogged.watched hstart (hstart.counts.places ▸ hapart) hwithin
  have hv := hseen [] v ⟨_, rfl⟩
  have hw := hseen [.submitted v, .setUp] w ⟨[], rfl⟩
  rw [hv, hw] at hlogged
  exact ⟨hapart, hwithin, i, hlogged⟩

end Interleaved

end BoomWalker
