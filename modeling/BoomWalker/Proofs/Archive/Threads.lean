/-
The two threads of an archive.

The owner of an archive passes its records to a writer, over a channel that has no bound. A close
takes the owner's end of the channel away and waits for the writer. The writer takes records off the
channel until there are none and none can come, and flushes then: before that, some of what it has
written may be in its buffer only. The file takes all that is passed to it. `Archive.close` does all
this in one piece; here the threads take turns, step by step.

Main statement: however they take turns, the owner gets the answers that it gets from an archive
whose steps are done in one piece (`Steps.run`). A close does its work where it returns.
-/
import BoomWalker.Archive.Basic
import BoomWalker.Fieldbus.Bytes

namespace BoomWalker.Archive

/-! ## Text -/

/-- The text of some lines. -/
def lineText (lines : List Row) : String := String.join (lines.map fun row => row.text ++ "\n")

/-- The bytes of a text in a file. -/
def utf8 (s : String) : Bytes := s.toByteArray.data.toList

@[simp] theorem utf8_append (s s' : String) : utf8 (s ++ s') = utf8 s ++ utf8 s' := by
  unfold utf8
  rw [String.toByteArray_append, ByteArray.data_append, Array.toList_append]

@[simp] theorem lineText_append (lines lines' : List Row) :
    lineText (lines ++ lines') = lineText lines ++ lineText lines' := by
  unfold lineText
  rw [List.map_append, String.join_append]

/-! ## The owner and the writer -/

/-- How an owner comes to an end with its archive. Nothing is asked of a dropped archive. -/
inductive Finish where
  | close
  | drop

/-- What an owner asks of its archive. A drop closes the archive first. -/
inductive Call (ρ : Type) where
  | serialise (r : ρ)
  | finish (f : Finish)

/-- Where the owner is. It has an end of the channel, and the writer's outcome to collect, while it
is sending; and neither afterwards. -/
inductive Owner where
  | sending
  /-- A close waits for the writer. -/
  | waiting (f : Finish)
  | closed
  | gone

/-- Has the owner collected the writer's outcome? -/
def Owner.collected : Owner → Bool
  | sending | waiting _ => false
  | closed | gone => true

/-- The owner after a close or a drop. -/
def Finish.owner : Finish → Owner
  | close => .closed
  | drop => .gone

theorem Finish.owner_collected (f : Finish) : f.owner.collected = true := by cases f <;> rfl

theorem Finish.owner_ne (f : Finish) : f.owner ≠ .sending := by cases f <;> exact Owner.noConfusion

/-- Where the writer is. -/
inductive Writer (ρ : Type) where
  | receiving
  /-- A record has been taken off the channel. -/
  | holding (r : ρ)
  /-- No record can come any more. -/
  | flushing
  /-- The writer's end of the channel is gone too. -/
  | ended (failed : Bool)

/-- An owner and a writer with the channel and the file between them. -/
structure Threads (ρ : Type) where
  owner : Owner
  channel : List ρ
  writer : Writer ρ
  /-- Lines that have been written, to the buffer or to the file. -/
  lines : List Row
  buffer : Bytes
  file : Bytes

/-- What is done in one piece. -/
inductive Action (ρ : Type) where
  /-- A call returns. -/
  | answer (c : Call ρ) (a : Except ArchiveError Unit)
  /-- A call has to wait. -/
  | wait (f : Finish)
  | receive
  | leave
  | write
  | flush

variable {ρ : Type}

/-- The outcome of a writer. -/
def outcome (failed : Bool) : Except ArchiveError Unit := if failed then .error .write else .ok ()

/-- The record that the writer has taken off the channel. -/
def Writer.held : Writer ρ → List ρ
  | holding r => [r]
  | _ => []

/-- Has the writer stopped at a record? -/
def Writer.failed : Writer ρ → Bool
  | ended failed => failed
  | _ => false

/-- Has the writer left its loop? -/
def Writer.Left : Writer ρ → Prop
  | receiving | holding _ => False
  | flushing | ended _ => True

namespace Threads

/-- The threads of an archive with an empty file. -/
def start : Threads ρ := ⟨.sending, [], .receiving, [], [], []⟩

variable [Tabular ρ]

/-- One piece. A record can be sent while the writer has its end of the channel; a row may stay in
the buffer, or go to the file in part or with what was there before it. -/
inductive Step : Threads ρ → Action ρ → Threads ρ → Prop
  | send {t : Threads ρ} (r : ρ) (howner : t.owner = .sending)
      (hwriter : ∀ failed, t.writer ≠ .ended failed) :
      Step t (.answer (.serialise r) (.ok ())) { t with channel := t.channel ++ [r] }
  | refuse {t : Threads ρ} (r : ρ)
      (hended : t.owner = .closed ∨ t.owner = .sending ∧ ∃ failed, t.writer = .ended failed) :
      Step t (.answer (.serialise r) (.error .stopped)) t
  | wait {t : Threads ρ} (f : Finish) (howner : t.owner = .sending) :
      Step t (.wait f) { t with owner := .waiting f }
  | join {t : Threads ρ} {f : Finish} {failed : Bool} (howner : t.owner = .waiting f)
      (hwriter : t.writer = .ended failed) :
      Step t (.answer (.finish f) (outcome failed)) { t with owner := f.owner }
  | again {t : Threads ρ} (f : Finish) (howner : t.owner = .closed) :
      Step t (.answer (.finish f) (.ok ())) { t with owner := f.owner }
  | receive {t : Threads ρ} {r : ρ} {rs : List ρ} (hwriter : t.writer = .receiving)
      (hchannel : t.channel = r :: rs) :
      Step t .receive { t with writer := .holding r, channel := rs }
  | leave {t : Threads ρ} (hwriter : t.writer = .receiving) (hchannel : t.channel = [])
      (howner : t.owner ≠ .sending) : Step t .leave { t with writer := .flushing }
  | write {t : Threads ρ} {r : ρ} {lines : List Row} {spilled kept : Bytes}
      (hwriter : t.writer = .holding r) (hlines : append? t.lines r = some (t.lines ++ lines))
      (htext : spilled ++ kept = t.buffer ++ utf8 (lineText lines)) :
      Step t .write { t with
        writer := .receiving, lines := t.lines ++ lines, buffer := kept, file := t.file ++ spilled }
  /-- A record that does not fit may leave a part of its row behind. -/
  | fail {t : Threads ρ} {r : ρ} (part : Bytes) (hwriter : t.writer = .holding r)
      (hlines : append? t.lines r = none) :
      Step t .write { t with
        writer := .ended true, channel := [], buffer := [], file := t.file ++ t.buffer ++ part }
  | flush {t : Threads ρ} (hwriter : t.writer = .flushing) :
      Step t .flush { t with writer := .ended false, buffer := [], file := t.file ++ t.buffer }

/-- A sequence of pieces. -/
inductive Steps : Threads ρ → List (Action ρ) → Threads ρ → Prop
  | nil (t : Threads ρ) : Steps t [] t
  | cons {t t' t'' : Threads ρ} {a : Action ρ} {as : List (Action ρ)} (h : Step t a t')
      (hs : Steps t' as t'') : Steps t (a :: as) t''

variable {t t' t'' : Threads ρ} {a : Action ρ} {as bs : List (Action ρ)}

theorem Steps.split (h : Steps t (as ++ bs) t'') : ∃ t', Steps t as t' ∧ Steps t' bs t'' := by
  induction as generalizing t with
  | nil => exact ⟨t, .nil t, h⟩
  | cons a as ih =>
    obtain _ | ⟨hstep, hs⟩ := h
    obtain ⟨t', hs, hs'⟩ := ih hs
    exact ⟨t', .cons hstep hs, hs'⟩

/-- The step that answers a call, in its place of a run. -/
theorem Steps.exists_answer {c : Call ρ} {reply : Except ArchiveError Unit}
    (h : Steps t (as ++ .answer c reply :: bs) t'') :
    ∃ s s', Steps t as s ∧ Step s (.answer c reply) s' := by
  obtain ⟨s, hs, _ | ⟨hstep, -⟩⟩ := h.split
  exact ⟨s, _, hs, hstep⟩

/-! ## What the threads know of each other -/

/-- The writer leaves its loop when the channel is empty, and before its owner has gone away only if
a record does not fit. The owner collects the outcome of a writer that has ended. -/
structure Sound (t : Threads ρ) : Prop where
  drained : t.writer.Left → t.channel = []
  asked : t.writer.Left → t.owner = .sending → t.writer = .ended true
  ended : t.owner.collected = true → ∃ failed, t.writer = .ended failed

omit [Tabular ρ] in
theorem start_sound : (start : Threads ρ).Sound := ⟨False.elim, False.elim, Bool.noConfusion⟩

theorem Step.sound (h : Step t a t') (hsound : t.Sound) : t'.Sound := by
  obtain ⟨hdrained, hasked, hended⟩ := hsound
  have hwaits (h : ∀ failed, t.writer ≠ .ended failed) : t.owner.collected ≠ true := by
    intro hcollected
    obtain ⟨failed, hwriter⟩ := hended hcollected
    exact h failed hwriter
  cases h with
  | send r howner hwriter =>
    -- A writer that has left its loop under a sending owner has failed, and takes no record.
    have hloop : ¬ t.writer.Left := fun hleft => hwriter true (hasked hleft howner)
    exact ⟨fun hleft => absurd hleft hloop, hasked, hended⟩
  | refuse => exact ⟨hdrained, hasked, hended⟩
  | wait => exact ⟨hdrained, fun _ => Owner.noConfusion, Bool.noConfusion⟩
  | @join f failed _ hwriter =>
    exact ⟨hdrained, fun _ howner => absurd howner f.owner_ne, fun _ => ⟨failed, hwriter⟩⟩
  | again f howner =>
    have hcollected : t.owner.collected = true := howner ▸ rfl
    exact ⟨hdrained, fun _ howner => absurd howner f.owner_ne, fun _ => hended hcollected⟩
  | receive hwriter =>
    exact ⟨False.elim, False.elim, fun hcollected => absurd hcollected (hwaits (by simp [hwriter]))⟩
  | leave hwriter hchannel howner =>
    exact ⟨fun _ => hchannel, fun _ hsending => absurd hsending howner,
      fun hcollected => absurd hcollected (hwaits (by simp [hwriter]))⟩
  | write hwriter =>
    exact ⟨False.elim, False.elim, fun hcollected => absurd hcollected (hwaits (by simp [hwriter]))⟩
  | fail => exact ⟨fun _ => rfl, fun _ _ => rfl, fun _ => ⟨true, rfl⟩⟩
  | flush hwriter =>
    have hleft : t.writer.Left := hwriter ▸ trivial
    refine ⟨fun _ => hdrained hleft, fun _ howner => ?_, fun _ => ⟨false, rfl⟩⟩
    cases hwriter.symm.trans (hasked hleft howner)

theorem Steps.sound (h : Steps t as t') (hsound : t.Sound) : t'.Sound := by
  induction h with
  | nil => exact hsound
  | cons hstep _ ih => exact ih (hstep.sound hsound)

/-! ## The archive behind the threads -/

/-- The archive as its owner can tell. A close is done when it returns. -/
def archive (t : Threads ρ) : Archive ρ where
  queue := t.writer.held ++ t.channel
  file := t.lines
  accepting := !t.owner.collected
  failed := t.writer.failed
  collected := t.owner.collected

end Threads

/-- The event of an archive that an action amounts to, with the answer to its owner. -/
def Action.event? : Action ρ → Option (Event ρ × Option (Except ArchiveError Unit))
  | answer (.serialise r) a => some (.serialise r, some a)
  | answer (.finish _) a => some (.close, some a)
  | write => some (.write, none)
  | wait _ | receive | leave | flush => none

namespace Threads

variable [Tabular ρ] {t t' t'' : Threads ρ} {a : Action ρ} {as bs : List (Action ρ)}

/-- A close hands out the outcome of a writer whose records have all been written. -/
theorem close_drained {a : Archive ρ} (h : a.queue = []) :
    a.close = (if a.failed && !a.collected then .error .write else .ok (),
      { a with accepting := false, collected := true }) := by
  simp [close, h, writeAll]

/-- A step does to the archive what its event does, and nothing if it has none. -/
theorem Step.archive (h : Step t a t') (hsound : t.Sound) :
    a.event?.elim (t'.archive = t.archive) fun (e, reply) =>
      t.archive.step e = (t'.archive, reply) := by
  obtain ⟨hdrained, hasked, hended⟩ := hsound
  have hempty {failed : Bool} (hwriter : t.writer = .ended failed) : t.archive.queue = [] := by
    simp [Threads.archive, hwriter, Writer.held, hdrained (hwriter ▸ trivial)]
  cases h with
  | send r howner hwriter =>
    have hgoing : t.writer.failed = false := by
      cases hw : t.writer with
      | ended failed => exact absurd hw (hwriter failed)
      | receiving | holding | flushing => rfl
    simp [Action.event?, Archive.step, Archive.serialise, Threads.archive, howner, Owner.collected,
      hgoing]
  | refuse r hrefused =>
    have hstopped : (t.archive.accepting && !t.archive.failed) = false := by
      obtain howner | ⟨howner, failed, hwriter⟩ := hrefused
      · simp [Threads.archive, howner, Owner.collected]
      · simp [Threads.archive, hasked (hwriter ▸ trivial) howner, Writer.failed]
    simp [Action.event?, Archive.step, Archive.serialise, hstopped]
  | wait f howner => simp [Action.event?, Threads.archive, howner, Owner.collected]
  | @join f failed howner hwriter =>
    -- The writer has ended, so the close in one piece finds no record left to write.
    have hbefore : t.owner.collected = false := howner ▸ rfl
    show t.archive.step .close = _
    rw [Archive.step, close_drained (hempty hwriter)]
    simp [Threads.archive, hbefore, hwriter, Writer.failed, f.owner_collected, outcome]
  | again f howner =>
    have hbefore : t.owner.collected = true := howner ▸ rfl
    obtain ⟨failed, hwriter⟩ := hended hbefore
    show t.archive.step .close = _
    rw [Archive.step, close_drained (hempty hwriter)]
    simp [Threads.archive, hbefore, f.owner_collected]
  | receive hwriter hchannel =>
    -- The record that the writer holds is still the first of the queue.
    simp [Action.event?, Threads.archive, hwriter, hchannel, Writer.held, Writer.failed]
  | leave hwriter hchannel howner =>
    simp [Action.event?, Threads.archive, hwriter, hchannel, Writer.held, Writer.failed]
  | write hwriter hlines htext =>
    simp [Action.event?, Archive.step, Archive.writeNext, Threads.archive, hwriter, Writer.held,
      Writer.failed, hlines]
  | fail part hwriter hlines =>
    simp [Action.event?, Archive.step, Archive.writeNext, Threads.archive, hwriter, Writer.held,
      Writer.failed, hlines]
  | flush hwriter =>
    simp [Action.event?, Threads.archive, hwriter, Writer.held, Writer.failed]

/-- Whatever turns the threads take, the archive behind them goes through a run of its own, with the
same answers. -/
theorem Steps.run (h : Steps t as t') (hsound : t.Sound) :
    t.archive.run ((as.filterMap Action.event?).map Prod.fst) =
      (t'.archive, (as.filterMap Action.event?).map Prod.snd) := by
  -- The run of the archive grows by the event of the first step, if it has one.
  induction h with
  | nil => rfl
  | @cons t t' t'' a as hstep _ ih =>
    have hrest := ih (hstep.sound hsound)
    have harchive := hstep.archive hsound
    rw [List.filterMap_cons]
    cases hevent : a.event? with
    | none =>
      rw [hevent] at harchive
      rw [← harchive]
      exact hrest
    | some e =>
      rw [hevent] at harchive
      have hstep : t.archive.step e.1 = (t'.archive, e.2) := harchive
      simp [Archive.run, hstep, hrest]

/-! ## A close returns -/

/-- A close has returned, or a drop. -/
def Returned (as : List (Action ρ)) : Prop := ∃ f reply, .answer (.finish f) reply ∈ as

omit [Tabular ρ] in
theorem not_returned_nil : ¬ Returned ([] : List (Action ρ)) := fun ⟨_, _, h⟩ => List.not_mem_nil h

omit [Tabular ρ] in
theorem returned_cons : Returned (a :: as) ↔ Returned [a] ∨ Returned as := by
  simp only [Returned, List.mem_cons, List.not_mem_nil, or_false, exists_or]

/-- The writer's outcome is collected where a close or a drop returns. -/
theorem Step.collected (h : Step t a t') :
    t'.owner.collected = true ↔ t.owner.collected = true ∨ Returned [a] := by
  cases h with
  | wait f howner => simp [Returned, howner, Owner.collected]
  | join | again => simp [Returned, Finish.owner_collected]
  | send | refuse | receive | leave | write | fail | flush => simp [Returned]

theorem Steps.collected (h : Steps t as t') :
    t'.owner.collected = true ↔ t.owner.collected = true ∨ Returned as := by
  induction h with
  | nil => simp only [not_returned_nil, or_false]
  | cons hstep _ ih => rw [ih, hstep.collected, or_assoc, ← returned_cons]

theorem Steps.collected_start (h : Steps start as t) : t.owner.collected = true ↔ Returned as := by
  rw [h.collected]
  exact or_iff_right Bool.noConfusion

omit [Tabular ρ] in
/-- How many steps are left to a writer to whom no more records are sent. -/
def work (t : Threads ρ) : Nat :=
  match t.writer with
  | .receiving => 2 * t.channel.length + 2
  | .holding _ => 2 * t.channel.length + 3
  | .flushing => 1
  | .ended _ => 0

/-- Lines are only added to a file. -/
theorem exists_append {file file' : List Row} {r : ρ} (h : append? file r = some file') :
    ∃ lines, file' = file ++ lines := by
  unfold append? at h
  dsimp only at h
  split at h
  · obtain rfl := Option.some_inj.mp h
    unfold withHeader
    split
    · next hheader => exact ⟨_, by rw [List.isEmpty_iff.mp hheader.1, List.nil_append]⟩
    · exact ⟨_, rfl⟩
  · cases h

/-- While a close waits, the writer has a step to take until the close returns. -/
theorem exists_step {f : Finish} (howner : t.owner = .waiting f) : ∃ a t', Step t a t' := by
  have hasked : t.owner ≠ .sending := howner ▸ Owner.noConfusion
  cases hwriter : t.writer with
  | receiving =>
    cases hchannel : t.channel with
    | nil => exact ⟨_, _, .leave hwriter hchannel hasked⟩
    | cons r rs => exact ⟨_, _, .receive hwriter hchannel⟩
  | holding r =>
    cases hlines : append? t.lines r with
    | none => exact ⟨_, _, .fail [] hwriter hlines⟩
    | some file =>
      obtain ⟨lines, rfl⟩ := exists_append hlines
      exact ⟨_, _, .write hwriter hlines (List.nil_append _)⟩
  | flushing => exact ⟨_, _, .flush hwriter⟩
  | ended failed => exact ⟨_, _, .join howner hwriter⟩

/-- While a close waits, every step is the writer's and leaves it less to do, or lets the close
return. -/
theorem Step.work_lt {f : Finish} (howner : t.owner = .waiting f) (h : Step t a t')
    (hwaits : ¬ Returned [a]) : t'.owner = .waiting f ∧ t'.work < t.work := by
  cases h with
  | send r hsending => cases howner.symm.trans hsending
  | refuse r hrefused =>
    obtain hclosed | ⟨hsending, -⟩ := hrefused
    · cases howner.symm.trans hclosed
    · cases howner.symm.trans hsending
  | wait f hsending => cases howner.symm.trans hsending
  | join => exact absurd ⟨_, _, List.mem_singleton_self _⟩ hwaits
  | again f hclosed => cases howner.symm.trans hclosed
  | receive hwriter hchannel =>
    refine ⟨howner, ?_⟩
    simp only [work, hwriter, hchannel, List.length_cons]
    omega
  | leave hwriter => exact ⟨howner, by simp [work, hwriter]⟩
  | write hwriter => exact ⟨howner, by simp [work, hwriter]⟩
  | fail part hwriter => exact ⟨howner, by simp [work, hwriter]⟩
  | flush hwriter => exact ⟨howner, by simp [work, hwriter]⟩

/-- A close that has not returned has waited for no more steps than the writer had left to take. -/
theorem Steps.length_add_work_le {f : Finish} (howner : t.owner = .waiting f) (h : Steps t as t')
    (hwaits : ¬ Returned as) : t'.owner = .waiting f ∧ as.length + t'.work ≤ t.work := by
  induction h with
  | nil => exact ⟨howner, Nat.le_of_eq (Nat.zero_add _)⟩
  | cons hstep _ ih =>
    rw [returned_cons, not_or] at hwaits
    obtain ⟨howner, hlt⟩ := hstep.work_lt howner hwaits.1
    obtain ⟨howner, hle⟩ := ih howner hwaits.2
    exact ⟨howner, by rw [List.length_cons]; omega⟩

end Threads

end BoomWalker.Archive
