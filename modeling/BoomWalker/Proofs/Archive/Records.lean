/-
The records of an archive that two threads write.

Main statement: once a close has returned, or the archive has been dropped, its file has the names
of the columns and one row for every record that was taken, in the order of the calls; however the
owner and the writer have taken turns (`Steps.keep_records`).

The invariant (`Kept`) is that the rows that are written, the record that the writer holds, the
records in the channel and those still to be taken are, in this order, all records that are taken. A
writer that has ended holds no record, and has nothing left in its channel and its buffer.
-/
import BoomWalker.Proofs.Archive.Threads

namespace BoomWalker.Archive

variable {ρ : Type}

/-- The record that is taken from the owner in an action. -/
def Action.taken? : Action ρ → Option ρ
  | answer (.serialise r) (.ok _) => some r
  | _ => none

/-- The records that are taken in some actions, in the order of the calls. -/
def taken (as : List (Action ρ)) : List ρ := as.filterMap Action.taken?

variable [Tabular ρ]

/-! ## Tables -/

/-- A record whose fields are in as many columns, each of which has a name. -/
structure Flat (width : Nat) (r : ρ) : Prop where
  named : (Tabular.header r).length = width
  filled : (Tabular.cells r).length = width

/-- The lines of some records: the names of the columns and a row for each one, or none at all. -/
def table (rs : List ρ) : List Row := (rs.head?.map Tabular.header).toList ++ rs.map Tabular.cells

/-- A record of the width of the others fits in behind them. -/
theorem append?_table {width : Nat} (hwidth : 0 < width) {rs : List ρ}
    (hrs : ∀ r ∈ rs, Flat width r) {r : ρ} (hr : Flat width r) :
    append? (table rs) r = some (table (rs ++ [r])) := by
  cases rs with
  | nil =>
    have hnamed : Tabular.header r ≠ [] := List.ne_nil_of_length_pos (hr.named ▸ hwidth)
    simp [append?, withHeader, table, hnamed, hr.named, hr.filled]
  | cons first rest =>
    have hfirst : (Tabular.header first).length = width := (hrs first List.mem_cons_self).named
    simp [append?, withHeader, table, hfirst, hr.filled]

namespace Threads

variable {t t' t'' : Threads ρ} {a : Action ρ} {as bs : List (Action ρ)}

/-! ## Where the records are -/

/-- All records that are taken are written, queued or still to come, and the lines that are written
are in the file or in the buffer. -/
structure Kept (rs : List ρ) (as : List (Action ρ)) (t : Threads ρ) : Prop where
  records : ∃ written, t.lines = table written ∧ written ++ (t.archive.queue ++ taken as) = rs
  text : t.file ++ t.buffer = utf8 t.archive.text
  ended : ∀ failed, t.writer = .ended failed → failed = false ∧ t.buffer = []

theorem start_kept (as : List (Action ρ)) : Kept (taken as) as (start : Threads ρ) :=
  ⟨⟨[], rfl, rfl⟩, rfl, fun _ h => by cases h⟩

section Steps

variable {width : Nat} (hwidth : 0 < width) {rs : List ρ} (hflat : ∀ r ∈ rs, Flat width r)

include hwidth hflat

/-- The record that the writer holds fits in behind those that are written. -/
theorem Kept.append?_held {r : ρ} (hkept : t.Kept rs as) (hwriter : t.writer = .holding r) :
    ∃ written, append? t.lines r = some (table (written ++ [r])) ∧
      written ++ [r] ++ (t.channel ++ taken as) = rs := by
  obtain ⟨written, hlines, hrs⟩ := hkept.records
  have hqueue : t.archive.queue = r :: t.channel := by simp [archive, hwriter, Writer.held]
  rw [hqueue] at hrs
  have hwritten : ∀ r ∈ written, Flat width r :=
    fun r hr => hflat r (hrs ▸ List.mem_append_left _ hr)
  have hr : Flat width r := hflat r (by simp [← hrs])
  refine ⟨written, hlines ▸ append?_table hwidth hwritten hr, ?_⟩
  rw [← hrs, List.append_assoc]
  rfl

theorem Step.kept (h : Step t a t') (hkept : t.Kept rs (a :: as)) : t'.Kept rs as := by
  obtain ⟨written, hlines, hrs⟩ := hkept.records
  have hqueue : t.archive.queue = t.writer.held ++ t.channel := rfl
  cases h with
  | send r =>
    -- The first of the records to come is now the last one in the channel.
    refine ⟨⟨written, hlines, ?_⟩, hkept.text, hkept.ended⟩
    rw [← hrs, hqueue]
    simp [Threads.archive, taken, Action.taken?]
  | refuse | wait | join | again => exact ⟨⟨written, hlines, hrs⟩, hkept.text, hkept.ended⟩
  | receive hwriter hchannel =>
    refine ⟨⟨written, hlines, ?_⟩, hkept.text, fun _ h => by cases h⟩
    rw [← hrs, hqueue, hwriter, hchannel]
    rfl
  | leave hwriter hchannel =>
    refine ⟨⟨written, hlines, ?_⟩, hkept.text, fun _ h => by cases h⟩
    rw [← hrs, hqueue, hwriter]
    rfl
  | @write r lines spilled kept hwriter happend hsplit =>
    obtain ⟨written, hfits, hrs⟩ := hkept.append?_held hwidth hflat hwriter
    have htable : t.lines ++ lines = table (written ++ [r]) :=
      Option.some_inj.mp (happend.symm.trans hfits)
    refine ⟨⟨written ++ [r], htable, hrs⟩, ?_, fun _ h => by cases h⟩
    -- How much of the buffer goes to the file does not matter to the two together.
    calc t.file ++ spilled ++ kept
      _ = t.file ++ t.buffer ++ utf8 (lineText lines) := by simp only [List.append_assoc, hsplit]
      _ = utf8 (lineText (t.lines ++ lines)) := by
        rw [hkept.text, lineText_append, utf8_append]
        rfl
  | fail part hwriter happend =>
    obtain ⟨written, hfits, -⟩ := hkept.append?_held hwidth hflat hwriter
    cases happend.symm.trans hfits
  | flush hwriter =>
    refine ⟨⟨written, hlines, ?_⟩, ?_, fun failed h => ⟨?_, rfl⟩⟩
    · rw [← hrs, hqueue, hwriter]
      rfl
    · rw [List.append_nil, hkept.text]
      rfl
    · cases h
      rfl

/-- Some of the records may be taken later. -/
theorem Steps.kept (h : Steps t as t') (hkept : t.Kept rs (as ++ bs)) : t'.Kept rs bs := by
  induction h with
  | nil => exact hkept
  | cons hstep _ ih => exact ih (hstep.kept hwidth hflat hkept)

end Steps

/-! ## Answers -/

section Answers

variable {reply : Except ArchiveError Unit}
  (hwhole : ∀ failed, t.writer = .ended failed → failed = false)

include hwhole

/-- While all records fit, they are taken until a close has returned. -/
theorem Step.serialised {r : ρ} (hsound : t.Sound) (h : Step t (.answer (.serialise r) reply) t') :
    reply = if t.owner.collected = true then .error .stopped else .ok () := by
  cases h with
  | send r howner =>
    rw [howner]
    rfl
  | refuse r hrefused =>
    obtain howner | ⟨howner, failed, hwriter⟩ := hrefused
    · rw [howner]
      rfl
    · cases hwhole true (hsound.asked (hwriter ▸ trivial) howner)

theorem Step.finished {f : Finish} (h : Step t (.answer (.finish f) reply) t') :
    reply = .ok () := by
  cases h with
  | join howner hwriter =>
    rw [hwhole _ hwriter]
    rfl
  | again => rfl

end Answers

/-- Once a close has returned, nothing happens but that the archive is dropped. -/
theorem Step.settled (hsound : t.Sound) (hcollected : t.owner.collected = true) (h : Step t a t') :
    t' = t ∨ t' = { t with owner := .gone } := by
  obtain ⟨failed, hended⟩ := hsound.ended hcollected
  have hsending : t.owner ≠ .sending := by
    intro howner
    simp [howner, Owner.collected] at hcollected
  cases h with
  | send r howner => exact absurd howner hsending
  | refuse => exact .inl rfl
  | wait f howner => exact absurd howner hsending
  | join howner => simp [howner, Owner.collected] at hcollected
  | again f howner =>
    cases f with
    | close =>
      left
      rw [Finish.owner, ← howner]
    | drop => exact .inr rfl
  | receive hwriter => cases hended.symm.trans hwriter
  | leave hwriter => cases hended.symm.trans hwriter
  | write hwriter => cases hended.symm.trans hwriter
  | fail part hwriter => cases hended.symm.trans hwriter
  | flush hwriter => cases hended.symm.trans hwriter

/-! ## Runs -/

/-- Once the outcome of the writer has been collected, the file has all records that were taken. -/
theorem Kept.file {rs : List ρ} (hkept : t.Kept rs []) (hsound : t.Sound)
    (hcollected : t.owner.collected = true) :
    t.file = utf8 t.archive.text ∧ t.archive.file = table rs := by
  obtain ⟨failed, hended⟩ := hsound.ended hcollected
  obtain ⟨written, hlines, hrs⟩ := hkept.records
  have hqueue : t.archive.queue = [] := by
    simp [archive, hended, Writer.held, hsound.drained (hended ▸ trivial)]
  have hall : written = rs := by simpa [hqueue, taken] using hrs
  refine ⟨?_, hall ▸ hlines⟩
  rw [← hkept.text, (hkept.ended failed hended).2, List.append_nil]

/-- What an archive that two threads write does for its owner, after some steps from its start. -/
structure Delivers (as : List (Action ρ)) (t : Threads ρ) : Prop where
  /-- Once a close or a drop has returned, the file has one row for every record that was taken. -/
  file : Returned as → t.file = utf8 t.archive.text ∧ t.archive.file = table (taken as)
  /-- Records are taken until a close has returned, and refused afterwards. -/
  serialised : ∀ before after r reply, as = before ++ .answer (.serialise r) reply :: after →
    (¬ Returned before → reply = .ok ()) ∧ (Returned before → reply = .error .stopped)
  finished : ∀ f reply, .answer (.finish f) reply ∈ as → reply = .ok ()
  /-- A record is taken at once, while no close has been asked for. -/
  taking : t.owner = .sending → ∀ r, ∃ t', Step t (.answer (.serialise r) (.ok ())) t'
  /-- An archive that has been closed is as it is, whatever is asked of it. -/
  closed : t.owner = .closed → Step t (.answer (.finish .close) (.ok ())) t ∧
    ∀ r, Step t (.answer (.serialise r) (.error .stopped)) t
  settled : Returned as → ∀ a t', Step t a t' → t' = t ∨ t' = { t with owner := .gone }
  /-- A close that is waited for returns: there is always a step to take, and an end to them. -/
  returns : ∀ f, t.owner = .waiting f → ∀ bs t', Steps t bs t' → ¬ Returned bs →
    bs.length ≤ t.work ∧ ∃ b t'', Step t' b t''
  /-- All of this is a run of an archive whose steps are done in one piece. -/
  run : Archive.run empty ((as.filterMap Action.event?).map Prod.fst) =
    (t.archive, (as.filterMap Action.event?).map Prod.snd)

/-- However an owner and its writer take turns: if the records that are taken are as wide as the
names of their columns, none is lost or written twice. -/
theorem Steps.keep_records {width : Nat} (hwidth : 0 < width) (h : Steps start as t)
    (hflat : ∀ r ∈ taken as, Flat width r) : Delivers as t := by
  have hsound : t.Sound := h.sound start_sound
  have hkept {before after : List (Action ρ)} {s : Threads ρ} (has : as = before ++ after)
      (hs : Steps start before s) : s.Kept (taken as) after :=
    hs.kept hwidth hflat (has ▸ start_kept as)
  have hall : t.Kept (taken as) [] := hkept (List.append_nil as).symm h
  refine ⟨fun hclosed => hall.file hsound (h.collected_start.mpr hclosed), ?_, ?_, ?_, ?_,
    fun hclosed _ _ => Step.settled hsound (h.collected_start.mpr hclosed), ?_, h.run start_sound⟩
  · intro before after r reply has
    obtain ⟨s, s', hs, hstep⟩ := (has ▸ h).exists_answer
    have hwhole (failed : Bool) (hended : s.writer = .ended failed) : failed = false :=
      ((hkept has hs).ended failed hended).1
    rw [hstep.serialised hwhole (hs.sound start_sound), ← hs.collected_start]
    exact ⟨fun hopen => if_neg hopen, fun hclosed => if_pos hclosed⟩
  · intro f reply hmem
    obtain ⟨before, after, has⟩ := List.append_of_mem hmem
    obtain ⟨s, s', hs, hstep⟩ := (has ▸ h).exists_answer
    exact hstep.finished fun failed hended => ((hkept has hs).ended failed hended).1
  · intro howner r
    refine ⟨_, .send r howner fun failed hended => ?_⟩
    cases hended.symm.trans (hsound.asked (hended ▸ trivial) howner)
    cases (hall.ended true hended).1
  · intro howner
    have hclosed : { t with owner := .closed } = t := by rw [← howner]
    have hagain : Step t (.answer (.finish .close) (.ok ())) t := by
      simpa [Finish.owner, hclosed] using Step.again .close howner
    exact ⟨hagain, fun r => .refuse r (.inl howner)⟩
  · intro f howner bs t' hs hwaits
    obtain ⟨howner', hle⟩ := hs.length_add_work_le howner hwaits
    exact ⟨Nat.le_of_add_right_le hle, exists_step howner'⟩

/-! ## Two samples -/

/-- A record of two columns. -/
def sample (time value : Nat) : Record Float := [("time_s", .index time), ("value", .index value)]

/-- Two samples are taken. The second one is still in the channel when a close begins to wait; a
third one comes too late. -/
def lateSamples : List (Action (Record Float)) :=
  [.answer (.serialise (sample 0 5)) (.ok ()), .receive, .answer (.serialise (sample 1 6)) (.ok ()),
    .wait .close, .write, .receive, .write, .leave, .flush, .answer (.finish .close) (.ok ()),
    .answer (.serialise (sample 2 7)) (.error .stopped), .answer (.finish .close) (.ok ()),
    .answer (.finish .drop) (.ok ())]

theorem Step.continues (h : Step t a t') (hs : ∃ t'', Steps t' as t'') :
    ∃ t'', Steps t (a :: as) t'' := by
  obtain ⟨t'', hs⟩ := hs
  exact ⟨t'', .cons h hs⟩

/-- The first row is in the file in part while the second one is waiting. -/
theorem lateSamples_keep_records : ∃ t, Steps start lateSamples t ∧ Delivers lateSamples t ∧
    t.file = utf8 "time_s,value\n0,5\n1,6\n" := by
  have hsteps : ∃ t, Steps start lateSamples t := by
    have hfirst : append? [] (sample 0 5) = some ([] ++ table [sample 0 5]) := rfl
    have hsecond : append? (table [sample 0 5]) (sample 1 6) =
      some (table [sample 0 5] ++ [["1", "6"]]) := rfl
    refine (Step.send _ rfl fun _ h => by cases h).continues ?_
    refine (Step.receive rfl rfl).continues ?_
    refine (Step.send _ rfl fun _ h => by cases h).continues ?_
    refine (Step.wait _ rfl).continues ?_
    refine (Step.write rfl hfirst (List.take_append_drop 15 _)).continues ?_
    refine (Step.receive rfl rfl).continues ?_
    refine (Step.write rfl hsecond (List.nil_append _)).continues ?_
    refine (Step.leave rfl rfl Owner.noConfusion).continues ?_
    refine (Step.flush rfl).continues ?_
    refine (@Step.join _ _ _ .close false rfl rfl).continues ?_
    refine (Step.refuse _ (.inl rfl)).continues ?_
    refine (Step.again _ rfl).continues ?_
    refine (Step.again _ rfl).continues ?_
    exact ⟨_, .nil _⟩
  obtain ⟨t, ht⟩ := hsteps
  have hflat : ∀ r ∈ taken lateSamples, Flat 2 r := by
    have htaken : taken lateSamples = [sample 0 5, sample 1 6] := rfl
    simp only [htaken, List.forall_mem_cons]
    exact ⟨⟨rfl, rfl⟩, ⟨rfl, rfl⟩, List.forall_mem_nil _⟩
  have hdelivers := ht.keep_records (by decide) hflat
  refine ⟨t, ht, hdelivers, ?_⟩
  obtain ⟨hfile, hlines⟩ := hdelivers.file ⟨.close, .ok (), by simp [lateSamples]⟩
  rw [hfile, Archive.text, hlines]
  decide +kernel

end Threads

end BoomWalker.Archive
