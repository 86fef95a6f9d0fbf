/-
Which cause of safe mode is held after any requests that raise and clear causes.

Main statement: a store that starts out with safe mode off keeps `SafeLaw`. Its flag, its cause, the
answers to requests and the fallback command agree with each other and with what was requested. The
cause slot follows three rules at once: the first cause since safe mode was last off wins, overruns
take the place of any cause, and overruns stay.
-/
import BoomWalker.Proofs.Supervisor.SafeMode

namespace BoomWalker

/-- A request about safe mode. -/
inductive SafeRequest where
  | raise (c : SafeCause)
  | clear (c : SafeCause)
deriving DecidableEq

namespace Safety

/-- Safe mode after a request. -/
def request (s : Safety) : SafeRequest → Safety
  | .raise c => s.makeSafe c
  | .clear c => (s.makeUnsafe c).1

/-- No request parts the flag from the cause. -/
theorem request_sound {s : Safety} (h : s.Sound) (r : SafeRequest) : (s.request r).Sound := by
  cases r with
  | raise c => exact makeSafe_sound h c
  | clear c => exact makeUnsafe_sound h c

/-- Overruns are held once they are raised, and only then. -/
theorem request_overrun {s : Safety} (h : s.Sound) (r : SafeRequest) :
    (s.request r).overrun = true ↔ s.overrun = true ∨ r = .raise .cycleOverrun := by
  cases r with
  | clear c =>
    have hsame : (s.request (.clear c)).overrun = s.overrun := makeUnsafe_overrun s c
    simp [hsame]
  | raise c =>
    by_cases hc : c = .cycleOverrun
    · subst hc
      exact iff_of_true (makeSafe_cycleOverrun s) (Or.inr rfl)
    · have hsame : (s.request (.raise c)).overrun = s.overrun := makeSafe_overrun h hc
      simp [hsame, hc]

/-- Without overruns, a cause is held after a request if the request raises it while safe mode is
off, or if it was held and safe mode stays on. -/
theorem request_cause {s : Safety} (h : s.Sound) (hoverrun : s.overrun = false)
    {r : SafeRequest} (hr : r ≠ .raise .cycleOverrun) (c : SafeCause) :
    (s.request r).cause = some c ↔
      (r = .raise c ∧ s.safe = false) ∨ (s.cause = some c ∧ (s.request r).safe = true) := by
  rcases h.cases hoverrun with rfl | rfl | rfl
  all_goals
    rcases r with r | r
    all_goals cases r <;> cases c <;> first | decide | exact absurd rfl hr

/-- A request to clear a cause is granted exactly if safe mode is off after it. -/
theorem makeUnsafe_granted {s : Safety} (h : s.Sound) (c : SafeCause) :
    (s.makeUnsafe c).2 = true ↔ (s.makeUnsafe c).1.safe = false := by
  obtain ⟨safe, cause⟩ := s
  have hsafe : safe = cause.isSome := h
  subst hsafe
  rcases cause with _ | held
  · exact iff_of_true rfl rfl
  · cases held <;> cases c <;> decide

/-- Safe mode is ended by clearing the held cause, unless that is overruns. -/
theorem makeUnsafe_ends {s : Safety} (h : s.Sound) (c : SafeCause) :
    (s.safe = true ∧ (s.makeUnsafe c).1.safe = false) ↔
      s.cause = some c ∧ c ≠ .cycleOverrun := by
  obtain ⟨safe, cause⟩ := s
  have hsafe : safe = cause.isSome := h
  subst hsafe
  rcases cause with _ | held
  · cases c <;> decide
  · cases held <;> cases c <;> decide

end Safety

/-! ## Histories of requests -/

namespace SafeRequest

/-- The requests end in one that raised the cause while safe mode was off, and further ones during
which safe mode stayed on; `on` tells whether it is on after requests. -/
def FirstSinceOff (on : List SafeRequest → Bool) (rs : List SafeRequest) (c : SafeCause) : Prop :=
  ∃ before later, rs = before ++ .raise c :: later ∧ on before = false ∧
    ∀ since, since <+: later → on (before ++ .raise c :: since) = true

variable {on : List SafeRequest → Bool}

theorem not_firstSinceOff_nil (c : SafeCause) : ¬ FirstSinceOff on [] c := by
  rintro ⟨before, later, hrs, -⟩
  exact absurd hrs (by simp)

theorem firstSinceOff_concat (rs : List SafeRequest) (r : SafeRequest) (c : SafeCause) :
    FirstSinceOff on (rs ++ [r]) c ↔
      ((r = .raise c ∧ on rs = false) ∨ FirstSinceOff on rs c) ∧ on (rs ++ [r]) = true := by
  constructor
  · rintro ⟨before, later, hrs, hoff, hon⟩
    have hlast : on (rs ++ [r]) = true := by
      rw [hrs]
      exact hon later (List.prefix_refl later)
    refine ⟨?_, hlast⟩
    -- The cause was raised by the last request, or by one before it.
    rcases List.eq_nil_or_concat' later with rfl | ⟨later, last, rfl⟩
    · obtain ⟨rfl, hr⟩ := List.append_inj' hrs rfl
      exact Or.inl ⟨List.head_eq_of_cons_eq hr, hoff⟩
    · rw [← List.cons_append, ← List.append_assoc] at hrs
      obtain ⟨rfl, -⟩ := List.append_inj' hrs rfl
      exact Or.inr ⟨before, later, rfl, hoff, fun since hsince =>
        hon since (hsince.trans (List.prefix_append later [last]))⟩
  · rintro ⟨⟨rfl, hoff⟩ | ⟨before, later, rfl, hoff, hon⟩, hlast⟩
    · refine ⟨rs, [], rfl, hoff, ?_⟩
      intro since hsince
      rw [List.prefix_nil.mp hsince]
      exact hlast
    · refine ⟨before, later ++ [r], by simp, hoff, ?_⟩
      intro since hsince
      rcases List.prefix_concat_iff.mp hsince with rfl | hsince
      · simpa using hlast
      · exact hon since hsince

end SafeRequest

/-! ## Stores after requests -/

namespace Store

variable {α ρ : Type}

def request (s : Store α ρ) : SafeRequest → Store α ρ
  | .raise c => s.makeSafe c
  | .clear c => (s.makeUnsafe c).1

def requests (s : Store α ρ) (rs : List SafeRequest) : Store α ρ := rs.foldl request s

theorem request_safety (s : Store α ρ) (r : SafeRequest) :
    (s.request r).safety = s.safety.request r := by
  cases r with
  | raise c => rfl
  | clear c => rfl

theorem requests_concat (s : Store α ρ) (rs : List SafeRequest) (r : SafeRequest) :
    (s.requests (rs ++ [r])).safety = (s.requests rs).safety.request r := by
  rw [← request_safety]
  simp only [requests, List.foldl_append, List.foldl_cons, List.foldl_nil]

theorem requests_sound {s : Store α ρ} (h : s.safety.Sound) (rs : List SafeRequest) :
    (s.requests rs).safety.Sound := by
  induction rs using List.reverseRecOn with
  | nil => exact h
  | append_singleton rs r ih =>
    rw [requests_concat]
    exact Safety.request_sound ih r

theorem requests_overrun {s : Store α ρ} (h : s.safety = .off) (rs : List SafeRequest) :
    (s.requests rs).safety.overrun = true ↔ .raise .cycleOverrun ∈ rs := by
  have hsound : s.safety.Sound := by
    rw [h]
    rfl
  induction rs using List.reverseRecOn with
  | nil =>
    simp only [requests, List.foldl_nil, h, List.not_mem_nil, iff_false]
    exact Bool.false_ne_true
  | append_singleton rs r ih =>
    rw [requests_concat, Safety.request_overrun (requests_sound hsound rs), List.mem_append,
      List.mem_singleton, eq_comm (a := r)]
    exact or_congr_left ih

/-- Until overruns are raised, the held cause is the first one since safe mode was last off. -/
theorem requests_cause {s : Store α ρ} (h : s.safety = .off) {rs : List SafeRequest}
    (hrs : .raise .cycleOverrun ∉ rs) (c : SafeCause) :
    (s.requests rs).safety.cause = some c ↔
      SafeRequest.FirstSinceOff (fun rs => (s.requests rs).safety.safe) rs c := by
  have hsound : s.safety.Sound := by
    rw [h]
    rfl
  induction rs using List.reverseRecOn with
  | nil =>
    simp only [requests, List.foldl_nil, h]
    exact iff_of_false (fun hheld => nomatch hheld) (SafeRequest.not_firstSinceOff_nil c)
  | append_singleton rs r ih =>
    have hbefore : .raise .cycleOverrun ∉ rs := fun hmem => hrs (List.mem_append_left _ hmem)
    have hr : r ≠ .raise .cycleOverrun := fun heq => hrs (by simp [heq])
    have hoverrun : (s.requests rs).safety.overrun = false := by
      rw [Bool.eq_false_iff, Ne, requests_overrun h]
      exact hbefore
    have hstep := Safety.request_cause (requests_sound hsound rs) hoverrun hr c
    have hraised : r = .raise c → (s.requests rs).safety.safe = false →
        ((s.requests rs).safety.request r).safe = true := by
      rintro rfl hoff
      have hcause := hstep.mpr (Or.inl ⟨rfl, hoff⟩)
      have hkept := Safety.request_sound (requests_sound hsound rs) (.raise c)
      rw [hkept, hcause]
      rfl
    rw [SafeRequest.firstSinceOff_concat, requests_concat, hstep, or_and_right]
    refine or_congr ⟨fun hr => ⟨hr, hraised hr.1 hr.2⟩, And.left⟩ ?_
    exact and_congr_left' (ih hbefore)

/-- What is true of a store after requests. -/
structure SafeLaw [Scalar α] (rs : List SafeRequest) (s : Store α ρ) : Prop where
  safe : s.safety.safe = true ↔ s.safety.cause.isSome = true
  granted (c : SafeCause) : (s.makeUnsafe c).2 = true ↔ (s.makeUnsafe c).1.safety.safe = false
  ends (c : SafeCause) : s.safety.safe = true ∧ (s.makeUnsafe c).1.safety.safe = false ↔
    s.safety.cause = some c ∧ c ≠ .cycleOverrun
  latched : .raise .cycleOverrun ∈ rs →
    s.safety.safe = true ∧ s.safety.cause = some .cycleOverrun ∧
      (∀ c, (s.makeUnsafe c).2 = false) ∧
      (s.safety.fallback : Command α) = ⟨.both ⟨0, 0, 0⟩, .fault⟩
  unlatched : .raise .cycleOverrun ∉ rs →
    (∀ c, s.safety.cause = some c ↔
      SafeRequest.FirstSinceOff
        (fun rs => ((initial : Store α ρ).requests rs).safety.safe) rs c) ∧
      (s.safety.fallback : Command α) = .safe

/-- Safe mode obeys its law after every list of requests. -/
theorem requests_safeLaw [Scalar α] (rs : List SafeRequest) :
    SafeLaw rs ((initial : Store α ρ).requests rs) := by
  have hoff : (initial : Store α ρ).safety = .off := rfl
  have hsound := requests_sound (s := (initial : Store α ρ)) rfl rs
  have hoverrun := requests_overrun hoff rs
  refine ⟨?_, Safety.makeUnsafe_granted hsound, Safety.makeUnsafe_ends hsound, ?_, ?_⟩
  · rw [hsound]
  · intro hraised
    have hheld := Safety.eq_overrunHeld hsound (hoverrun.mpr hraised)
    simp only [Safety.fallback, Store.makeUnsafe, hheld]
    exact ⟨rfl, rfl, fun _ => rfl, rfl⟩
  · intro hraised
    refine ⟨requests_cause hoff hraised, ?_⟩
    rw [Safety.fallback, if_neg (mt hoverrun.mp hraised)]

end Store

end BoomWalker
