/-
Skipping a value of any shape.

The value of an unknown field is passed over unread. `Written` is the grammar of JSON texts as they
stand in a container, blanks included; every text of a value is skipped to its very end
(`skipValue_written`), however deep it nests and whatever follows that cannot continue a number.
-/
import BoomWalker.Proofs.Json.Numerals
import BoomWalker.Proofs.Json.Strings

namespace BoomWalker.Json

/-! ## Blanks -/

def Blanks (b : List Char) : Prop := ∀ c ∈ b, isBlank c = true

theorem blanks_nil : Blanks [] := by
  rintro c ⟨⟩

theorem skipBlank_append {b : List Char} (hb : Blanks b) (cs : List Char) :
    skipBlank (b ++ cs) = skipBlank cs := by
  induction b with
  | nil => rfl
  | cons c b ih =>
    rw [List.cons_append, skipBlank, List.dropWhile_cons_of_pos (hb c (by simp))]
    exact ih fun d hd => hb d (by simp [hd])

theorem skipBlank_of_not_blank {c : Char} (h : isBlank c = false) (cs : List Char) :
    skipBlank (c :: cs) = c :: cs := by
  rw [skipBlank, List.dropWhile_cons_of_neg (by simp [h])]

/-- Blanks before what stops a number stop it too. -/
theorem stops_blanks_append {b : List Char} (hb : Blanks b) {rest : List Char} (h : Stops rest) :
    Stops (b ++ rest) := by
  rcases b with _ | ⟨c, b⟩
  · exact h
  · have hc := hb c (by simp)
    simp only [isBlank, decide_eq_true_eq] at hc
    rcases hc with rfl | rfl | rfl | rfl <;> exact ⟨rfl, by decide, by decide, by decide⟩

/-! ## Numbers -/

/-- One digit or more. -/
def DigitRun (ds : List Char) : Prop := ds ≠ [] ∧ ∀ d ∈ ds, d.isDigit = true

/-- What may follow the digits of a number, from the letter of the exponent on. -/
inductive Exponent : List Char → Prop
  | absent : Exponent []
  | present {letter : Char} {sign ds : List Char} (hletter : letter = 'e' ∨ letter = 'E')
      (hsign : sign = [] ∨ sign = ['+'] ∨ sign = ['-']) (hds : DigitRun ds) :
      Exponent (letter :: sign ++ ds)

inductive Fraction : List Char → Prop
  | absent : Fraction []
  | present {ds : List Char} (hds : DigitRun ds) : Fraction ('.' :: ds)

/-- A number without its sign. It has no needless zero at its front. -/
inductive Unsigned : List Char → Prop
  | mk {lead fraction exponent : List Char} (hlead : DigitRun lead)
      (hzero : lead.head? = some '0' → lead = ['0']) (hfraction : Fraction fraction)
      (hexponent : Exponent exponent) : Unsigned (lead ++ fraction ++ exponent)

theorem skipExponent_digits {ds : List Char} (hds : DigitRun ds) {rest : List Char}
    (hrest : NoDigit rest) {sign : List Char} (hsign : sign = [] ∨ sign = ['+'] ∨ sign = ['-']) :
    skipExponent (sign ++ ds ++ rest) = .ok rest := by
  have hspan := spanDigits_of_digits hds.2 hrest
  rcases ds with _ | ⟨d, ds⟩
  · exact absurd rfl hds.1
  have hd : d ≠ '+' ∧ d ≠ '-' := by
    have hdigit := hds.2 d (by simp)
    constructor <;> rintro rfl <;> exact absurd hdigit (by decide)
  rcases hsign with rfl | rfl | rfl
  · simp only [List.nil_append, List.cons_append] at hspan ⊢
    unfold skipExponent
    grind
  · simp only [List.nil_append, List.cons_append, skipExponent] at hspan ⊢
    rw [hspan]
  · simp only [List.nil_append, List.cons_append, skipExponent] at hspan ⊢
    rw [hspan]

theorem skipScale_unscaled {cs : List Char} (h : Unscaled cs) : skipScale cs = .ok cs := by
  unfold skipScale
  split
  · exact absurd rfl h.1
  · exact absurd rfl h.2
  · rfl

theorem skipScale_exponent {cs rest : List Char} (h : Exponent cs) (hrest : Stops rest) :
    skipScale (cs ++ rest) = .ok rest := by
  cases h with
  | absent => exact skipScale_unscaled hrest.unscaled
  | present hletter hsign hds =>
    rcases hletter with rfl | rfl <;> exact skipExponent_digits hds hrest.noDigit hsign

/-- Neither an exponent nor what stops a number continues its digits. -/
theorem Exponent.append_noDigit {cs rest : List Char} (h : Exponent cs) (hrest : Stops rest) :
    NoDigit (cs ++ rest) ∧ (cs ++ rest).head? ≠ some '.' := by
  cases h with
  | absent => exact ⟨hrest.noDigit, hrest.no_point⟩
  | present hletter hsign hds =>
    rcases hletter with rfl | rfl <;> exact ⟨by rintro c ⟨⟩; rfl, by simp⟩

/-- Skip what may follow the leading digits of a number. -/
def skipTail : List Char → Except ReadError (List Char)
  | '.' :: rest =>
    match spanDigits rest with
    | ([], _) => .error .malformed
    | (_, rest) => skipScale rest
  | rest => skipScale rest

theorem skipUnsigned_eq_skipTail {d : Char} {ds cs rest : List Char}
    (hs : spanDigits cs = (d :: ds, rest)) (hlead : d = '0' → ds = []) :
    skipUnsigned cs = skipTail rest := by
  simp only [skipUnsigned, skipTail]
  rw [hs]
  split
  · simp_all
  · simp_all
  · rename_i heq
    cases heq
    rfl
  · rename_i hpoint heq
    cases heq
    split
    · exact (hpoint _ rfl).elim
    · rfl

theorem skipTail_fraction {fraction exponent rest : List Char} (hfraction : Fraction fraction)
    (hexponent : Exponent exponent) (hrest : Stops rest) :
    skipTail (fraction ++ (exponent ++ rest)) = .ok rest := by
  have hscale := skipScale_exponent hexponent hrest
  obtain ⟨hdigit, hpoint⟩ := hexponent.append_noDigit hrest
  cases hfraction with
  | absent =>
    rw [List.nil_append, skipTail]
    · exact hscale
    · rintro cs heq
      exact hpoint (by rw [heq]; rfl)
  | present hds =>
    rename_i ds
    have hspan := spanDigits_of_digits hds.2 hdigit
    rcases ds with _ | ⟨d, ds⟩
    · exact absurd rfl hds.1
    rw [List.cons_append, skipTail, hspan]
    exact hscale

/-- The leading digits of a number, and what follows them. -/
theorem Unsigned.span {cs rest : List Char} (h : Unsigned cs) (hrest : Stops rest) :
    ∃ d ds fraction exponent, spanDigits (cs ++ rest) = (d :: ds, fraction ++ (exponent ++ rest)) ∧
      (d = '0' → ds = []) ∧ Fraction fraction ∧ Exponent exponent := by
  obtain ⟨hlead, hzero, hfraction, hexponent⟩ := h
  rename_i lead fraction exponent
  have hafter : NoDigit (fraction ++ (exponent ++ rest)) := by
    cases hfraction with
    | absent => exact (hexponent.append_noDigit hrest).1
    | present hds =>
      rintro c ⟨⟩
      rfl
  have hspan := spanDigits_of_digits hlead.2 hafter
  rcases lead with _ | ⟨d, ds⟩
  · exact absurd rfl hlead.1
  refine ⟨d, ds, fraction, exponent, by simpa using hspan, ?_, hfraction, hexponent⟩
  rintro rfl
  exact (List.cons.inj (hzero rfl)).2

theorem skipUnsigned_append {cs rest : List Char} (h : Unsigned cs) (hrest : Stops rest) :
    skipUnsigned (cs ++ rest) = .ok rest := by
  obtain ⟨d, ds, fraction, exponent, hspan, hlead, hfraction, hexponent⟩ := h.span hrest
  rw [skipUnsigned_eq_skipTail hspan hlead]
  exact skipTail_fraction hfraction hexponent hrest

theorem Unsigned.head {cs : List Char} (h : Unsigned cs) :
    ∃ d ds, cs = d :: ds ∧ d.isDigit = true := by
  obtain ⟨hlead, -, -, -⟩ := h
  rename_i lead fraction exponent
  rcases lead with _ | ⟨d, ds⟩
  · exact absurd rfl hlead.1
  · exact ⟨d, ds ++ fraction ++ exponent, by simp, hlead.2 d (by simp)⟩

/-! ## Values -/

/-- What a text may be: a value, the items of an array, or the members of an object. -/
inductive Part where
  | value
  | items
  | members

/-- The texts of JSON. Blanks stand around the items of an array, and around the names and the
values of an object; a value itself begins and ends with no blank. -/
inductive Written : Part → List Char → Prop
  | null : Written .value ['n', 'u', 'l', 'l']
  | true : Written .value ['t', 'r', 'u', 'e']
  | false : Written .value ['f', 'a', 'l', 's', 'e']
  | number {cs : List Char} (h : Unsigned cs) : Written .value cs
  | negative {cs : List Char} (h : Unsigned cs) : Written .value ('-' :: cs)
  | string {cs : List Char} (h : Quotable cs) : Written .value ('"' :: cs ++ ['"'])
  | emptyArray {b : List Char} (hb : Blanks b) : Written .value ('[' :: b ++ [']'])
  | array {cs : List Char} (h : Written .items cs) : Written .value ('[' :: cs ++ [']'])
  | emptyObject {b : List Char} (hb : Blanks b) : Written .value ('{' :: b ++ ['}'])
  | object {cs : List Char} (h : Written .members cs) : Written .value ('{' :: cs ++ ['}'])
  | item {b v b' : List Char} (hb : Blanks b) (hv : Written .value v) (hb' : Blanks b') :
      Written .items (b ++ v ++ b')
  | items {b v b' cs : List Char} (hb : Blanks b) (hv : Written .value v) (hb' : Blanks b')
      (h : Written .items cs) : Written .items (b ++ v ++ b' ++ ',' :: cs)
  | member {b name b' d v d' : List Char} (hb : Blanks b) (hname : Quotable name)
      (hb' : Blanks b') (hd : Blanks d) (hv : Written .value v) (hd' : Blanks d') :
      Written .members (b ++ '"' :: name ++ '"' :: b' ++ ':' :: d ++ v ++ d')
  | members {b name b' d v d' cs : List Char} (hb : Blanks b) (hname : Quotable name)
      (hb' : Blanks b') (hd : Blanks d) (hv : Written .value v) (hd' : Blanks d')
      (h : Written .members cs) :
      Written .members (b ++ '"' :: name ++ '"' :: b' ++ ':' :: d ++ v ++ d' ++ ',' :: cs)

/-- How a text is skipped: a value with a bound above its length, and the parts of a container with
any such bounds up to the closing character. -/
def Skips : Part → List Char → Prop
  | .value, cs => ∀ n rest, cs.length ≤ n → Stops rest → skipWithin (n + 1) (cs ++ rest) = .ok rest
  | .items, cs => ∀ n m rest, cs.length ≤ n → cs.length ≤ m →
      skipParts (skipWithin (n + 1)) ']' (m + 1) (cs ++ ']' :: rest) = .ok rest
  | .members, cs => ∀ n m rest, cs.length ≤ n → cs.length ≤ m →
      skipParts (fun cs => do skipWithin (n + 1) (← skipName cs)) '}' (m + 1) (cs ++ '}' :: rest) =
        .ok rest

/-! ## Skipping -/

theorem skipWithin_of_blank {b : List Char} (hb : Blanks b) (n : Nat) (cs : List Char) :
    skipWithin n (b ++ cs) = skipWithin n cs := by
  cases n with
  | zero => rfl
  | succ n => rw [skipWithin, skipWithin, skipBlank_append hb]

/-- A value begins with a character that neither is blank nor closes a container. -/
theorem Written.head {cs : List Char} (h : Written .value cs) :
    ∃ c cs', cs = c :: cs' ∧ isBlank c = Bool.false ∧ c ≠ ']' := by
  cases h with
  | null => exact ⟨'n', _, rfl, rfl, by decide⟩
  | true => exact ⟨'t', _, rfl, rfl, by decide⟩
  | false => exact ⟨'f', _, rfl, rfl, by decide⟩
  | negative h => exact ⟨'-', _, rfl, rfl, by decide⟩
  | string h => exact ⟨'"', _, rfl, rfl, by decide⟩
  | emptyArray hb => exact ⟨'[', _, rfl, rfl, by decide⟩
  | array h => exact ⟨'[', _, rfl, rfl, by decide⟩
  | emptyObject hb => exact ⟨'{', _, rfl, rfl, by decide⟩
  | object h => exact ⟨'{', _, rfl, rfl, by decide⟩
  | number h =>
    obtain ⟨d, ds, rfl, hd⟩ := h.head
    refine ⟨d, ds, rfl, not_blank_of_digit hd, ?_⟩
    rintro rfl
    exact absurd hd (by decide)

theorem skipWithin_unsigned {cs rest : List Char} (h : Unsigned cs) (hrest : Stops rest) (n : Nat) :
    skipWithin (n + 1) (cs ++ rest) = .ok rest := by
  have hskip := skipUnsigned_append h hrest
  obtain ⟨d, ds, rfl, hd⟩ := h.head
  rw [List.cons_append] at hskip ⊢
  rw [skipWithin, skipBlank_of_not_blank (not_blank_of_digit hd)]
  split
  case h_9 c cs' _ _ _ _ _ _ _ heq =>
    cases heq
    rw [if_pos hd]
    exact hskip
  all_goals
    rename_i heq
    cases heq
    try exact absurd hd (by decide)

theorem skipParts_last {part : List Char → Except ReadError (List Char)} {close : Char} {n : Nat}
    {cs b rest : List Char} (hpart : part cs = .ok (b ++ close :: rest)) (hb : Blanks b)
    (hclose : isBlank close = Bool.false) (hcomma : close ≠ ',') :
    skipParts part close (n + 1) cs = .ok rest := by
  rw [skipParts, hpart]
  simp only [bind, Except.bind]
  rw [skipBlank_append hb, skipBlank_of_not_blank hclose]
  split
  · rename_i heq
    cases heq
  · rename_i heq
    exact absurd (List.cons.inj heq).1 hcomma
  · rename_i heq
    cases heq
    exact if_pos rfl

theorem skipParts_comma {part : List Char → Except ReadError (List Char)} {close : Char} {n : Nat}
    {cs b rest : List Char} (hpart : part cs = .ok (b ++ ',' :: rest)) (hb : Blanks b) :
    skipParts part close (n + 1) cs = skipParts part close n rest := by
  rw [skipParts, hpart]
  simp only [bind, Except.bind]
  rw [skipBlank_append hb, skipBlank_of_not_blank rfl]
  rfl

theorem skipContainer_empty {part : List Char → Except ReadError (List Char)} {close : Char}
    {b rest : List Char} (hb : Blanks b) (hclose : isBlank close = Bool.false) :
    skipContainer part close (b ++ close :: rest) = .ok rest := by
  rw [skipContainer, skipBlank_append hb, skipBlank_of_not_blank hclose]
  exact if_pos rfl

theorem skipContainer_parts {part : List Char → Except ReadError (List Char)} {close c : Char}
    {cs cs' : List Char} (hcs : skipBlank cs = c :: cs') (hc : c ≠ close) :
    skipContainer part close cs = skipParts part close (cs.length + 1) cs := by
  rw [skipContainer, hcs]
  exact if_neg hc

theorem expectChar_append {b : List Char} {c : Char} (hb : Blanks b) (hc : isBlank c = Bool.false)
    (rest : List Char) : expectChar c (b ++ c :: rest) = .ok rest := by
  rw [expectChar, skipBlank_append hb, skipBlank_of_not_blank hc]
  exact if_pos rfl

theorem skipName_append {b name b' : List Char} (hb : Blanks b) (hname : Quotable name)
    (hb' : Blanks b') (rest : List Char) :
    skipName (b ++ '"' :: (name ++ '"' :: (b' ++ ':' :: rest))) = .ok rest := by
  rw [skipName, expectChar_append hb rfl]
  simp only [bind, Except.bind]
  rw [skipQuoted_quotable hname]
  exact expectChar_append hb' rfl rest

theorem Written.items_head {cs : List Char} (h : Written .items cs) (rest : List Char) :
    ∃ c cs', skipBlank (cs ++ rest) = c :: cs' ∧ c ≠ ']' := by
  cases h with
  | item hb hv hb' =>
    obtain ⟨c, cs', rfl, hblank, hc⟩ := hv.head
    simp only [List.append_assoc, List.cons_append, skipBlank_append hb]
    exact ⟨c, _, skipBlank_of_not_blank hblank _, hc⟩
  | items hb hv hb' h =>
    obtain ⟨c, cs', rfl, hblank, hc⟩ := hv.head
    simp only [List.append_assoc, List.cons_append, skipBlank_append hb]
    exact ⟨c, _, skipBlank_of_not_blank hblank _, hc⟩

theorem Written.members_head {cs : List Char} (h : Written .members cs) (rest : List Char) :
    ∃ c cs', skipBlank (cs ++ rest) = c :: cs' ∧ c ≠ '}' := by
  cases h with
  | member hb hname hb' hd hv hd' =>
    simp only [List.append_assoc, List.cons_append, skipBlank_append hb]
    exact ⟨'"', _, rfl, by decide⟩
  | members hb hname hb' hd hv hd' h =>
    simp only [List.append_assoc, List.cons_append, skipBlank_append hb]
    exact ⟨'"', _, rfl, by decide⟩

theorem skipMember_append {b name b' d v rest : List Char} {n : Nat} (hb : Blanks b)
    (hname : Quotable name) (hb' : Blanks b') (hd : Blanks d) (hv : Skips .value v)
    (hn : v.length ≤ n) (hrest : Stops rest) :
    (do skipWithin (n + 1) (← skipName (b ++ '"' :: (name ++ '"' :: (b' ++ ':' ::
      (d ++ (v ++ rest))))))) = .ok rest := by
  rw [skipName_append hb hname hb']
  simp only [bind, Except.bind]
  rw [skipWithin_of_blank hd]
  exact hv n rest hn hrest

/-- Every text is skipped: the induction is on the grammar, a container uses up one of the bound for
its own level and one for every part. -/
theorem Written.skips {p : Part} {cs : List Char} (h : Written p cs) : Skips p cs := by
  induction h with
  | null =>
    intro n rest _ _
    rfl
  | true =>
    intro n rest _ _
    rfl
  | false =>
    intro n rest _ _
    rfl
  | number h =>
    intro n rest _ hrest
    exact skipWithin_unsigned h hrest n
  | negative h =>
    intro n rest _ hrest
    exact skipUnsigned_append h hrest
  | string h =>
    intro n rest _ _
    have hskip := skipQuoted_quotable h rest
    simp only [List.cons_append, List.append_assoc, List.nil_append]
    exact hskip
  | emptyArray hb =>
    intro n rest _ _
    simp only [List.cons_append, List.append_assoc, List.nil_append]
    exact skipContainer_empty hb rfl
  | array h ih =>
    intro n rest hn _
    simp only [List.cons_append, List.length_cons, List.length_append, List.length_nil] at hn
    obtain ⟨n, rfl⟩ : ∃ k, n = k + 1 := ⟨n - 1, by omega⟩
    obtain ⟨c, cs', hhead, hc⟩ := h.items_head (']' :: rest)
    simp only [List.cons_append, List.append_assoc, List.nil_append]
    exact (skipContainer_parts hhead hc).trans (ih _ _ rest (by omega) (by simp))
  | emptyObject hb =>
    intro n rest _ _
    simp only [List.cons_append, List.append_assoc, List.nil_append]
    exact skipContainer_empty hb rfl
  | object h ih =>
    intro n rest hn _
    simp only [List.cons_append, List.length_cons, List.length_append, List.length_nil] at hn
    obtain ⟨n, rfl⟩ : ∃ k, n = k + 1 := ⟨n - 1, by omega⟩
    obtain ⟨c, cs', hhead, hc⟩ := h.members_head ('}' :: rest)
    simp only [List.cons_append, List.append_assoc, List.nil_append]
    exact (skipContainer_parts hhead hc).trans (ih _ _ rest (by omega) (by simp))
  | item hb hv hb' ih => 
    intro n m rest hn hm
    simp only [List.length_append] at hn
    refine skipParts_last ?_ hb' rfl (by decide)
    simp only [List.append_assoc]
    rw [skipWithin_of_blank hb]
    exact ih _ _ (by omega) (stops_blanks_append hb' (stops_bracket rest))
  | items hb hv hb' h ihv ih =>
    intro n m rest hn hm
    simp only [List.length_append, List.length_cons] at hn hm
    obtain ⟨m, rfl⟩ : ∃ k, m = k + 1 := ⟨m - 1, by omega⟩
    refine (skipParts_comma ?_ hb').trans (ih _ _ rest (by omega) (by omega))
    simp only [List.append_assoc, List.cons_append]
    rw [skipWithin_of_blank hb]
    exact ihv _ _ (by omega) (stops_blanks_append hb' (stops_comma _))
  | member hb hname hb' hd hv hd' ih =>
    intro n m rest hn hm
    simp only [List.length_append, List.length_cons] at hn
    refine skipParts_last ?_ hd' rfl (by decide)
    simp only [List.append_assoc, List.cons_append]
    exact skipMember_append hb hname hb' hd ih (by omega)
      (stops_blanks_append hd' (stops_brace rest))
  | members hb hname hb' hd hv hd' h ihv ih =>
    intro n m rest hn hm
    simp only [List.length_append, List.length_cons] at hn hm
    obtain ⟨m, rfl⟩ : ∃ k, m = k + 1 := ⟨m - 1, by omega⟩
    refine (skipParts_comma ?_ hd').trans (ih _ _ rest (by omega) (by omega))
    simp only [List.append_assoc, List.cons_append]
    exact skipMember_append hb hname hb' hd ihv (by omega)
      (stops_blanks_append hd' (stops_comma _))

theorem skipValue_written {b cs rest : List Char} (hb : Blanks b) (h : Written .value cs)
    (hrest : Stops rest) : skipValue (b ++ (cs ++ rest)) = .ok rest := by
  rw [skipValue, skipWithin_of_blank hb]
  refine h.skips _ rest ?_ hrest
  simp only [List.length_append]
  omega

end BoomWalker.Json
