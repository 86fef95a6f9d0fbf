/-
Readers end where the value ends.

A reader of a certain shape may refuse a value. If it does not, then it takes the value whole and
leaves what follows (`Exact`), as the reader that skips it would. So a record of exact fields is
exact, whether it stands as an object or as an array.
-/
import BoomWalker.Json.Record
import BoomWalker.Proofs.Json.Skipping

namespace BoomWalker.Json

/-- A reader that passes over blanks, and if it accepts a value leaves what follows it. -/
structure Exact {β : Type} (read : Reader β) : Prop where
  blanks : ∀ {b : List Char} (_ : Blanks b) (cs : List Char), read (b ++ cs) = read cs
  leaves : ∀ {v rest : List Char} {x : β} {r : List Char}, Written .value v → Stops rest →
    read (v ++ rest) = .ok (x, r) → r = rest

/-- A reader stays exact if what it read is put somewhere. -/
theorem Exact.map {β γ : Type} {read : Reader β} (h : Exact read) (put : β → γ) :
    Exact (fun cs => (do
      let (b, rest) ← read cs
      .ok (put b, rest) : Except ReadError (γ × List Char))) := by
  refine ⟨fun hb cs => by rw [h.blanks hb], ?_⟩
  intro v rest x r hv hrest hread
  obtain ⟨⟨b, r'⟩, hx, hput⟩ := of_bind_eq_ok hread
  cases hput
  exact h.leaves hv hrest hx

/-! ## Numbers -/

variable {coefficient : Nat} {e : Int} {x : Float} {r rest : List Char}

theorem readMagnitude_exact {negative : Bool} {ds : List Char} (hds : DigitRun ds)
    (hrest : NoDigit rest) (h : readMagnitude coefficient e negative (ds ++ rest) = .ok (x, r)) :
    r = rest := by
  have hspan := spanDigits_of_digits hds.2 hrest
  rcases ds with _ | ⟨d, ds⟩
  · exact absurd rfl hds.1
  rw [readMagnitude_of_span hspan] at h
  obtain ⟨x, -, hx⟩ := of_map_eq_ok h
  exact (Prod.mk.inj hx).2.symm

theorem readExponent_exact {sign ds : List Char}
    (hsign : sign = [] ∨ sign = ['+'] ∨ sign = ['-']) (hds : DigitRun ds) (hrest : NoDigit rest)
    (h : readExponent coefficient e (sign ++ ds ++ rest) = .ok (x, r)) : r = rest := by
  rcases ds with _ | ⟨d, ds⟩
  · exact absurd rfl hds.1
  have hd : d ≠ '+' ∧ d ≠ '-' := by
    have hdigit := hds.2 d (by simp)
    constructor <;> rintro rfl <;> exact absurd hdigit (by decide)
  rcases hsign with rfl | rfl | rfl
  · rw [List.nil_append, List.cons_append, readExponent_unsigned hd.1 hd.2] at h
    exact readMagnitude_exact hds hrest h
  · rw [List.singleton_append, List.cons_append, readExponent_plus] at h
    exact readMagnitude_exact hds hrest h
  · rw [List.singleton_append, List.cons_append, readExponent_minus] at h
    exact readMagnitude_exact hds hrest h

theorem readScale_exact {cs : List Char} (hcs : Exponent cs) (hrest : Stops rest)
    (h : readScale coefficient e (cs ++ rest) = .ok (x, r)) : r = rest := by
  cases hcs with
  | absent =>
    rw [List.nil_append, readScale_unscaled hrest.unscaled] at h
    obtain ⟨x, -, hx⟩ := of_map_eq_ok h
    exact (Prod.mk.inj hx).2.symm
  | present hletter hsign hds =>
    rcases hletter with rfl | rfl <;> exact readExponent_exact hsign hds hrest.noDigit h

theorem readFraction_exact {ds exponent : List Char} (hds : DigitRun ds)
    (hexponent : Exponent exponent) (hrest : Stops rest)
    (h : readFraction coefficient e (ds ++ (exponent ++ rest)) = .ok (x, r)) : r = rest := by
  have hspan := spanDigits_of_digits hds.2 (hexponent.append_noDigit hrest).1
  rcases ht : takeCoefficient coefficient ds with ⟨c, taken, left⟩
  simp only [readFraction, hspan, ht] at h
  split at h
  · split at h <;> cases h
  · exact readScale_exact hexponent hrest h

theorem map_signedReal_exact {negative : Bool} {v : Numeral}
    {read : Except ReadError (Float × List Char)}
    (hread : ∀ {x r}, read = .ok (x, r) → r = rest)
    (h : read.map (signedReal negative) = .ok (v, r)) : r = rest := by
  obtain ⟨⟨x, r'⟩, hx, hsigned⟩ := of_map_eq_ok h
  cases hsigned
  exact hread hx

theorem readTail_exact {negative : Bool} {d : Char} {ds fraction exponent : List Char} {v : Numeral}
    (hfraction : Fraction fraction) (hexponent : Exponent exponent) (hrest : Stops rest)
    (h : readTail negative d ds (fraction ++ (exponent ++ rest)) = .ok (v, r)) : r = rest := by
  cases hfraction with
  | present hds => exact map_signedReal_exact (readFraction_exact hds hexponent hrest) h
  | absent =>
    rw [List.nil_append] at h
    cases hexponent with
    | present hletter hsign hds =>
      rcases hletter with rfl | rfl <;>
        exact map_signedReal_exact (readExponent_exact hsign hds hrest.noDigit) h
    | absent =>
      rw [List.nil_append, readTail_whole hrest.no_point hrest.unscaled, readWhole] at h
      split_ifs at h
      · exact map_signedReal_exact (readScale_exact .absent hrest) h
      all_goals
        cases h
        rfl

theorem readUnsigned_exact {negative : Bool} {cs : List Char} {v : Numeral} (hcs : Unsigned cs)
    (hrest : Stops rest) (h : readUnsigned negative (cs ++ rest) = .ok (v, r)) : r = rest := by
  obtain ⟨d, ds, fraction, exponent, hspan, hlead, hfraction, hexponent⟩ := hcs.span hrest
  rw [readUnsigned_eq_readTail hspan hlead] at h
  exact readTail_exact hfraction hexponent hrest h

theorem readNumeral_exact : Exact readNumeral := by
  refine ⟨fun hb cs => by rw [readNumeral, readNumeral, skipBlank_append hb], ?_⟩
  intro v rest n r hv hrest h
  cases hv with
  | null => cases h
  | true => cases h
  | false => cases h
  | negative hcs => exact readUnsigned_exact hcs hrest h
  | string hcs => cases h
  | emptyArray hb => cases h
  | array hcs => cases h
  | emptyObject hb => cases h
  | object hcs => cases h
  | number hcs =>
    refine @readUnsigned_exact r rest false v n hcs hrest ?_
    obtain ⟨d, ds, rfl, hd⟩ := hcs.head
    rw [List.cons_append, readNumeral_of_digit hd] at h
    exact h

theorem readReal_exact : Exact readReal := by
  refine ⟨fun hb cs => by rw [readReal, readReal, readNumeral_exact.blanks hb], ?_⟩
  intro v rest x r hv hrest h
  obtain ⟨⟨n, r'⟩, hn, h⟩ := of_bind_eq_ok h
  have hr := readNumeral_exact.leaves hv hrest hn
  cases n <;> cases h <;> exact hr

theorem readNatural_exact (max : Nat) : Exact (readNatural max) := by
  refine ⟨fun hb cs => by rw [readNatural, readNatural, readNumeral_exact.blanks hb], ?_⟩
  intro v rest n r hv hrest h
  obtain ⟨⟨n, r'⟩, hn, h⟩ := of_bind_eq_ok h
  have hr := readNumeral_exact.leaves hv hrest hn
  cases n with
  | natural n =>
    simp only at h
    split_ifs at h
    cases h
    exact hr
  | negative n => cases h
  | real x => cases h

theorem readBool_exact : Exact readBool := by
  refine ⟨fun hb cs => by rw [readBool, readBool, skipBlank_append hb], ?_⟩
  intro v rest b r hv hrest h
  cases hv with
  | null => cases h
  | true => cases h; rfl
  | false => cases h; rfl
  | negative hcs => cases h
  | string hcs => cases h
  | emptyArray hb => cases h
  | array hcs => cases h
  | emptyObject hb => cases h
  | object hcs => cases h
  | number hcs =>
    obtain ⟨d, ds, rfl, hd⟩ := hcs.head
    rw [List.cons_append, readBool, skipBlank_of_not_blank (not_blank_of_digit hd)] at h
    split at h
    · rename_i heq
      cases heq
      exact absurd hd (by decide)
    · rename_i heq
      cases heq
      exact absurd hd (by decide)
    · cases h

/-! ## Strings -/

theorem map_cons_exact {c : Char} {read : Except ReadError (List Char × List Char)}
    {text : List Char} (hread : ∀ {text}, read = .ok (text, r) → r = rest)
    (h : (read.map fun p => (c :: p.1, p.2)) = .ok (text, r)) : r = rest := by
  cases hx : read with
  | error err => simp [hx, Except.map] at h
  | ok p =>
    simp only [hx, Except.map, Except.ok.injEq, Prod.mk.injEq] at h
    obtain ⟨-, rfl⟩ := h
    exact hread hx

theorem readLow_exact {hi : Nat} {cs : List Char} {c : Char} (hcs : Quotable cs)
    (h : readLow hi (cs ++ '"' :: rest) = .ok (c, r)) :
    ∃ cs', Quotable cs' ∧ r = cs' ++ '"' :: rest := by
  cases hcs with
  | nil => cases h
  | plain hc hcs =>
    obtain ⟨-, hslash, -⟩ := hc
    unfold readLow at h
    split at h
    · cases h
    · cases h
    · rename_i heq
      exact absurd (List.cons.inj heq).1 hslash
    · cases h
  | letter he hcs =>
    unfold readLow at h
    split at h
    · cases h
    · cases h
    · rename_i heq
      cases heq
      cases he
    · cases h
  | code hcode hcs =>
    simp only [List.cons_append, List.append_assoc] at h
    rw [readLow_unicode hcode] at h
    split_ifs at h
    -- The codes are too large to be unfolded, so the equation is taken apart by injectivity.
    exact ⟨_, hcs, (Prod.mk.inj (Except.ok.inj h)).2.symm⟩

/-- The second half of a pair is taken with the first. -/
theorem readUnicode_exact {code cs : List Char} {n : Nat} {c : Char} (hcode : HexCode code n)
    (hcs : Quotable cs) (h : readUnicode (code ++ (cs ++ '"' :: rest)) = .ok (c, r)) :
    ∃ cs', Quotable cs' ∧ r = cs' ++ '"' :: rest := by
  rw [readUnicode_eq_readLow hcode] at h
  split_ifs at h with hlow hscalar
  · cases h
    exact ⟨cs, hcs, rfl⟩
  · exact readLow_exact hcs h

theorem readQuotedWithin_exact {n : Nat} {cs text : List Char} (hcs : Quotable cs)
    (h : readQuotedWithin n (cs ++ '"' :: rest) = .ok (text, r)) : r = rest := by
  induction n generalizing cs text with
  | zero => cases h
  | succ n ih =>
    cases hcs with
    | nil =>
      cases h
      rfl
    | plain hc hcs =>
      rw [List.cons_append, readQuotedWithin_plain hc] at h
      exact map_cons_exact (ih hcs) h
    | letter he hcs =>
      rw [List.cons_append, List.cons_append, readQuotedWithin_letter he] at h
      exact map_cons_exact (ih hcs) h
    | code hcode hcs =>
      rename_i code cs k
      simp only [List.cons_append, List.append_assoc] at h
      have hquoted := h
      rw [readQuotedWithin] at hquoted
      obtain ⟨⟨c, after⟩, hx, -⟩ := of_bind_eq_ok hquoted
      obtain ⟨cs', hcs', rfl⟩ := readUnicode_exact hcode hcs hx
      rw [readQuotedWithin_unicode hx] at h
      exact map_cons_exact (ih hcs') h

theorem readQuoted_exact {cs : List Char} {s : String} (hcs : Quotable cs)
    (h : readQuoted (cs ++ '"' :: rest) = .ok (s, r)) : r = rest := by
  obtain ⟨⟨text, r'⟩, hx, htext⟩ := of_bind_eq_ok h
  cases htext
  exact readQuotedWithin_exact hcs hx

end BoomWalker.Json
