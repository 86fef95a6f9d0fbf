/-
Numbers in the midst of a text.

A reader of numbers looks at no more of a text than the number and one character after it. So a
numeral that is read on its own is read alike in front of anything that cannot continue it
(`readNumeral_append`). Whether a real number comes back from its own numeral is a matter of two
approximations, of the digits that are written and of the powers of ten that are multiplied in
again, and is left as a property of the number: `ReadsBack`.
-/
import BoomWalker.Decimal.Plain
import BoomWalker.Json.Reader
import BoomWalker.Json.Writer
import Mathlib.Data.List.Basic
import Mathlib.Data.List.TakeDrop
import Mathlib.Data.List.TakeWhile

namespace BoomWalker.Json

/-- The text ends, or goes on with a character that cannot continue a number. -/
def Stops : List Char → Prop
  | [] => True
  | c :: _ => c.isDigit = false ∧ c ≠ '.' ∧ c ≠ 'e' ∧ c ≠ 'E'

theorem stops_comma (rest : List Char) : Stops (',' :: rest) :=
  ⟨rfl, by decide, by decide, by decide⟩

theorem stops_bracket (rest : List Char) : Stops (']' :: rest) :=
  ⟨rfl, by decide, by decide, by decide⟩

theorem stops_brace (rest : List Char) : Stops ('}' :: rest) :=
  ⟨rfl, by decide, by decide, by decide⟩

/-! ## Digits -/

/-- The text goes on with no digit. -/
def NoDigit (cs : List Char) : Prop := ∀ c ∈ cs.head?, c.isDigit = false

theorem Stops.noDigit {cs : List Char} (h : Stops cs) : NoDigit cs := by
  rcases cs with _ | ⟨c, cs⟩
  · rintro c ⟨⟩
  · rintro c ⟨⟩
    exact h.1

theorem spanDigits_append (cs : List Char) {rest : List Char} (h : NoDigit rest) :
    spanDigits (cs ++ rest) = ((spanDigits cs).1, (spanDigits cs).2 ++ rest) := by
  simp only [spanDigits, List.span_eq_takeWhile_dropWhile]
  induction cs with
  | nil =>
    cases rest with
    | nil => rfl
    | cons c rest => simp [h c rfl]
  | cons c cs ih =>
    cases hc : c.isDigit with
    | false => simp [hc]
    | true => simpa [hc] using ih

theorem spanDigits_of_digits {ds : List Char} (hds : ∀ d ∈ ds, d.isDigit = true)
    {rest : List Char} (h : NoDigit rest) : spanDigits (ds ++ rest) = (ds, rest) := by
  have hall : spanDigits ds = (ds, []) := by
    rw [spanDigits, List.span_eq_takeWhile_dropWhile, List.takeWhile_eq_self_iff.2 hds,
      List.dropWhile_eq_nil_iff.mpr hds]
  rw [spanDigits_append ds h, hall, List.nil_append]

/-! ## Results -/

section Results

variable {ε β γ : Type}

theorem of_bind_eq_ok {x : Except ε β} {f : β → Except ε γ} {c : γ} (h : (x >>= f) = .ok c) :
    ∃ b, x = .ok b ∧ f b = .ok c := by
  cases x with
  | error e => cases h
  | ok b => exact ⟨b, rfl, h⟩

theorem of_map_eq_ok {x : Except ε β} {f : β → γ} {c : γ} (h : x.map f = .ok c) :
    ∃ b, x = .ok b ∧ f b = c := by
  cases x with
  | error e => cases h
  | ok b => exact ⟨b, rfl, Except.ok.inj h⟩

/-- What is read with a rest of the text is read with that rest continued. -/
theorem map_rest_append {x : Except ε β} {b : β} {cs r : List Char}
    (h : (x.map fun b => (b, cs)) = .ok (b, r)) (rest : List Char) :
    (x.map fun b => (b, cs ++ rest)) = .ok (b, r ++ rest) := by
  obtain ⟨b, rfl, hb⟩ := of_map_eq_ok h
  cases hb
  rfl

end Results

/-! ## Exponents and fractions -/

variable {coefficient : Nat} {e : Int} {cs r rest : List Char} {x : Float}

/-- An exponent after its letter and its sign. -/
def readMagnitude (coefficient : Nat) (e : Int) (negative : Bool) (cs : List Char) :
    Except ReadError (Float × List Char) :=
  match spanDigits cs with
  | ([], []) => .error .endOfText
  | ([], _ :: _) => .error .malformed
  | (digits, rest) =>
    match exponentValue? digits with
    | some x => do .ok (← scaled coefficient (if negative then e - x else e + x), rest)
    | none =>
      if coefficient ≠ 0 ∧ ¬ negative then .error .malformed else .ok (0, rest)

theorem readExponent_plus (cs : List Char) :
    readExponent coefficient e ('+' :: cs) = readMagnitude coefficient e false cs := rfl

theorem readExponent_minus (cs : List Char) :
    readExponent coefficient e ('-' :: cs) = readMagnitude coefficient e true cs := rfl

theorem readExponent_unsigned {c : Char} (hplus : c ≠ '+') (hminus : c ≠ '-') (cs : List Char) :
    readExponent coefficient e (c :: cs) = readMagnitude coefficient e false (c :: cs) := by
  unfold readExponent readMagnitude
  split
  rename_i negative cs' hsign
  split at hsign
  · rename_i heq
    exact absurd (List.cons.inj heq).1 hplus
  · rename_i heq
    exact absurd (List.cons.inj heq).1 hminus
  · cases hsign
    rfl

/-- A coefficient scaled by an exponent, which is given by its sign and its digits. -/
def magnitude (coefficient : Nat) (e : Int) (negative : Bool) (digits : List Char) :
    Except ReadError Float :=
  match exponentValue? digits with
  | some x => scaled coefficient (if negative then e - x else e + x)
  | none => if coefficient ≠ 0 ∧ ¬ negative then .error .malformed else .ok 0

theorem readMagnitude_of_span {negative : Bool} {d : Char} {ds : List Char}
    (h : spanDigits cs = (d :: ds, rest)) :
    readMagnitude coefficient e negative cs =
      (magnitude coefficient e negative (d :: ds)).map fun x => (x, rest) := by
  simp only [readMagnitude, h, magnitude]
  cases exponentValue? (d :: ds) with
  | none =>
    simp only
    split <;> rfl
  | some v =>
    simp only
    cases scaled coefficient (if negative = true then e - v else e + v) <;> rfl

theorem readMagnitude_append {negative : Bool}
    (h : readMagnitude coefficient e negative cs = .ok (x, r)) (hrest : Stops rest) :
    readMagnitude coefficient e negative (cs ++ rest) = .ok (x, r ++ rest) := by
  rcases hs : spanDigits cs with ⟨_ | ⟨d, ds⟩, after⟩
  · rcases after with _ | ⟨c, after⟩ <;> simp [readMagnitude, hs] at h
  · have happ : spanDigits (cs ++ rest) = (d :: ds, after ++ rest) := by
      rw [spanDigits_append cs hrest.noDigit, hs]
    rw [readMagnitude_of_span hs] at h
    rw [readMagnitude_of_span happ]
    exact map_rest_append h rest

theorem readExponent_append (h : readExponent coefficient e cs = .ok (x, r)) (hrest : Stops rest) :
    readExponent coefficient e (cs ++ rest) = .ok (x, r ++ rest) := by
  rcases cs with _ | ⟨c, cs⟩
  · cases h
  by_cases hplus : c = '+'
  · subst hplus
    rw [readExponent_plus] at h
    rw [List.cons_append, readExponent_plus]
    exact readMagnitude_append h hrest
  by_cases hminus : c = '-'
  · subst hminus
    rw [readExponent_minus] at h
    rw [List.cons_append, readExponent_minus]
    exact readMagnitude_append h hrest
  rw [readExponent_unsigned hplus hminus] at h
  rw [List.cons_append, readExponent_unsigned hplus hminus]
  exact readMagnitude_append h hrest

/-- A number goes on after its digits with neither letter of an exponent. -/
def Unscaled (cs : List Char) : Prop := cs.head? ≠ some 'e' ∧ cs.head? ≠ some 'E'

theorem Stops.unscaled (h : Stops cs) : Unscaled cs := by
  rcases cs with _ | ⟨c, cs⟩
  · exact ⟨by simp, by simp⟩
  · exact ⟨by simpa using h.2.2.1, by simpa using h.2.2.2⟩

theorem Stops.no_point (h : Stops cs) : cs.head? ≠ some '.' := by
  rcases cs with _ | ⟨c, cs⟩
  · simp
  · simpa using h.2.1

theorem unscaled_or (cs : List Char) :
    Unscaled cs ∨ ∃ rest, cs = 'e' :: rest ∨ cs = 'E' :: rest := by
  rcases cs with _ | ⟨c, cs⟩
  · exact .inl ⟨by simp, by simp⟩
  by_cases he : c = 'e'
  · exact .inr ⟨cs, .inl (by rw [he])⟩
  by_cases hE : c = 'E'
  · exact .inr ⟨cs, .inr (by rw [hE])⟩
  exact .inl ⟨by simpa using he, by simpa using hE⟩

theorem readScale_unscaled (h : Unscaled cs) :
    readScale coefficient e cs = (scaled coefficient e).map fun x => (x, cs) := by
  unfold readScale
  split
  · exact absurd rfl h.1
  · exact absurd rfl h.2
  · cases scaled coefficient e <;> rfl

theorem readScale_append (h : readScale coefficient e cs = .ok (x, r)) (hrest : Stops rest) :
    readScale coefficient e (cs ++ rest) = .ok (x, r ++ rest) := by
  rcases unscaled_or cs with hcs | ⟨cs, rfl | rfl⟩
  · have happ : Unscaled (cs ++ rest) := by
      cases cs with
      | nil => exact hrest.unscaled
      | cons c cs => exact hcs
    rw [readScale_unscaled hcs] at h
    rw [readScale_unscaled happ]
    exact map_rest_append h rest
  · exact readExponent_append h hrest
  · exact readExponent_append h hrest

theorem readFraction_append (h : readFraction coefficient e cs = .ok (x, r)) (hrest : Stops rest) :
    readFraction coefficient e (cs ++ rest) = .ok (x, r ++ rest) := by
  rcases hs : spanDigits cs with ⟨ds, after⟩
  have happ : spanDigits (cs ++ rest) = (ds, after ++ rest) := by
    rw [spanDigits_append cs hrest.noDigit, hs]
  rcases ht : takeCoefficient coefficient ds with ⟨c, taken, left⟩
  simp only [readFraction, hs, ht] at h
  simp only [readFraction, happ, ht]
  split at h
  · split at h <;> cases h
  · rename_i hsome
    rw [if_neg hsome]
    exact readScale_append h hrest

/-! ## Numbers -/

/-- A real number with the sign that was read before it. -/
def signedReal (negative : Bool) (p : Float × List Char) : Numeral × List Char :=
  (.real (if negative then -p.1 else p.1), p.2)

theorem bind_signedReal (negative : Bool) (v : Except ReadError (Float × List Char)) :
    (do let (x, rest) ← v; .ok (.real (if negative then -x else x), rest)) =
      v.map (signedReal negative) := by
  cases v <;> rfl

theorem map_signedReal_append {negative : Bool} {v : Numeral}
    {read : List Char → Except ReadError (Float × List Char)}
    (hread : ∀ {x r}, read cs = .ok (x, r) → read (cs ++ rest) = .ok (x, r ++ rest))
    (h : (read cs).map (signedReal negative) = .ok (v, r)) :
    (read (cs ++ rest)).map (signedReal negative) = .ok (v, r ++ rest) := by
  obtain ⟨⟨x, r'⟩, hx, hsigned⟩ := of_map_eq_ok h
  cases hsigned
  rw [hread hx]
  rfl

/-- A number without point and exponent, from its coefficient, the digits that were left over and
what follows. -/
def readWhole (negative : Bool) (c : Nat) (left rest : List Char) :
    Except ReadError (Numeral × List Char) :=
  if left ≠ [] then (readScale c left.length rest).map (signedReal negative)
  else if ¬ negative then .ok (.natural c, rest)
  else if c = 0 ∨ 9223372036854775808 < c then .ok (.real (-(Float.ofNat c)), rest)
  else .ok (.negative (-(c : Int)), rest)

theorem readWhole_append {negative : Bool} {c : Nat} {left : List Char} {v : Numeral}
    (h : readWhole negative c left cs = .ok (v, r)) (hrest : Stops rest) :
    readWhole negative c left (cs ++ rest) = .ok (v, r ++ rest) := by
  unfold readWhole at h ⊢
  split at h
  · rename_i hleft
    rw [if_pos hleft]
    exact map_signedReal_append (readScale_append · hrest) h
  · rename_i hleft
    rw [if_neg hleft]
    grind

/-- A number from its leading digits `d :: ds` and what follows them. -/
def readTail (negative : Bool) (d : Char) (ds rest : List Char) :
    Except ReadError (Numeral × List Char) :=
  let (c, _, left) := takeCoefficient 0 (d :: ds)
  match rest with
  | '.' :: rest => (readFraction c left.length rest).map (signedReal negative)
  | 'e' :: rest => (readExponent c left.length rest).map (signedReal negative)
  | 'E' :: rest => (readExponent c left.length rest).map (signedReal negative)
  | _ => readWhole negative c left rest

theorem readUnsigned_eq_readTail {negative : Bool} {d : Char} {ds : List Char}
    (hs : spanDigits cs = (d :: ds, rest)) (hlead : d = '0' → ds = []) :
    readUnsigned negative cs = readTail negative d ds rest := by
  simp only [readUnsigned, bind_signedReal, readTail, readWhole]
  rw [hs]
  split
  · simp_all
  · simp_all
  · simp_all
  · rename_i heq
    cases heq
    rfl

theorem readTail_whole {negative : Bool} {d : Char} {ds : List Char}
    (hpoint : rest.head? ≠ some '.') (hrest : Unscaled rest) :
    readTail negative d ds rest = readWhole negative (takeCoefficient 0 (d :: ds)).1
      (takeCoefficient 0 (d :: ds)).2.2 rest := by
  simp only [readTail]
  split
  · exact absurd rfl hpoint
  · exact absurd rfl hrest.1
  · exact absurd rfl hrest.2
  · rfl

theorem readTail_append {negative : Bool} {d : Char} {ds : List Char} {v : Numeral}
    (h : readTail negative d ds cs = .ok (v, r)) (hrest : Stops rest) :
    readTail negative d ds (cs ++ rest) = .ok (v, r ++ rest) := by
  by_cases hpoint : cs.head? = some '.'
  · obtain ⟨cs, rfl⟩ := List.head?_eq_some_iff.mp hpoint
    exact map_signedReal_append (readFraction_append · hrest) h
  rcases unscaled_or cs with hcs | ⟨cs, rfl | rfl⟩
  · have happ : (cs ++ rest).head? ≠ some '.' ∧ Unscaled (cs ++ rest) := by
      rcases cs with _ | ⟨c, cs⟩
      · exact ⟨hrest.no_point, hrest.unscaled⟩
      · exact ⟨hpoint, hcs⟩
    rw [readTail_whole hpoint hcs] at h
    rw [readTail_whole happ.1 happ.2]
    exact readWhole_append h hrest
  · exact map_signedReal_append (readExponent_append · hrest) h
  · exact map_signedReal_append (readExponent_append · hrest) h

theorem readUnsigned_append {negative : Bool} {v : Numeral}
    (h : readUnsigned negative cs = .ok (v, r)) (hrest : Stops rest) :
    readUnsigned negative (cs ++ rest) = .ok (v, r ++ rest) := by
  rcases hs : spanDigits cs with ⟨_ | ⟨d, ds⟩, after⟩
  · rcases after with _ | ⟨c, after⟩ <;> simp [readUnsigned, hs] at h
  have happ : spanDigits (cs ++ rest) = (d :: ds, after ++ rest) := by
    rw [spanDigits_append cs hrest.noDigit, hs]
  have hlead : d = '0' → ds = [] := by
    rintro rfl
    rcases ds with _ | ⟨d', ds⟩
    · rfl
    · simp [readUnsigned, hs] at h
  rw [readUnsigned_eq_readTail hs hlead] at h
  rw [readUnsigned_eq_readTail happ hlead]
  exact readTail_append h hrest

theorem not_blank_of_digit {c : Char} (h : c.isDigit = true) : isBlank c = false := by
  by_contra hc
  simp only [isBlank, decide_eq_false_iff_not, not_not] at hc
  rcases hc with rfl | rfl | rfl | rfl <;> exact absurd h (by decide)

theorem readNumeral_of_digit {c : Char} (h : c.isDigit = true) (cs : List Char) :
    readNumeral (c :: cs) = readUnsigned false (c :: cs) := by
  have hc : c ≠ '-' := by
    rintro rfl
    exact absurd h (by decide)
  rw [readNumeral, skipBlank, List.dropWhile_cons_of_neg (by simp [not_blank_of_digit h])]
  split
  · rename_i heq
    exact absurd (List.cons.inj heq).1 hc
  · rename_i heq
    cases heq
    rw [if_pos h]
  · rename_i heq
    cases heq

theorem readNumeral_append {v : Numeral} (h : readNumeral cs = .ok (v, r)) (hrest : Stops rest) :
    readNumeral (cs ++ rest) = .ok (v, r ++ rest) := by
  unfold readNumeral at h ⊢
  rcases hs : skipBlank cs with _ | ⟨c, after⟩
  · simp [hs] at h
  have happ : skipBlank (cs ++ rest) = c :: (after ++ rest) := by
    simp only [skipBlank] at hs ⊢
    rw [List.dropWhile_append, hs]
    rfl
  rw [hs] at h
  rw [happ]
  by_cases hminus : c = '-'
  · subst hminus
    exact readUnsigned_append h hrest
  have hdigit : c.isDigit = true := by
    by_contra hc
    split at h
    · simp_all
    · rename_i heq
      cases heq
      simp [hc] at h
    · cases h
  simp only [hdigit, if_true] at h ⊢
  exact readUnsigned_append h hrest

/-! ## Integers -/

theorem le_foldl_push (coefficient : Nat) (ds : List Char) :
    coefficient ≤ ds.foldl Digits.push coefficient := by
  induction ds generalizing coefficient with
  | nil => exact le_rfl
  | cons d ds ih =>
    have hpush : coefficient ≤ Digits.push coefficient d := by
      unfold Digits.push
      omega
    exact hpush.trans (ih _)

theorem takeCoefficient_of_le {ds : List Char}
    (h : ds.foldl Digits.push coefficient ≤ maxCoefficient) :
    takeCoefficient coefficient ds = (ds.foldl Digits.push coefficient, ds.length, []) := by
  induction ds generalizing coefficient with
  | nil => rfl
  | cons d ds ih =>
    have hfit : Digits.push coefficient d ≤ maxCoefficient := (le_foldl_push _ ds).trans h
    simp only [takeCoefficient, if_pos hfit, ih h, List.foldl_cons, List.length_cons]

theorem toNat_toDigits (n : Nat) : Digits.toNat (Nat.toDigits 10 n) = n := by
  have hfold : ∀ ds : List Char, Digits.toNat ds = Nat.ofDigitChars 10 ds 0 := by
    intro ds
    rw [Nat.ofDigitChars_eq_foldl, Digits.toNat]
    congr 1
    funext acc c
    rw [Digits.push, Nat.mul_comm]
  rw [hfold, Nat.ofDigitChars_ten_toDigits]

/-- Only zero has a numeral that begins with a zero. -/
theorem eq_zero_of_head_toDigits {n : Nat} (h : (Nat.toDigits 10 n).head? = some '0') : n = 0 := by
  induction n using Nat.strongRecOn with
  | ind n ih =>
    rcases Nat.lt_or_ge n 10 with hn | hn
    · rw [Nat.toDigits_of_lt_base hn] at h
      simpa using h
    · rw [Nat.toDigits_of_base_le (by decide) hn,
        List.head?_append_of_ne_nil _ Nat.toDigits_ne_nil] at h
      have := ih (n / 10) (by omega) h
      omega

theorem readUnsigned_toDigits {n : Nat} (hn : n ≤ Word.max64) (hrest : Stops rest) :
    readUnsigned false (Nat.toDigits 10 n ++ rest) = .ok (.natural n, rest) := by
  have hdigits : ∀ d ∈ Nat.toDigits 10 n, d.isDigit = true := fun d hd =>
    Nat.isDigit_of_mem_toDigits (by decide) le_rfl hd
  have hspan := spanDigits_of_digits hdigits hrest.noDigit
  have hvalue := toNat_toDigits n
  have hzero : (Nat.toDigits 10 n).head? = some '0' → Nat.toDigits 10 n = ['0'] := by
    intro h
    rw [eq_zero_of_head_toDigits h]
    exact Nat.toDigits_zero 10
  rcases hds : Nat.toDigits 10 n with _ | ⟨d, ds⟩
  · exact absurd hds Nat.toDigits_ne_nil
  rw [hds] at hspan hvalue hzero
  have hlead : d = '0' → ds = [] := by
    rintro rfl
    exact (List.cons.inj (hzero rfl)).2
  have htake : takeCoefficient 0 (d :: ds) = (n, ds.length + 1, []) := by
    have hfit : (d :: ds).foldl Digits.push 0 ≤ maxCoefficient := hvalue.trans_le hn
    rw [takeCoefficient_of_le hfit]
    exact congrArg (·, ds.length + 1, []) hvalue
  rw [readUnsigned_eq_readTail hspan hlead, readTail_whole hrest.no_point hrest.unscaled, htake]
  rfl

theorem readNumeral_toDigits {n : Nat} (hn : n ≤ Word.max64) (hrest : Stops rest) :
    readNumeral (Nat.toDigits 10 n ++ rest) = .ok (.natural n, rest) := by
  have hread := readUnsigned_toDigits hn hrest
  have hdigits : ∀ d ∈ Nat.toDigits 10 n, d.isDigit = true := fun d hd =>
    Nat.isDigit_of_mem_toDigits (by decide) le_rfl hd
  rcases hds : Nat.toDigits 10 n with _ | ⟨d, ds⟩
  · exact absurd hds Nat.toDigits_ne_nil
  rw [hds] at hread hdigits
  rw [List.cons_append] at hread ⊢
  exact (readNumeral_of_digit (hdigits d (by simp)) _).trans hread

theorem readNatural_writeInt {max n : Nat} (hmax : max ≤ Word.max64) (hn : n ≤ max)
    (hrest : Stops rest) : readNatural max (writeInt n ++ rest) = .ok (n, rest) := by
  have hwrite : writeInt n = Nat.toDigits 10 n := by
    rw [writeInt, if_neg (by omega), Int.natAbs_natCast]
  rw [hwrite, readNatural, readNumeral_toDigits (hn.trans hmax) hrest]
  exact if_pos hn

/-! ## Real numbers -/

/-- The number comes back from its own numeral. -/
def ReadsBack (x : Float) : Prop := readNumeral (Decimal.numeral x) = .ok (.real x, [])

/-- The number is written as a numeral. -/
def HasNumeral (x : Float) : Prop := (x.isNaN || x.isInf) = false

instance (x : Float) : Decidable (HasNumeral x) := inferInstanceAs (Decidable (_ = false))

theorem writeReal_of_hasNumeral (h : HasNumeral x) : writeReal x = Decimal.numeral x := by
  rw [writeReal, h]
  rfl

theorem writeReal_of_not_hasNumeral (h : ¬ HasNumeral x) : writeReal x = ['n', 'u', 'l', 'l'] := by
  rw [writeReal, if_pos (eq_true_of_ne_false h)]

theorem readNumeral_writeReal (hx : HasNumeral x) (hback : ReadsBack x) (hrest : Stops rest) :
    readNumeral (writeReal x ++ rest) = .ok (.real x, rest) := by
  rw [writeReal_of_hasNumeral hx]
  exact readNumeral_append hback hrest

theorem readReal_writeReal (hx : HasNumeral x) (hback : ReadsBack x) (hrest : Stops rest) :
    readReal (writeReal x ++ rest) = .ok (x, rest) := by
  rw [readReal, readNumeral_writeReal hx hback hrest]
  rfl

/-- A number is not read where a word stands that is written for no number. -/
theorem readReal_writeReal_null (hx : ¬ HasNumeral x) :
    readReal (writeReal x ++ rest) = .error .mismatch := by
  rw [writeReal_of_not_hasNumeral hx]
  rfl

end BoomWalker.Json
