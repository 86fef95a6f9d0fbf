/-
The writer writes JSON.

A number is laid out from the digits of the shortest decimal, which are never none
(`shortest_digits_ne_zero`), so it has digits before and after its point and in its exponent
(`unsigned_numeralMagnitude`). Everything else follows the grammar by its form (`written_write`).
-/
import BoomWalker.Proofs.Json.Skipping

namespace BoomWalker

open Decimal Json

/-! ## The digits of numbers -/

namespace Decimal

theorem strip_go_ne_zero {n : Nat} (h : n ≠ 0) (e : Int) (fuel : Nat) :
    (Dec.strip.go n e fuel).digits ≠ 0 := by
  induction fuel generalizing n e with
  | zero => exact h
  | succ fuel ih =>
    rw [Dec.strip.go]
    split_ifs with hzero
    · exact ih (by omega) _
    · exact h

/-- Zero reads back to no positive value. -/
theorem Binary.readsBack_ne_zero {x : Binary} {d : Dec} (hx : x.m ≠ 0)
    (h : x.readsBack d = true) : d.digits ≠ 0 := by
  intro hzero
  have hlow : compareScaled 0 d.exp (if x.narrowBelow then 4 * x.m - 1 else 4 * x.m - 2)
      (x.q - 2) = .lt := by
    have hpos : 0 < (if x.narrowBelow = true then 4 * x.m - 1 else 4 * x.m - 2) := by
      split <;> omega
    have hscaled := Nat.mul_pos (Nat.mul_pos hpos (Nat.pow_pos (n := (x.q - 2).toNat) two_pos))
      (Nat.pow_pos (n := (-d.exp).toNat) (a := 10) (by decide))
    rw [compareScaled, Nat.zero_mul, Nat.zero_mul, Nat.compare_eq_lt]
    exact hscaled
  simp [readsBack, hzero, hlow] at h

theorem Binary.onGrid_ne_zero {x : Binary} {n : Nat} {d : Dec} (hx : x.m ≠ 0)
    (h : x.onGrid n = some d) : d.digits ≠ 0 := by
  have hback : x.readsBack d = true := by
    unfold onGrid at h
    grind
  exact readsBack_ne_zero hx hback

theorem Binary.shortest_digits_ne_zero {x : Binary} (hx : x.m ≠ 0) : x.shortest.digits ≠ 0 := by
  unfold shortest
  split
  · rename_i d hd
    obtain ⟨i, -, hi⟩ := List.exists_of_findSome?_eq_some hd
    exact strip_go_ne_zero (onGrid_ne_zero hx hi) _ _
  · refine strip_go_ne_zero ?_ _ _
    exact Nat.mul_ne_zero (Nat.mul_ne_zero hx (Nat.pow_pos two_pos).ne')
      (Nat.pow_pos (by decide)).ne'

end Decimal

namespace Json

theorem digitRun_toDigits (n : Nat) : DigitRun (Nat.toDigits 10 n) :=
  ⟨Nat.toDigits_ne_nil, fun _ hd => Nat.isDigit_of_mem_toDigits (by decide) le_rfl hd⟩

theorem digitRun_zero : DigitRun ['0'] := digitRun_toDigits 0

theorem DigitRun.append {ds es : List Char} (hds : DigitRun ds)
    (hes : ∀ e ∈ es, e.isDigit = Bool.true) : DigitRun (ds ++ es) := by
  refine ⟨by simp [hds.1], fun d hd => ?_⟩
  rcases List.mem_append.mp hd with h | h
  · exact hds.2 d h
  · exact hes d h

theorem isDigit_of_mem_zeros {n : Nat} : ∀ d ∈ List.replicate n '0', d.isDigit = Bool.true := by
  intro d hd
  rw [List.eq_of_mem_replicate hd]
  rfl

/-- The digits of a decimal that is not zero. -/
def Leading (digits : List Char) : Prop := DigitRun digits ∧ digits.head? ≠ some '0'

theorem leading_digitsOf {n : Nat} (h : n ≠ 0) : Leading (digitsOf n) := by
  rw [digitsOf, if_neg h]
  exact ⟨digitRun_toDigits n, fun hzero => h (eq_zero_of_head_toDigits hzero)⟩

theorem unsigned_point {lead fraction : List Char} (hlead : DigitRun lead)
    (hzero : lead.head? = some '0' → lead = ['0']) (hfraction : DigitRun fraction) :
    Unsigned (lead ++ '.' :: fraction) := by
  simpa using Unsigned.mk hlead hzero (.present hfraction) .absent

theorem contains_point_of_digits {ds : List Char} (h : ∀ d ∈ ds, d.isDigit = Bool.true) :
    ds.contains '.' = Bool.false := by
  rw [List.contains_eq_mem, decide_eq_false_iff_not]
  intro hpoint
  exact absurd (h _ hpoint) (by decide)

/-- Digits laid out positionally, with a fraction after all if there was none. -/
theorem unsigned_positional {digits : List Char} (h : Leading digits) (point : Int) :
    Unsigned (if (positional digits point).contains '.' then positional digits point
      else positional digits point ++ ['.', '0']) := by
  obtain ⟨hdigits, hhead⟩ := h
  by_cases hpoint : point ≤ 0
  · have hlayout : positional digits point =
        ['0'] ++ '.' :: (List.replicate (-point).toNat '0' ++ digits) := by
      simp [positional, hpoint]
    rw [hlayout, if_pos (by simp)]
    refine unsigned_point digitRun_zero (fun _ => rfl) ⟨by simp [hdigits.1], ?_⟩
    intro d hd
    rcases List.mem_append.mp hd with hzero | hdigit
    · exact isDigit_of_mem_zeros d hzero
    · exact hdigits.2 d hdigit
  by_cases hlength : digits.length ≤ point.toNat
  · have hlayout : positional digits point =
        digits ++ List.replicate (point.toNat - digits.length) '0' := by
      simp [positional, hpoint, hlength]
    have hrun := hdigits.append (isDigit_of_mem_zeros (n := point.toNat - digits.length))
    rw [hlayout, if_neg (by rw [contains_point_of_digits hrun.2]; decide)]
    refine unsigned_point hrun (fun hzero => ?_) digitRun_zero
    rw [List.head?_append_of_ne_nil _ hdigits.1] at hzero
    exact absurd hzero hhead
  · have hlayout : positional digits point =
        digits.take point.toNat ++ '.' :: digits.drop point.toNat := by
      simp [positional, hpoint, hlength]
    have htake : digits.take point.toNat ≠ [] := by
      rw [ne_eq, List.take_eq_nil_iff]
      rintro (hzero | hnil)
      · omega
      · exact hdigits.1 hnil
    rw [hlayout, if_pos (by simp)]
    refine unsigned_point ⟨htake, fun d hd => hdigits.2 d (List.mem_of_mem_take hd)⟩
      (fun hzero => ?_) ⟨?_, fun d hd => hdigits.2 d (List.mem_of_mem_drop hd)⟩
    · rw [← List.head?_append_of_ne_nil _ htake, List.take_append_drop] at hzero
      exact absurd hzero hhead
    · rw [ne_eq, List.drop_eq_nil_iff]
      exact hlength

theorem exponent_exponentText (e : Int) : Exponent ('e' :: exponentText e) := by
  cases e with
  | ofNat n =>
    have htext : exponentText (Int.ofNat n) = Nat.toDigits 10 n := by
      simp [exponentText, toString, Int.repr]
    rw [htext]
    exact @Exponent.present 'e' [] _ (.inl rfl) (.inl rfl) (digitRun_toDigits n)
  | negSucc n =>
    have htext : exponentText (Int.negSucc n) = '-' :: Nat.toDigits 10 (n + 1) := by
      simp [exponentText, toString, Int.repr]
    rw [htext]
    exact @Exponent.present 'e' ['-'] _ (.inl rfl) (.inr (.inr rfl)) (digitRun_toDigits (n + 1))

theorem unsigned_zero : Unsigned ['0', '.', '0'] :=
  @unsigned_point ['0'] ['0'] digitRun_zero (fun _ => rfl) digitRun_zero

theorem unsigned_numeralMagnitude (x : Binary) : Unsigned (numeralMagnitude x) := by
  unfold numeralMagnitude
  by_cases hzero : x.m = 0
  · rw [if_pos hzero]
    exact unsigned_zero
  rw [if_neg hzero]
  have hdigits := leading_digitsOf (Binary.shortest_digits_ne_zero hzero)
  simp only
  by_cases hexponent : x.shortest.exp + (digitsOf x.shortest.digits).length - 1 < -5 ∨
      15 < x.shortest.exp + (digitsOf x.shortest.digits).length - 1
  · rw [if_pos hexponent]
    have hrest := exponent_exponentText (x.shortest.exp + (digitsOf x.shortest.digits).length - 1)
    rcases hds : digitsOf x.shortest.digits with _ | ⟨c, cs⟩
    · exact absurd hds hdigits.1.1
    rw [hds] at hdigits hrest
    have hc : DigitRun [c] ∧ ([c].head? = some '0' → [c] = ['0']) :=
      ⟨⟨by simp, by simpa using hdigits.1.2 c (by simp)⟩, fun h => absurd h hdigits.2⟩
    rcases cs with _ | ⟨c', cs⟩
    · exact .mk hc.1 hc.2 .absent hrest
    · exact .mk hc.1 hc.2 (.present ⟨by simp, fun d hd => hdigits.1.2 d (by simp [hd])⟩) hrest
  · rw [if_neg hexponent]
    exact unsigned_positional hdigits _

/-! ## Values -/

theorem unsigned_toDigits (n : Nat) : Unsigned (Nat.toDigits 10 n) := by
  have hzero : (Nat.toDigits 10 n).head? = some '0' → Nat.toDigits 10 n = ['0'] := by
    intro h
    rw [eq_zero_of_head_toDigits h]
    exact Nat.toDigits_zero 10
  simpa using Unsigned.mk (digitRun_toDigits n) hzero .absent .absent

theorem written_writeInt (n : Int) : Written .value (writeInt n) := by
  unfold writeInt
  split_ifs
  · exact .negative (unsigned_toDigits _)
  · exact .number (unsigned_toDigits _)

theorem written_writeReal (x : Float) : Written .value (writeReal x) := by
  unfold writeReal
  split_ifs
  · exact .null
  unfold numeral
  split_ifs
  · exact .negative (unsigned_numeralMagnitude _)
  · exact .number (unsigned_numeralMagnitude _)

theorem Spells.quotable {cs text : List Char} (h : Spells cs text) : Quotable cs := by
  induction h with
  | nil => exact .nil
  | plain hc h ih => exact .plain hc ih
  | letter he h ih => exact .letter he ih
  | code hcode hn h ih => exact .code hcode ih
  | pair hhigh hlow hhi hlo h ih =>
    rw [List.append_assoc]
    exact .code hhigh (.code hlow ih)

theorem written_writeQuoted (s : String) : Written .value (writeQuoted s) :=
  .string (spells_escape s.toList).quotable

theorem readBool_write (b : Bool) (rest : List Char) :
    readBool ((Json.bool b).write ++ rest) = .ok (b, rest) := by
  cases b <;> rfl

/-- What the rest of an array or an object is in the grammar: its end, or a comma and parts. -/
def WrittenRest (p : Part) (close : Char) (text : List Char) : Prop :=
  text = [close] ∨ ∃ cs, Written p cs ∧ text = ',' :: cs ++ [close]

theorem written_item {v text : List Char} (hv : Written .value v)
    (h : WrittenRest .items ']' text) : ∃ cs, Written .items cs ∧ v ++ text = cs ++ [']'] := by
  obtain rfl | ⟨cs, hcs, rfl⟩ := h
  · exact ⟨[] ++ v ++ [], .item blanks_nil hv blanks_nil, by simp⟩
  · exact ⟨[] ++ v ++ [] ++ ',' :: cs, .items blanks_nil hv blanks_nil hcs, by simp⟩

theorem written_member {key v text : List Char} (hkey : Quotable key) (hv : Written .value v)
    (h : WrittenRest .members '}' text) :
    ∃ cs, Written .members cs ∧ '"' :: (key ++ '"' :: ':' :: v) ++ text = cs ++ ['}'] := by
  obtain rfl | ⟨cs, hcs, rfl⟩ := h
  · exact ⟨_, .member blanks_nil hkey blanks_nil blanks_nil hv blanks_nil, by simp⟩
  · exact ⟨_, .members blanks_nil hkey blanks_nil blanks_nil hv blanks_nil hcs, by simp⟩

theorem writeQuoted_colon (name : String) (v : List Char) :
    writeQuoted name ++ ':' :: v = '"' :: (name.toList.flatMap escape ++ '"' :: ':' :: v) := by
  simp [writeQuoted]

mutual

theorem written_write : ∀ v : Json, Written .value v.write
  | .null => .null
  | .bool Bool.true => .true
  | .bool Bool.false => .false
  | .int n => written_writeInt n
  | .real x => written_writeReal x
  | .str s => written_writeQuoted s
  | .arr [] => .emptyArray blanks_nil
  | .arr (v :: vs) => by
    obtain ⟨cs, hcs, htext⟩ := written_item (written_write v) (written_writeItems vs)
    have hwrite : (Json.arr (v :: vs)).write = '[' :: cs ++ [']'] := by
      rw [write, List.cons_append, htext, List.cons_append]
    rw [hwrite]
    exact .array hcs
  | .obj [] => .emptyObject blanks_nil
  | .obj ((name, v) :: fields) => by
    obtain ⟨cs, hcs, htext⟩ := written_member (spells_escape name.toList).quotable
      (written_write v) (written_writeMembers fields)
    have hwrite : (Json.obj ((name, v) :: fields)).write = '{' :: cs ++ ['}'] := by
      rw [write, List.cons_append, List.cons_append, writeQuoted_colon, htext, List.cons_append]
    rw [hwrite]
    exact .object hcs

theorem written_writeItems : ∀ vs : List Json, WrittenRest .items ']' (writeItems vs)
  | [] => .inl rfl
  | v :: vs => by
    obtain ⟨cs, hcs, htext⟩ := written_item (written_write v) (written_writeItems vs)
    exact .inr ⟨cs, hcs, by rw [writeItems, List.cons_append, htext, List.cons_append]⟩

theorem written_writeMembers :
    ∀ fields : List (String × Json), WrittenRest .members '}' (writeMembers fields)
  | [] => .inl rfl
  | (name, v) :: fields => by
    obtain ⟨cs, hcs, htext⟩ := written_member (spells_escape name.toList).quotable
      (written_write v) (written_writeMembers fields)
    exact .inr ⟨cs, hcs, by
      rw [writeMembers, List.cons_append, List.cons_append, writeQuoted_colon, htext,
        List.cons_append]⟩

end

end Json

end BoomWalker
