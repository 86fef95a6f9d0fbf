/-
Narrowing rounds to the nearest word, and to the even one of two that are as near.

Magnitudes are compared as whole numbers of the smallest positive binary64 value, of which every
finite value of either format has a whole number. The words of 32 bits are numbered by their bits in
the order of their magnitudes, and the word of the infinite magnitude counts as the number that
would come after the largest finite one.

The rounded digits are the nearest multiple of the unit. That they are the nearest word is shown for
an exponent without a bound first: a word with a smaller unit is below every multiple with all its
digits. The bound then only takes the infinite word in place of those beyond it.
-/
import BoomWalker.Proofs.Fieldbus.Singles

namespace BoomWalker

namespace Decimal

/-- Of numbered values, the one with the number `k` is nearest to `x`, and if another is as near, `k`
is even. -/
structure Nearest (value : Nat → Nat) (x k : Nat) : Prop where
  le (j : Nat) : Nat.dist x (value k) ≤ Nat.dist x (value j)
  even (j : Nat) : Nat.dist x (value j) = Nat.dist x (value k) → value j = value k ∨ k % 2 = 0

/-- Rounding goes down, or up, or from the middle to the even neighbour. -/
theorem roundDiv_cases (n d : Nat) :
    (2 * (n % d) < d ∧ roundDiv n d .toEven = n / d) ∨
      (d < 2 * (n % d) ∧ roundDiv n d .toEven = n / d + 1) ∨
      (2 * (n % d) = d ∧ roundDiv n d .toEven % 2 = 0 ∧
        (roundDiv n d .toEven = n / d ∨ roundDiv n d .toEven = n / d + 1)) := by
  unfold roundDiv
  dsimp only
  cases hcompare : compare (2 * (n % d)) d with
  | lt => exact .inl ⟨Nat.compare_eq_lt.mp hcompare, rfl⟩
  | gt => exact .inr (.inl ⟨Nat.compare_eq_gt.mp hcompare, rfl⟩)
  | eq =>
    refine .inr (.inr ⟨Nat.compare_eq_eq.mp hcompare, ?_⟩)
    dsimp only
    split <;> omega

/-- Division rounds to the nearest multiple. -/
theorem roundDiv_nearest (n : Nat) {d : Nat} (hd : 0 < d) :
    Nearest (· * d) n (roundDiv n d .toEven) := by
  have hdiv : n = n / d * d + n % d := (Nat.div_add_mod' n d).symm
  have hrem : n % d < d := Nat.mod_lt n hd
  have hnext : (n / d + 1) * d = n / d * d + d := Nat.succ_mul _ _
  -- A multiple is at most the one below `n` or at least the one above it.
  have hsides : ∀ j : Nat, j * d ≤ n / d * d ∨ n / d * d + d ≤ j * d := by
    intro j
    obtain hj | hj := Nat.lt_or_ge (n / d) j
    · rw [← hnext]
      exact .inr (Nat.mul_le_mul_right d hj)
    · exact .inl (Nat.mul_le_mul_right d hj)
  obtain ⟨hlt, hdown⟩ | ⟨hgt, hup⟩ | ⟨htie, heven, hround⟩ := roundDiv_cases n d
  · rw [hdown]
    refine ⟨fun j => ?_, fun j heq => .inl ?_⟩
    · have hj := hsides j
      simp only [Nat.dist]
      omega
    · have hj := hsides j
      simp only [Nat.dist] at heq
      omega
  · rw [hup]
    refine ⟨fun j => ?_, fun j heq => .inl ?_⟩
    · have hj := hsides j
      simp only [Nat.dist]
      omega
    · have hj := hsides j
      simp only [Nat.dist] at heq
      omega
  · -- Both neighbours of the middle are as near.
    refine ⟨fun j => ?_, fun j _ => .inr heven⟩
    have hj := hsides j
    simp only [Nat.dist]
    obtain hround | hround := hround
    · rw [hround]
      omega
    · rw [hround]
      omega

/-- A value that is met is nearest. -/
theorem Nearest.of_eq {value : Nat → Nat} {x k : Nat} (h : value k = x) : Nearest value x k := by
  refine ⟨fun j => ?_, fun j heq => .inl ?_⟩
  · rw [h, Nat.dist_self]
    exact Nat.zero_le _
  · rw [h, Nat.dist_self] at heq
    exact (Nat.eq_of_dist_eq_zero heq).symm.trans h.symm

/-- The nearest multiple in a smaller unit. -/
theorem Nearest.mul_right {x d k : Nat} (h : Nearest (· * d) x k) {c : Nat} (hc : 0 < c) :
    Nearest (· * (d * c)) (x * c) k := by
  have hdist : ∀ j, Nat.dist (x * c) (j * (d * c)) = Nat.dist x (j * d) * c := by
    intro j
    rw [← Nat.mul_assoc, Nat.dist_mul_right]
  refine ⟨fun j => ?_, fun j heq => ?_⟩
  · rw [hdist, hdist]
    exact Nat.mul_le_mul_right c (h.le j)
  · rw [hdist, hdist] at heq
    refine (h.even j (Nat.eq_of_mul_eq_mul_right hc heq)).imp (fun hsame => ?_) id
    rw [← Nat.mul_assoc, ← Nat.mul_assoc]
    exact congrArg (· * c) hsame

end Decimal

namespace Single

open Decimal (Nearest)

/-! ## Magnitudes -/

/-- The unit of the last place of the words with the exponent field `t + 1`, in the smallest positive
binary64 value. -/
def ulp (t : Nat) : Nat := 2 ^ (t + 925)

/-- The magnitude with the bits `k`, in the smallest positive binary64 value. -/
def value (k : Nat) : Nat :=
  if k / 2 ^ 23 = 0 then k % 2 ^ 23 * ulp 0 else (2 ^ 23 + k % 2 ^ 23) * ulp (k / 2 ^ 23 - 1)

theorem ulp_succ (t : Nat) : ulp (t + 1) = 2 * ulp t := by
  unfold ulp
  rw [Nat.succ_add, Nat.pow_succ']

theorem ulp_add (s t : Nat) : ulp (s + t) = 2 ^ s * ulp t := by
  unfold ulp
  rw [Nat.add_assoc, Nat.pow_add]

/-- Digits in a unit are the bits of their number, also where they carry into the next unit. -/
theorem value_of_digits {d t : Nat} (hle : d ≤ 2 ^ 24) (hfull : t = 0 ∨ 2 ^ 23 ≤ d) :
    value (d + t * 2 ^ 23) = d * ulp t := by
  unfold value
  obtain hlow | hhigh := Nat.lt_or_ge d (2 ^ 23)
  · have ht : t = 0 := by omega
    have hexponent : (d + t * 2 ^ 23) / 2 ^ 23 = 0 := by omega
    have hfraction : (d + t * 2 ^ 23) % 2 ^ 23 = d := by omega
    rw [if_pos hexponent, hfraction, ht]
  · obtain hwithin | hcarry := Nat.lt_or_ge d (2 ^ 24)
    · have hexponent : (d + t * 2 ^ 23) / 2 ^ 23 = t + 1 := by omega
      have hfraction : 2 ^ 23 + (d + t * 2 ^ 23) % 2 ^ 23 = d := by omega
      rw [hexponent, if_neg (Nat.succ_ne_zero t), hfraction]
      rfl
    · have hexponent : (d + t * 2 ^ 23) / 2 ^ 23 = t + 2 := by omega
      have hfraction : (d + t * 2 ^ 23) % 2 ^ 23 = 0 := by omega
      have hd : d = 2 ^ 23 * 2 := by omega
      rw [hexponent, if_neg (Nat.succ_ne_zero _), hfraction, hd, Nat.mul_assoc, ← ulp_succ]
      rfl

/-- Every magnitude has digits in a unit. -/
theorem exists_digits (k : Nat) :
    ∃ d t, k = d + t * 2 ^ 23 ∧ d < 2 ^ 24 ∧ (t = 0 ∨ 2 ^ 23 ≤ d) := by
  obtain hlow | hhigh := Nat.lt_or_ge k (2 ^ 23)
  · exact ⟨k, 0, by omega, by omega, .inl rfl⟩
  · exact ⟨2 ^ 23 + k % 2 ^ 23, k / 2 ^ 23 - 1, by omega, by omega, .inr (by omega)⟩

/-- The words are in the order of their magnitudes. -/
theorem value_mono : Monotone value := by
  refine monotone_nat_of_le_succ fun k => ?_
  obtain ⟨d, t, rfl, hlt, hfull⟩ := exists_digits k
  have hnext : d + t * 2 ^ 23 + 1 = (d + 1) + t * 2 ^ 23 := by omega
  rw [hnext, value_of_digits hlt.le hfull, value_of_digits hlt (by omega)]
  exact Nat.mul_le_mul_right (ulp t) (Nat.le_succ d)

/-- Beside a unit, a magnitude is a multiple of it, or below every multiple with all digits. -/
theorem value_multiple_or (t k : Nat) :
    (∃ j, value k = j * ulp t) ∨ (0 < t ∧ value k ≤ 2 ^ 23 * ulp t) := by
  obtain ⟨d, s, rfl, hlt, hfull⟩ := exists_digits k
  obtain habove | hle := Nat.lt_or_ge s t
  · refine .inr ⟨by omega, ?_⟩
    rw [← value_of_digits (by decide) (.inr le_rfl)]
    exact value_mono (by omega)
  · refine .inl ⟨d * 2 ^ (s - t), ?_⟩
    rw [value_of_digits hlt.le hfull, Nat.mul_assoc, ← ulp_add, Nat.sub_add_cancel hle]

/-- Digits that are nearest among the multiples of their unit are nearest among all magnitudes. -/
theorem nearest_of_digits {x d t : Nat} (h : Nearest (· * ulp t) x d) (hle : d ≤ 2 ^ 24)
    (hfull : t = 0 ∨ (2 ^ 23 ≤ d ∧ 2 ^ 23 * ulp t ≤ x)) :
    Nearest value x (d + t * 2 ^ 23) := by
  have hvalue : value (d + t * 2 ^ 23) = d * ulp t :=
    value_of_digits hle (hfull.imp id And.left)
  have hparity : (d + t * 2 ^ 23) % 2 = d % 2 := by omega
  -- The least multiple with all digits is as near as any magnitude below it.
  have hleast := h.le (2 ^ 23)
  have hleastEven := h.even (2 ^ 23)
  simp only [Nat.dist] at hleast hleastEven
  refine ⟨fun k => ?_, fun k heq => ?_⟩
  · rw [hvalue]
    obtain ⟨j, hj⟩ | ⟨ht, hbelow⟩ := value_multiple_or t k
    · rw [hj]
      exact h.le j
    · simp only [Nat.dist]
      omega
  · rw [hvalue, hparity]
    rw [hvalue] at heq
    obtain ⟨j, hj⟩ | ⟨ht, hbelow⟩ := value_multiple_or t k
    · rw [hj] at heq ⊢
      exact h.even j heq
    · simp only [Nat.dist] at heq
      omega

/-! ## Narrowing -/

/-- The magnitude of a binary64 value, in the smallest positive one. -/
def size (b : Decimal.Binary) : Nat := b.m * 2 ^ (b.q + 1074).toNat

/-- The digits that narrowing keeps, with the exponent field `t` for their unit, before the exponent
is bounded. -/
structure Keeps (b : Decimal.Binary) (d t : Nat) : Prop where
  magnitude : magnitude b = min (d + t * 2 ^ 23) infinity
  nearest : Nearest (· * ulp t) (size b) d
  le : d ≤ 2 ^ 24
  full : t = 0 ∨ (2 ^ 23 ≤ d ∧ 2 ^ 23 * ulp t ≤ size b)

section Unit

variable {b : Decimal.Binary} {unit : Int}
  (hunit : max (b.m.log2 + b.q - 23) (-149) = unit)
include hunit

/-- The unit is no larger than that of the magnitude, and nothing is rounded. -/
theorem keeps_of_le (hzero : b.m = 0 → b.q ≤ -126) (hle : unit ≤ b.q) :
    Keeps b (b.m * 2 ^ (b.q - unit).toNat) (unit + 149).toNat := by
  have hmagnitude : magnitude b =
      min (b.m * 2 ^ (b.q - unit).toNat + (unit + 149).toNat * 2 ^ 23) infinity := by
    unfold magnitude
    simp only [hunit]
    rw [if_pos hle, Nat.pow_eq, Nat.pow_eq]
  have hexact : b.m * 2 ^ (b.q - unit).toNat * ulp (unit + 149).toNat = size b := by
    have hexponent : (b.q - unit).toNat + ((unit + 149).toNat + 925) = (b.q + 1074).toNat := by
      omega
    unfold size ulp
    rw [Nat.mul_assoc, ← Nat.pow_add, hexponent]
  have hlt : b.m * 2 ^ (b.q - unit).toNat < 2 ^ 24 := by
    calc b.m * 2 ^ (b.q - unit).toNat
        < 2 ^ (b.m.log2 + 1) * 2 ^ (b.q - unit).toNat :=
          Nat.mul_lt_mul_of_pos_right Nat.lt_log2_self (Nat.two_pow_pos _)
      _ = 2 ^ (b.m.log2 + 1 + (b.q - unit).toNat) := (Nat.pow_add ..).symm
      _ ≤ 2 ^ 24 := Nat.pow_le_pow_right (by decide) (by omega)
  refine ⟨hmagnitude, .of_eq hexact, hlt.le, ?_⟩
  obtain ht | ht := Nat.eq_zero_or_pos (unit + 149).toNat
  · exact .inl ht
  · have hne : b.m ≠ 0 := by
      intro h
      have hsmall := hzero h
      rw [h, Nat.log2_zero] at hunit
      omega
    have hfull : 2 ^ 23 ≤ b.m * 2 ^ (b.q - unit).toNat := by
      have hexponent : 23 = b.m.log2 + (b.q - unit).toNat := by omega
      rw [hexponent, Nat.pow_add]
      exact Nat.mul_le_mul_right _ (Nat.log2_self_le hne)
    refine .inr ⟨hfull, ?_⟩
    rw [← hexact]
    exact Nat.mul_le_mul_right _ hfull

/-- The unit is larger than that of the magnitude, and the digits below it are rounded off. -/
theorem keeps_of_lt (hq : -1074 ≤ b.q) (hlt : b.q < unit) :
    Keeps b (Decimal.roundDiv b.m (2 ^ (unit - b.q).toNat) .toEven) (unit + 149).toNat := by
  have hmagnitude : magnitude b =
      min (Decimal.roundDiv b.m (2 ^ (unit - b.q).toNat) .toEven +
        (unit + 149).toNat * 2 ^ 23) infinity := by
    unfold magnitude
    simp only [hunit]
    rw [if_neg (by omega), Nat.pow_eq, Nat.pow_eq]
  have hulp : ulp (unit + 149).toNat = 2 ^ (unit - b.q).toNat * 2 ^ (b.q + 1074).toNat := by
    have hexponent : (unit + 149).toNat + 925 = (unit - b.q).toNat + (b.q + 1074).toNat := by
      omega
    unfold ulp
    rw [hexponent, Nat.pow_add]
  have hpos := Nat.two_pow_pos (unit - b.q).toNat
  have hnearest : Nearest (· * ulp (unit + 149).toNat) (size b)
      (Decimal.roundDiv b.m (2 ^ (unit - b.q).toNat) .toEven) := by
    rw [hulp]
    exact (Decimal.roundDiv_nearest b.m hpos).mul_right (Nat.two_pow_pos _)
  have hbelow : b.m < 2 ^ 24 * 2 ^ (unit - b.q).toNat := by
    rw [← Nat.pow_add]
    exact Nat.lt_of_lt_of_le Nat.lt_log2_self (Nat.pow_le_pow_right (by decide) (by omega))
  have hquotient := (Nat.div_lt_iff_lt_mul hpos).mpr hbelow
  have hround := Decimal.roundDiv_cases b.m (2 ^ (unit - b.q).toNat)
  refine ⟨hmagnitude, hnearest, by omega, ?_⟩
  obtain ht | ht := Nat.eq_zero_or_pos (unit + 149).toNat
  · exact .inl ht
  · have hne : b.m ≠ 0 := by
      intro h
      rw [h, Nat.log2_zero] at hunit
      omega
    have habove : 2 ^ 23 * 2 ^ (unit - b.q).toNat ≤ b.m := by
      have hexponent : 23 + (unit - b.q).toNat = b.m.log2 := by omega
      rw [← Nat.pow_add, hexponent]
      exact Nat.log2_self_le hne
    have hleast := (Nat.le_div_iff_mul_le hpos).mpr habove
    refine .inr ⟨by omega, ?_⟩
    unfold size
    rw [hulp, ← Nat.mul_assoc]
    exact Nat.mul_le_mul_right _ habove

end Unit

/-- Some digits are kept of every magnitude. -/
theorem exists_keeps {b : Decimal.Binary} (hq : -1074 ≤ b.q) (hzero : b.m = 0 → b.q ≤ -126) :
    ∃ d t, Keeps b d t := by
  obtain hlt | hle := lt_or_ge b.q (max (b.m.log2 + b.q - 23) (-149))
  · exact ⟨_, _, keeps_of_lt rfl hq hlt⟩
  · exact ⟨_, _, keeps_of_le rfl hzero hle⟩

/-- The bound of the exponent takes the infinite word in place of all that would follow it. -/
theorem nearest_min {x k : Nat} (h : Nearest value x k) {j : Nat} (hj : j ≤ infinity) :
    Nat.dist x (value (min k infinity)) ≤ Nat.dist x (value j) ∧
      (Nat.dist x (value j) = Nat.dist x (value (min k infinity)) →
        value j = value (min k infinity) ∨ min k infinity % 2 = 0) := by
  obtain hle | hgt := Nat.le_total k infinity
  · rw [Nat.min_eq_left hle]
    exact ⟨h.le j, h.even j⟩
  · rw [Nat.min_eq_right hgt]
    -- What is nearer to a magnitude beyond than to the infinite one is no smaller than that.
    have hover := h.le infinity
    have hother := h.le j
    have hbelow := value_mono hj
    have habove := value_mono hgt
    refine ⟨?_, fun _ => .inr (by decide)⟩
    simp only [Nat.dist] at hover hother ⊢
    omega

/-! ## Words -/

/-- The bits of a word without its sign. -/
def bits (w : UInt32) : Nat := w.toNat % 2 ^ 31

theorem bits_eq_fields (w : UInt32) : bits w = exponent w * 2 ^ 23 + fraction w := by
  have hparts := toNat_eq_parts w
  have hexponent := exponent_lt w
  have hfraction := fraction_lt w
  unfold bits
  omega

theorem bits_le {w : UInt32} (h : ¬Undefined w) : bits w ≤ infinity := by
  have hexponent := exponent_lt w
  have hfraction := fraction_lt w
  unfold Undefined at h
  rw [bits_eq_fields, infinity_eq]
  omega

/-- The word that stands for a value on the wire: of all words it is the nearest to a finite value,
and the even one of two that are as near. -/
structure Rounds (x : Float) (w : UInt32) : Prop where
  undefined : Undefined w ↔ x.isNaN = true
  sign : ¬Undefined w → sign w = Binary64.sign x.toBits
  infinite : Binary64.exponent x.toBits = 0x7FF → Binary64.fraction x.toBits = 0 →
    bits w = infinity
  nearest : Binary64.exponent x.toBits ≠ 0x7FF → ∀ v, ¬Undefined v →
    Nat.dist (size (.ofBits x.toBits)) (value (bits w)) ≤
      Nat.dist (size (.ofBits x.toBits)) (value (bits v))
  even : Binary64.exponent x.toBits ≠ 0x7FF → ∀ v, ¬Undefined v →
    Nat.dist (size (.ofBits x.toBits)) (value (bits v)) =
        Nat.dist (size (.ofBits x.toBits)) (value (bits w)) →
      value (bits v) = value (bits w) ∨ w.toNat % 2 = 0

/-- A finite magnitude is narrowed to the nearest one. -/
theorem exists_nearest (b : UInt64) :
    ∃ k, Nearest value (size (.ofBits b)) k ∧
      magnitude (.ofBits b) = min k infinity := by
  have hbounds : -1074 ≤ (Decimal.Binary.ofBits b).q ∧
      ((Decimal.Binary.ofBits b).m = 0 → (Decimal.Binary.ofBits b).q ≤ -126) := by
    by_cases h : Binary64.exponent b = 0
    · rw [Decimal.Binary.ofBits_of_subnormal h]
      exact ⟨le_rfl, fun _ => show (-1074 : Int) ≤ -126 by decide⟩
    · obtain ⟨hm, hq⟩ := Decimal.Binary.ofBits_of_normal h
      omega
  obtain ⟨d, t, hkeeps⟩ := exists_keeps hbounds.1 hbounds.2
  exact ⟨_, nearest_of_digits hkeeps.nearest hkeeps.le hkeeps.full, hkeeps.magnitude⟩

theorem ofFloat_rounds (x : Float) : Rounds x (ofFloat x) := by
  have hundefined : Undefined (ofFloat x) ↔ x.isNaN = true := by
    rw [undefined_ofFloat_iff, Binary64.isNaN_iff]
  obtain ⟨k, hnearest, hmagnitude⟩ := exists_nearest x.toBits
  by_cases hones : Binary64.exponent x.toBits = 0x7FF
  · by_cases hzero : Binary64.fraction x.toBits = 0
    · have hword := toNat_ofFloat_of_infinite hones hzero
      obtain ⟨hsign, hbits, -⟩ := parts_of_toNat_eq le_rfl hword
      exact ⟨hundefined, fun _ => hsign, fun _ _ => hbits, fun h => absurd hones h,
        fun h => absurd hones h⟩
    · have hnan := (undefined_ofFloat_iff x).mpr ⟨hones, hzero⟩
      exact ⟨hundefined, fun h => absurd hnan h,
        fun _ h => absurd h hzero, fun h => absurd hones h, fun h => absurd hones h⟩
  · have hword := toNat_ofFloat_of_finite hones
    rw [hmagnitude] at hword
    obtain ⟨hsign, hbits, -⟩ := parts_of_toNat_eq (Nat.min_le_right _ _) hword
    have hbits : bits (ofFloat x) = min k infinity := hbits
    refine ⟨hundefined, fun _ => hsign, fun h => absurd h hones, fun _ v hv => ?_,
      fun _ v hv heq => ?_⟩
    · rw [hbits]
      exact (nearest_min hnearest (bits_le hv)).1
    · rw [hbits] at heq ⊢
      -- The sign does not change the last bit.
      refine ((nearest_min hnearest (bits_le hv)).2 heq).imp id fun heven => ?_
      omega

/-- A finite word is widened to its own magnitude. -/
theorem size_wide {w : UInt32} (h : exponent w ≠ 0xFF) :
    Binary64.sign (wide w) = sign w ∧ Binary64.exponent (wide w) ≠ 0x7FF ∧
      size (.ofBits (wide w)) = value (bits w) := by
  have hvalue := value_of_digits (t := (unit w + 149).toNat) (digits_lt w).le
    ((digits_ge_or w).symm.imp (fun hunit => by rw [hunit]; rfl) id)
  rw [digits_add_unit, ← bits_eq_fields] at hvalue
  rw [hvalue]
  obtain hundefined | ⟨hones, -⟩ | ⟨hempty, hnone⟩ | ⟨-, hpos⟩ := undefined_or w
  · exact absurd hundefined.1 h
  · exact absurd hones h
  · obtain ⟨hsign, hexponent, hfraction⟩ := wide_of_zero hempty hnone
    have hdigits : digits w = 0 := (if_pos hempty).trans hnone
    refine ⟨hsign, by rw [hexponent]; decide, ?_⟩
    rw [Decimal.Binary.ofBits_of_subnormal hexponent, hfraction, hdigits, Nat.zero_mul]
    exact Nat.zero_mul _
  · obtain ⟨hsign, hfields⟩ := wide_of_digits h hpos
    obtain ⟨hm, hq⟩ := ofBits_of_fields hfields
    have hlog : (digits w).log2 < 24 := (Nat.log2_lt hpos.ne').mpr (digits_lt w)
    have hunit := unit_ge w
    have hexponent : 52 - (digits w).log2 + (unit w - (52 - (digits w).log2 : Int) + 1074).toNat =
        (unit w + 149).toNat + 925 := by
      omega
    refine ⟨hsign, hfields.finite.ne, ?_⟩
    unfold size ulp
    rw [hm, hq, Nat.mul_assoc, ← Nat.pow_add, hexponent]

/-- The value that a word on the wire stands for, which is exactly its own. -/
structure Widens (w : UInt32) (x : Float) : Prop where
  undefined : x.isNaN = true ↔ Undefined w
  sign : ¬Undefined w → Binary64.sign x.toBits = sign w
  infinite : bits w = infinity →
    Binary64.exponent x.toBits = 0x7FF ∧ Binary64.fraction x.toBits = 0
  size : bits w < infinity →
    Binary64.exponent x.toBits ≠ 0x7FF ∧ size (.ofBits x.toBits) = value (bits w)

theorem toFloat_widens (w : UInt32) : Widens w (toFloat w) := by
  have hfields := bits_eq_fields w
  have hfraction := fraction_lt w
  have hinfinity := infinity_eq
  refine ⟨isNaN_toFloat w, fun hdefined => ?_, fun hinfinite => ?_, fun hfinite => ?_⟩
  · rw [toBits_toFloat hdefined]
    by_cases hones : exponent w = 0xFF
    · have hnone : fraction w = 0 := by
        by_contra hne
        exact hdefined ⟨hones, hne⟩
      exact (wide_of_infinite hones hnone).1
    · exact (size_wide hones).1
  · have hones : exponent w = 0xFF := by omega
    have hnone : fraction w = 0 := by omega
    rw [toBits_toFloat fun hundefined => hundefined.2 hnone]
    exact (wide_of_infinite hones hnone).2
  · have hones : exponent w ≠ 0xFF := by omega
    rw [toBits_toFloat fun hundefined => hones hundefined.1]
    exact (size_wide hones).2

end Single

/-- What travels arrives as the value of the word that is nearest to it. -/
theorem Transmit.round_float (x : Float) :
    ∃ w, Single.Rounds x w ∧ Single.Widens w (Transmit.round x) :=
  ⟨Single.ofFloat x, Single.ofFloat_rounds x, Single.toFloat_widens _⟩

end BoomWalker
