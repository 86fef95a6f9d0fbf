/-
Strings in the midst of a text.

A string has many spellings: a character may stand for itself, be escaped by a letter, or be given
by its code. The reader that keeps the text takes every spelling back to the text it spells
(`readQuoted_spells`), and the writer's spelling is one of them (`spells_escape`). The reader that
skips a string is content with less: a code need not be that of a character.
-/
import BoomWalker.Json.Reader
import Mathlib.Tactic.IntervalCases

namespace BoomWalker.Json

/-- A character that may stand for itself between quotes. -/
def Plain (c : Char) : Prop := c ≠ '"' ∧ c ≠ '\\' ∧ ¬ c < ' '

/-! ## Codes -/

/-- Four digits and the number that they spell. -/
def HexCode (code : List Char) (n : Nat) : Prop :=
  ∃ a b c d w x y z, code = [a, b, c, d] ∧ Hex.value? a = some w ∧ Hex.value? b = some x ∧
    Hex.value? c = some y ∧ Hex.value? d = some z ∧ n = ((w * 16 + x) * 16 + y) * 16 + z

theorem readHex4_append {code : List Char} {n : Nat} (h : HexCode code n) (rest : List Char) :
    readHex4 (code ++ rest) = .ok (n, rest) := by
  obtain ⟨a, b, c, d, w, x, y, z, rfl, ha, hb, hc, hd, rfl⟩ := h
  simp only [List.cons_append, List.nil_append, readHex4, ha, hb, hc, hd]

theorem value_digit {n : Nat} (h : n < 16) : Hex.value? (Hex.digit n) = some n := by
  interval_cases n <;> rfl

theorem hexCode_low {n : Nat} (h : n < 256) :
    HexCode ['0', '0', Hex.digit (n / 16), Hex.digit (n % 16)] n :=
  ⟨_, _, _, _, 0, 0, n / 16, n % 16, rfl, rfl, rfl, value_digit (by omega), value_digit (by omega),
    by omega⟩

/-! ## Spellings -/

/-- The characters between quotes and the text that they spell. -/
inductive Spells : List Char → List Char → Prop
  | nil : Spells [] []
  | plain {c : Char} {cs text : List Char} (hc : Plain c) (h : Spells cs text) :
      Spells (c :: cs) (c :: text)
  | letter {e c : Char} {cs text : List Char} (he : escapedChar? e = some c) (h : Spells cs text) :
      Spells ('\\' :: e :: cs) (c :: text)
  | code {code cs text : List Char} {n : Nat} (hcode : HexCode code n)
      (hn : n < 0xD800 ∨ 0xDFFF < n) (h : Spells cs text) :
      Spells ('\\' :: 'u' :: code ++ cs) (Char.ofNat n :: text)
  | pair {high low cs text : List Char} {hi lo : Nat} (hhigh : HexCode high hi)
      (hlow : HexCode low lo) (hhi : 0xD800 ≤ hi ∧ hi ≤ 0xDBFF) (hlo : 0xDC00 ≤ lo ∧ lo ≤ 0xDFFF)
      (h : Spells cs text) :
      Spells ('\\' :: 'u' :: high ++ '\\' :: 'u' :: low ++ cs)
        (Char.ofNat ((hi - 0xD800) * 0x400 + (lo - 0xDC00) + 0x10000) :: text)

/-- A character is written by a letter, by its code, or as itself. -/
theorem escape_cases (c : Char) :
    (∃ e, escapedChar? e = some c ∧ escape c = ['\\', e]) ∨
    (∃ code, HexCode code c.toNat ∧ c.toNat < 32 ∧ escape c = '\\' :: 'u' :: code) ∨
    Plain c ∧ escape c = [c] := by
  unfold escape
  split_ifs with h1 h2 h3 h4 h5 h6 h7 hlow
  · exact .inl ⟨'"', by rw [h1]; rfl, rfl⟩
  · exact .inl ⟨'\\', by rw [h2]; rfl, rfl⟩
  · exact .inl ⟨'b', by rw [h3]; rfl, rfl⟩
  · exact .inl ⟨'f', by rw [h4]; rfl, rfl⟩
  · exact .inl ⟨'n', by rw [h5]; rfl, rfl⟩
  · exact .inl ⟨'r', by rw [h6]; rfl, rfl⟩
  · exact .inl ⟨'t', by rw [h7]; rfl, rfl⟩
  · have hn : c.toNat < 32 := hlow
    exact .inr (.inl ⟨_, hexCode_low (by omega), hn, rfl⟩)
  · exact .inr (.inr ⟨⟨h1, h2, hlow⟩, rfl⟩)

theorem Spells.escape {cs text : List Char} (c : Char) (h : Spells cs text) :
    Spells (Json.escape c ++ cs) (c :: text) := by
  obtain ⟨e, he, hc⟩ | ⟨code, hcode, hn, hc⟩ | ⟨hplain, hc⟩ := escape_cases c
  · rw [hc]
    exact .letter he h
  · have hspell := Spells.code hcode (.inl (by omega)) h
    rwa [Char.ofNat_toNat, ← hc] at hspell
  · rw [hc]
    exact .plain hplain h

theorem spells_escape (text : List Char) : Spells (text.flatMap Json.escape) text := by
  induction text with
  | nil => exact .nil
  | cons c text ih => exact ih.escape c

/-! ## Reading -/

theorem readQuotedWithin_plain {c : Char} (hc : Plain c) (n : Nat) (cs : List Char) :
    readQuotedWithin (n + 1) (c :: cs) =
      (readQuotedWithin n cs).map fun p => (c :: p.1, p.2) := by
  obtain ⟨hquote, hslash, hspace⟩ := hc
  rw [readQuotedWithin, if_neg hspace]
  · cases readQuotedWithin n cs <;> rfl
  · exact hquote
  · rintro rfl -
    exact hslash rfl
  · rintro _ rfl -
    exact hslash rfl
  · rintro _ _ rfl -
    exact hslash rfl

theorem readQuotedWithin_letter {e c : Char} (he : escapedChar? e = some c) (n : Nat)
    (cs : List Char) :
    readQuotedWithin (n + 1) ('\\' :: e :: cs) =
      (readQuotedWithin n cs).map fun p => (c :: p.1, p.2) := by
  rw [readQuotedWithin, he]
  · cases readQuotedWithin n cs <;> rfl
  · rintro rfl
    cases he

theorem readQuotedWithin_unicode {c : Char} {cs rest : List Char}
    (h : readUnicode cs = .ok (c, rest)) (n : Nat) :
    readQuotedWithin (n + 1) ('\\' :: 'u' :: cs) =
      (readQuotedWithin n rest).map fun p => (c :: p.1, p.2) := by
  rw [readQuotedWithin, h]
  simp only [bind, Except.bind]
  cases readQuotedWithin n rest <;> rfl

/-- The second half of a pair, for a first half of the given code. -/
def readLow (hi : Nat) (cs : List Char) : Except ReadError (Char × List Char) :=
  match cs with
  | [] => .error .endOfText
  | '\\' :: [] => .error .endOfText
  | '\\' :: 'u' :: rest => do
    let (lo, rest) ← readHex4 rest
    if 0xDC00 ≤ lo ∧ lo ≤ 0xDFFF then
      .ok (Char.ofNat ((hi - 0xD800) * 0x400 + (lo - 0xDC00) + 0x10000), rest)
    else .error .malformed
  | _ => .error .malformed

theorem readUnicode_eq_readLow {code : List Char} {hi : Nat} (hcode : HexCode code hi)
    (rest : List Char) :
    readUnicode (code ++ rest) =
      if 0xDC00 ≤ hi ∧ hi ≤ 0xDFFF then .error .malformed
      else if hi < 0xD800 ∨ 0xDBFF < hi then .ok (Char.ofNat hi, rest)
      else readLow hi rest := by
  rw [readUnicode, readHex4_append hcode]
  rfl

theorem readLow_unicode {code : List Char} {lo : Nat} (hcode : HexCode code lo) (hi : Nat)
    (rest : List Char) :
    readLow hi ('\\' :: 'u' :: (code ++ rest)) =
      if 0xDC00 ≤ lo ∧ lo ≤ 0xDFFF then
        .ok (Char.ofNat ((hi - 0xD800) * 0x400 + (lo - 0xDC00) + 0x10000), rest)
      else .error .malformed := by
  rw [readLow, readHex4_append hcode]
  rfl

theorem readUnicode_code {code : List Char} {n : Nat} (hcode : HexCode code n)
    (hn : n < 0xD800 ∨ 0xDFFF < n) (rest : List Char) :
    readUnicode (code ++ rest) = .ok (Char.ofNat n, rest) := by
  rw [readUnicode_eq_readLow hcode, if_neg (by omega), if_pos (by omega)]

theorem readUnicode_pair {high low : List Char} {hi lo : Nat} (hhigh : HexCode high hi)
    (hlow : HexCode low lo) (hhi : 0xD800 ≤ hi ∧ hi ≤ 0xDBFF) (hlo : 0xDC00 ≤ lo ∧ lo ≤ 0xDFFF)
    (rest : List Char) :
    readUnicode (high ++ ('\\' :: 'u' :: (low ++ rest))) =
      .ok (Char.ofNat ((hi - 0xD800) * 0x400 + (lo - 0xDC00) + 0x10000), rest) := by
  rw [readUnicode_eq_readLow hhigh, if_neg (by omega), if_neg (by omega), readLow_unicode hlow,
    if_pos hlo]

/-- The bound shrinks by one with every character that is spelled, whatever its spelling. -/
theorem readQuotedWithin_spells {cs text : List Char} (h : Spells cs text) {n : Nat}
    (hn : cs.length < n) (rest : List Char) :
    readQuotedWithin n (cs ++ '"' :: rest) = .ok (text, rest) := by
  induction h generalizing n with
  | nil =>
    obtain ⟨n, rfl⟩ := Nat.exists_eq_succ_of_ne_zero (Nat.ne_zero_of_lt hn)
    rfl
  | plain hc h ih =>
    obtain ⟨n, rfl⟩ := Nat.exists_eq_succ_of_ne_zero (Nat.ne_zero_of_lt hn)
    rw [List.length_cons] at hn
    rw [List.cons_append, readQuotedWithin_plain hc, ih (by omega)]
    rfl
  | letter he h ih =>
    obtain ⟨n, rfl⟩ := Nat.exists_eq_succ_of_ne_zero (Nat.ne_zero_of_lt hn)
    simp only [List.length_cons] at hn
    simp only [List.cons_append]
    rw [readQuotedWithin_letter he, ih (by omega)]
    rfl
  | code hcode hsurrogate h ih =>
    obtain ⟨n, rfl⟩ := Nat.exists_eq_succ_of_ne_zero (Nat.ne_zero_of_lt hn)
    simp only [List.length_cons, List.cons_append, List.length_append] at hn
    simp only [List.cons_append, List.append_assoc]
    rw [readQuotedWithin_unicode (readUnicode_code hcode hsurrogate _), ih (by omega)]
    rfl
  | pair hhigh hlow hhi hlo h ih =>
    obtain ⟨n, rfl⟩ := Nat.exists_eq_succ_of_ne_zero (Nat.ne_zero_of_lt hn)
    simp only [List.length_cons, List.cons_append, List.length_append] at hn
    simp only [List.cons_append, List.append_assoc]
    rw [readQuotedWithin_unicode (readUnicode_pair hhigh hlow hhi hlo _), ih (by omega)]
    rfl

theorem readQuoted_spells {cs text : List Char} (h : Spells cs text) (rest : List Char) :
    readQuoted (cs ++ '"' :: rest) = .ok (String.ofList text, rest) := by
  have hlength : cs.length < (cs ++ '"' :: rest).length + 1 := by
    rw [List.length_append]
    omega
  rw [readQuoted, readQuotedWithin_spells h hlength]
  rfl

theorem readQuoted_escape (s : String) (rest : List Char) :
    readQuoted (s.toList.flatMap escape ++ '"' :: rest) = .ok (s, rest) := by
  rw [readQuoted_spells (spells_escape s.toList), String.ofList_toList]

theorem readString_writeQuoted (s : String) (rest : List Char) :
    readString (writeQuoted s ++ rest) = .ok (s, rest) := by
  have htext : writeQuoted s ++ rest = '"' :: (s.toList.flatMap escape ++ '"' :: rest) := by
    simp [writeQuoted]
  rw [htext]
  exact readQuoted_escape s rest

/-! ## Skipping -/

/-- The characters between quotes, whatever they spell. -/
inductive Quotable : List Char → Prop
  | nil : Quotable []
  | plain {c : Char} {cs : List Char} (hc : Plain c) (h : Quotable cs) : Quotable (c :: cs)
  | letter {e c : Char} {cs : List Char} (he : escapedChar? e = some c) (h : Quotable cs) :
      Quotable ('\\' :: e :: cs)
  | code {code cs : List Char} {n : Nat} (hcode : HexCode code n) (h : Quotable cs) :
      Quotable ('\\' :: 'u' :: code ++ cs)

theorem skipQuotedWithin_plain {c : Char} (hc : Plain c) (n : Nat) (cs : List Char) :
    skipQuotedWithin (n + 1) (c :: cs) = skipQuotedWithin n cs := by
  obtain ⟨hquote, hslash, hspace⟩ := hc
  rw [skipQuotedWithin, if_neg hspace]
  · exact hquote
  · rintro rfl -
    exact hslash rfl
  · rintro _ rfl -
    exact hslash rfl
  · rintro _ _ rfl -
    exact hslash rfl

theorem skipQuotedWithin_letter {e c : Char} (he : escapedChar? e = some c) (n : Nat)
    (cs : List Char) :
    skipQuotedWithin (n + 1) ('\\' :: e :: cs) = skipQuotedWithin n cs := by
  rw [skipQuotedWithin, he]
  rintro rfl
  cases he

theorem skipQuotedWithin_quotable {cs : List Char} (h : Quotable cs) {n : Nat}
    (hn : cs.length < n) (rest : List Char) :
    skipQuotedWithin n (cs ++ '"' :: rest) = .ok rest := by
  induction h generalizing n with
  | nil =>
    obtain ⟨n, rfl⟩ := Nat.exists_eq_succ_of_ne_zero (Nat.ne_zero_of_lt hn)
    rfl
  | plain hc h ih =>
    obtain ⟨n, rfl⟩ := Nat.exists_eq_succ_of_ne_zero (Nat.ne_zero_of_lt hn)
    rw [List.length_cons] at hn
    rw [List.cons_append, skipQuotedWithin_plain hc, ih (by omega)]
  | letter he h ih =>
    obtain ⟨n, rfl⟩ := Nat.exists_eq_succ_of_ne_zero (Nat.ne_zero_of_lt hn)
    simp only [List.length_cons] at hn
    simp only [List.cons_append]
    rw [skipQuotedWithin_letter he, ih (by omega)]
  | code hcode h ih =>
    obtain ⟨n, rfl⟩ := Nat.exists_eq_succ_of_ne_zero (Nat.ne_zero_of_lt hn)
    simp only [List.length_cons, List.cons_append, List.length_append] at hn
    simp only [List.cons_append, List.append_assoc]
    rw [skipQuotedWithin, readHex4_append hcode]
    exact ih (by omega)

theorem skipQuoted_quotable {cs : List Char} (h : Quotable cs) (rest : List Char) :
    skipQuoted (cs ++ '"' :: rest) = .ok rest := by
  have hlength : cs.length < (cs ++ '"' :: rest).length + 1 := by
    rw [List.length_append]
    omega
  exact skipQuotedWithin_quotable h hlength rest

end BoomWalker.Json
