import LociTerm.Library.Bytes

/-!
# UTF-16 and UTF-8

Texts as lists of UTF-16 code units, which may hold lone surrogates, and as
bytes, which may be no UTF-8.  A decoder puts U+FFFD in the place of what it
cannot read.
-/

namespace LociTerm
namespace Unicode

/-- U+FFFD -/
def replacement : Char := Char.ofNat 0xFFFD

/-- The first half of a surrogate pair. -/
def isHigh (unit : UInt16) : Bool := 0xD800 ≤ unit && unit < 0xDC00

/-- The second half of a surrogate pair. -/
def isLow (unit : UInt16) : Bool := 0xDC00 ≤ unit && unit < 0xE000

/-- The code units of a character. -/
def utf16Char (c : Char) : List UInt16 :=
  if c.toNat < 0x10000 then [c.toNat.toUInt16]
  else
    [(0xD800 + (c.toNat - 0x10000) / 0x400).toUInt16,
      (0xDC00 + (c.toNat - 0x10000) % 0x400).toUInt16]

/-- The UTF-16 encoding of a text. -/
def utf16 (text : List Char) : List UInt16 := text.flatMap utf16Char

/-- The character of two surrogates. -/
def pair (high low : UInt16) : Char :=
  Char.ofNat
    (0x10000 + (high.toNat - 0xD800) * 0x400 + (low.toNat - 0xDC00))

/-- The character of one code unit. -/
def single (unit : UInt16) : Char :=
  if isHigh unit || isLow unit then replacement else Char.ofNat unit.toNat

/-- What a list of code units says. -/
def fromUtf16 : List UInt16 → List Char
  | [] => []
  | [unit] => [single unit]
  | high :: low :: rest =>
      if isHigh high && isLow low then pair high low :: fromUtf16 rest
      else single high :: fromUtf16 (low :: rest)

/-- The UTF-8 encoding of a text. -/
def utf8 (text : List Char) : Bytes := text.flatMap String.utf8EncodeChar

/-- The first character of some bytes, and how many of them it takes. -/
def firstRune (bytes : Bytes) : Char × Nat :=
  match bytes.toByteArray.utf8DecodeChar? 0 with
  | some c => (c, c.utf8Size)
  | none => (replacement, 1)

/-- What some bytes say, the first few of which have been read. -/
def fromUtf8After : Nat → Bytes → List Char
  | _, [] => []
  | skip + 1, _ :: rest => fromUtf8After skip rest
  | 0, b :: rest =>
      let (c, width) := firstRune (b :: rest)
      c :: fromUtf8After (width - 1) rest

/-- What some bytes say in UTF-8. -/
def fromUtf8 (bytes : Bytes) : List Char := fromUtf8After 0 bytes

/-! ## Round trips -/

theorem toNat_ofNat_toUInt16 {n : Nat} (small : n < 0x10000) :
    n.toUInt16.toNat = n := by
  change n % 65536 = n
  exact Nat.mod_eq_of_lt small

/-- A character is no surrogate. -/
theorem not_surrogate (c : Char) : c.toNat < 0xD800 ∨ 0xE000 ≤ c.toNat := by
  rcases c.valid with low | ⟨high, _⟩
  · exact Or.inl low
  · exact Or.inr high

theorem toNat_lt (c : Char) : c.toNat < 0x110000 := by
  rcases c.valid with low | ⟨_, high⟩
  · exact Nat.lt_trans low (by decide)
  · exact high

theorem isHigh_iff (unit : UInt16) :
    isHigh unit = true ↔ 0xD800 ≤ unit.toNat ∧ unit.toNat < 0xDC00 := by
  simp [isHigh, UInt16.le_iff_toNat_le, UInt16.lt_iff_toNat_lt]

theorem isLow_iff (unit : UInt16) :
    isLow unit = true ↔ 0xDC00 ≤ unit.toNat ∧ unit.toNat < 0xE000 := by
  simp [isLow, UInt16.le_iff_toNat_le, UInt16.lt_iff_toNat_lt]

/-- A code unit that is no surrogate stands for itself. -/
theorem fromUtf16_cons
    {unit : UInt16}
    (plain : unit.toNat < 0xD800 ∨ 0xE000 ≤ unit.toNat)
    (rest : List UInt16) :
    fromUtf16 (unit :: rest) = Char.ofNat unit.toNat :: fromUtf16 rest := by
  have notHigh : isHigh unit = false := by
    rw [Bool.eq_false_iff, ne_eq, isHigh_iff]
    omega
  have notLow : isLow unit = false := by
    rw [Bool.eq_false_iff, ne_eq, isLow_iff]
    omega
  cases rest with
  | nil => simp [fromUtf16, single, notHigh, notLow]
  | cons next rest => simp [fromUtf16, single, notHigh, notLow]

/-- Two surrogates stand for a character beyond U+FFFF. -/
theorem fromUtf16_pair
    {c : Char}
    (beyond : 0x10000 ≤ c.toNat)
    (rest : List UInt16) :
    fromUtf16
        ((0xD800 + (c.toNat - 0x10000) / 0x400).toUInt16 ::
          (0xDC00 + (c.toNat - 0x10000) % 0x400).toUInt16 :: rest) =
      c :: fromUtf16 rest := by
  have bound := toNat_lt c
  have high := toNat_ofNat_toUInt16
    (n := 0xD800 + (c.toNat - 0x10000) / 0x400) (by omega)
  have low := toNat_ofNat_toUInt16
    (n := 0xDC00 + (c.toNat - 0x10000) % 0x400) (by omega)
  rw [fromUtf16, if_pos]
  · refine congrArg (· :: fromUtf16 rest) ?_
    rw [pair, high, low]
    have whole : 0x10000 + (0xD800 + (c.toNat - 0x10000) / 0x400 - 0xD800) * 0x400
        + (0xDC00 + (c.toNat - 0x10000) % 0x400 - 0xDC00) = c.toNat := by
      omega
    rw [whole, Char.ofNat_toNat]
  · rw [Bool.and_eq_true, isHigh_iff, isLow_iff, high, low]
    omega

/-- UTF-16 loses nothing. -/
theorem fromUtf16_utf16 (text : List Char) : fromUtf16 (utf16 text) = text := by
  induction text with
  | nil => rfl
  | cons c text inductionHypothesis =>
      rw [utf16, List.flatMap_cons, utf16Char]
      split
      · next small =>
          have plain := not_surrogate c
          rw [List.singleton_append, fromUtf16_cons,
            toNat_ofNat_toUInt16 small, Char.ofNat_toNat]
          · exact congrArg (c :: ·) inductionHypothesis
          · rw [toNat_ofNat_toUInt16 small]
            exact plain
      · next large =>
          rw [List.cons_append, List.singleton_append,
            fromUtf16_pair (by omega)]
          exact congrArg (c :: ·) inductionHypothesis

theorem fromUtf8After_append (skipped rest : Bytes) :
    fromUtf8After skipped.length (skipped ++ rest) = fromUtf8After 0 rest := by
  induction skipped with
  | nil => rfl
  | cons b skipped inductionHypothesis => exact inductionHypothesis

theorem firstRune_append (c : Char) (rest : Bytes) :
    firstRune (String.utf8EncodeChar c ++ rest) = (c, c.utf8Size) := by
  rw [firstRune, List.toByteArray_append,
    ByteArray.utf8DecodeChar?_utf8EncodeChar_append]

/-- UTF-8 loses nothing. -/
theorem fromUtf8_utf8 (text : List Char) : fromUtf8 (utf8 text) = text := by
  induction text with
  | nil => rfl
  | cons c text inductionHypothesis =>
      rw [utf8, List.flatMap_cons, fromUtf8]
      have first := firstRune_append c (text.flatMap String.utf8EncodeChar)
      have width := String.length_utf8EncodeChar c
      cases encoded : String.utf8EncodeChar c with
      | nil =>
          have positive := Char.utf8Size_pos c
          rw [encoded] at width
          simp at width
          omega
      | cons b others =>
          rw [encoded] at first width
          rw [List.cons_append, fromUtf8After, ← List.cons_append, first]
          simp only
          rw [← width, List.length_cons, Nat.add_sub_cancel,
            fromUtf8After_append]
          exact congrArg (c :: ·) inductionHypothesis

end Unicode
end LociTerm
