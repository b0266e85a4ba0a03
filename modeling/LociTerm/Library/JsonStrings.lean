import LociTerm.Library.JsonText

/-!
# Strings in JSON

What `JSON.stringify` of JavaScript and `json.Marshal` of Go put between the
quotes of a string.  The one writes lists of UTF-16 code units, where lone
surrogates are escaped; the other writes texts, where the characters that mean
something to HTML are.
-/

namespace LociTerm
namespace Json

open Unicode

/-! ## Escapes -/

/-- A hexadecimal digit in lower case. -/
def hexDigit (n : Nat) : UInt8 := (if n < 10 then 48 + n else 87 + n).toUInt8

/-- `\u` and four digits. -/
def unicodeEscape (unit : UInt16) : Bytes :=
  [byte '\\', byte 'u', hexDigit (unit.toNat / 4096),
    hexDigit (unit.toNat / 256 % 16), hexDigit (unit.toNat / 16 % 16),
    hexDigit (unit.toNat % 16)]

/-- The letter of a short escape. -/
def shortEscape? (unit : UInt16) : Option UInt8 :=
  if unit = 8 then some (byte 'b')
  else if unit = 9 then some (byte 't')
  else if unit = 10 then some (byte 'n')
  else if unit = 12 then some (byte 'f')
  else if unit = 13 then some (byte 'r')
  else if unit = 34 then some (byte '"')
  else if unit = 92 then some (byte '\\')
  else none

/-- A code unit, escaped. -/
def escape (unit : UInt16) : Bytes :=
  match shortEscape? unit with
  | some letter => [byte '\\', letter]
  | none => unicodeEscape unit

theorem hexDigit_valid {n : Nat} (small : n < 16) :
    isHex (hexDigit n) = true ∧ (hexValue (hexDigit n)).toNat = n := by
  interval_cases n <;> decide

/-- The digits of a code unit say it. -/
theorem hexValue_digits (unit : UInt16) :
    hexValue (hexDigit (unit.toNat / 4096)) * 4096 +
        hexValue (hexDigit (unit.toNat / 256 % 16)) * 256 +
        hexValue (hexDigit (unit.toNat / 16 % 16)) * 16 +
        hexValue (hexDigit (unit.toNat % 16)) = unit := by
  have bound := unit.toNat_lt
  have first := (hexDigit_valid (n := unit.toNat / 4096) (by omega)).2
  have second := (hexDigit_valid (n := unit.toNat / 256 % 16) (by omega)).2
  have third := (hexDigit_valid (n := unit.toNat / 16 % 16) (by omega)).2
  have fourth := (hexDigit_valid (n := unit.toNat % 16) (by omega)).2
  apply UInt16.toNat_inj.mp
  simp only [UInt16.toNat_add, UInt16.toNat_mul, first, second, third, fourth,
    UInt16.reduceToNat]
  omega

theorem advance_hex
    {b : UInt8}
    (valid : isHex b = true)
    (raw : Bytes)
    (left : Nat) :
    advance (.hex raw (left + 2)) b =
      some ([], .hex (raw ++ [b]) (left + 1)) := by
  simp [advance, valid]

theorem advance_lastHex {b : UInt8} (valid : isHex b = true) (raw : Bytes) :
    advance (.hex raw 1) b = some ([], .string (raw ++ [b])) := by
  simp [advance, valid]

/-! ## Pieces of a string -/

/-- The bytes stand for the code units wherever they stand in a string. -/
structure Piece (bytes : Bytes) (units : List UInt16) : Prop where
  scans : ∀ raw, scan (.string raw) bytes =
    some ([], .string (raw ++ bytes))
  reads : ∀ rest, codeUnits [] (bytes ++ rest) = units ++ codeUnits [] rest

namespace Piece

theorem nil : Piece [] [] where
  scans := fun raw => by simp [scan]
  reads := fun _ => rfl

theorem append
    {left right : Bytes}
    {first second : List UInt16}
    (one : Piece left first)
    (other : Piece right second) :
    Piece (left ++ right) (first ++ second) where
  scans := fun raw => by
    rw [scan_append (one.scans raw), other.scans]
    simp
  reads := fun rest => by
    rw [List.append_assoc, one.reads, other.reads, List.append_assoc]

theorem unicodeEscape (unit : UInt16) : Piece (unicodeEscape unit) [unit] where
  scans := fun raw => by
    have bound := unit.toNat_lt
    have first := (hexDigit_valid (n := unit.toNat / 4096) (by omega)).1
    have second := (hexDigit_valid (n := unit.toNat / 256 % 16) (by omega)).1
    have third := (hexDigit_valid (n := unit.toNat / 16 % 16) (by omega)).1
    have fourth := (hexDigit_valid (n := unit.toNat % 16) (by omega)).1
    have backslash : advance (.string raw) (byte '\\') =
        some ([], .escape raw) := rfl
    have letter : advance (.escape raw) (byte 'u') =
        some ([], .hex (raw ++ [byte '\\', byte 'u']) 4) := rfl
    simp [Json.unicodeEscape, scan, backslash, letter, advance_hex first,
      advance_hex second, advance_hex third, advance_lastHex fourth]
  reads := fun rest => by
    change codeUnits [] (92 :: 117 :: _ :: _ :: _ :: _ :: rest) = _
    rw [codeUnits, hexValue_digits]
    rfl

theorem escape (unit : UInt16) : Piece (escape unit) [unit] := by
  have short (letter : UInt8)
      (known : letter ∈ ascii "btnfr\"\\")
      (same : escaped letter = unit) :
      Piece [byte '\\', letter] [unit] := by
    refine ⟨fun raw => ?_, fun rest => ?_⟩
    · have backslash : advance (.string raw) (byte '\\') =
          some ([], .escape raw) := rfl
      have behind : advance (.escape raw) letter =
          some ([], .string (raw ++ [byte '\\', letter])) := by
        have other : ∀ letter ∈ ascii "btnfr\"\\", letter ≠ byte 'u' ∧
            (ascii "bfnrt\\/\"").contains letter = true :=
          forall_mem_of_all (by decide)
        obtain ⟨noDigits, allowed⟩ := other letter known
        rw [advance, if_neg noDigits, if_pos allowed]
      simp [scan, backslash, behind]
    · have other : ∀ letter ∈ ascii "btnfr\"\\", letter ≠ 117 :=
        forall_mem_of_all (by decide)
      change codeUnits [] (92 :: letter :: rest) = _
      rw [codeUnits, same]
      · rfl
      · intro a b c d others
        simp [other letter known]
  unfold Json.escape shortEscape?
  split_ifs with b t n f r quote backslash
  · exact short _ (by decide) (by rw [b]; rfl)
  · exact short _ (by decide) (by rw [t]; rfl)
  · exact short _ (by decide) (by rw [n]; rfl)
  · exact short _ (by decide) (by rw [f]; rfl)
  · exact short _ (by decide) (by rw [r]; rfl)
  · exact short _ (by decide) (by rw [quote]; rfl)
  · exact short _ (by decide) (by rw [backslash]; rfl)
  · exact .unicodeEscape unit

end Piece

/-! ## Characters that stand for themselves -/

/-- The bytes of a character beyond ASCII are beyond ASCII. -/
theorem utf8EncodeChar_bytes
    {c : Char}
    {b : UInt8}
    (member : b ∈ String.utf8EncodeChar c) :
    b.toNat = c.toNat ∨ 128 ≤ b.toNat := by
  have small (n : Nat) (bound : n < 256) : (UInt8.ofNat n).toNat = n :=
    Nat.mod_eq_of_lt bound
  have code : c.val.toNat = c.toNat := rfl
  unfold String.utf8EncodeChar at member
  simp only [code] at member
  split_ifs at member with ascii
  · rw [List.mem_singleton.mp member, small _ (by omega)]
    exact Or.inl rfl
  all_goals
    refine Or.inr ?_
    simp only [List.mem_cons, List.not_mem_nil, or_false] at member
    rcases member with rfl | member
    · rw [small _ (by omega)]
      omega
  · rw [member, small _ (by omega)]
    omega
  · rcases member with rfl | rfl
    · rw [small _ (by omega)]
      omega
    · rw [small _ (by omega)]
      omega
  · rcases member with rfl | rfl | rfl
    · rw [small _ (by omega)]
      omega
    · rw [small _ (by omega)]
      omega
    · rw [small _ (by omega)]
      omega

theorem scan_plain
    {bytes : Bytes}
    (plain : ∀ b ∈ bytes, 32 ≤ b.toNat ∧ b.toNat ≠ 34 ∧ b.toNat ≠ 92)
    (raw : Bytes) :
    scan (.string raw) bytes = some ([], .string (raw ++ bytes)) := by
  induction bytes generalizing raw with
  | nil => simp [scan]
  | cons b bytes inductionHypothesis =>
      obtain ⟨printable, noQuote, noBackslash⟩ := plain b List.mem_cons_self
      have first : advance (.string raw) b = some ([], .string (raw ++ [b])) := by
        have quote : b ≠ byte '"' := by
          rintro rfl
          exact noQuote rfl
        have backslash : b ≠ byte '\\' := by
          rintro rfl
          exact noBackslash rfl
        have control : ¬b < 32 := by
          rw [UInt8.lt_iff_toNat_lt]
          exact Nat.not_lt.mpr printable
        rw [advance, if_neg quote, if_neg backslash, if_neg control]
      have others := inductionHypothesis
        (fun c member => plain c (List.mem_cons_of_mem b member)) (raw ++ [b])
      simp [scan, first, others]

/-- Bytes without a backslash are gathered. -/
theorem codeUnits_plain
    {bytes : Bytes}
    (plain : ∀ b ∈ bytes, b.toNat ≠ 92)
    (gathered rest : Bytes) :
    codeUnits gathered (bytes ++ rest) = codeUnits (gathered ++ bytes) rest := by
  induction bytes generalizing gathered with
  | nil => simp
  | cons b bytes inductionHypothesis =>
      have noBackslash : b ≠ 92 := by
        rintro rfl
        exact plain _ List.mem_cons_self rfl
      have others := inductionHypothesis
        (fun c member => plain c (List.mem_cons_of_mem b member))
        (gathered ++ [b])
      rw [List.cons_append, codeUnits, others, List.append_assoc,
        List.singleton_append]
      · intro a b' c d others same
        simp [noBackslash] at same
      · intro other others same
        simp [noBackslash] at same

/-- A text in front of other bytes is read as itself. -/
theorem fromUtf8_utf8_append (text : List Char) (rest : Bytes) :
    fromUtf8 (utf8 text ++ rest) = text ++ fromUtf8 rest := by
  induction text with
  | nil => rfl
  | cons c text inductionHypothesis =>
      rw [utf8, List.flatMap_cons, fromUtf8, List.append_assoc]
      have first := firstRune_append c
        (text.flatMap String.utf8EncodeChar ++ rest)
      have width := String.length_utf8EncodeChar c
      cases encoded : String.utf8EncodeChar c with
      | nil => exact absurd encoded String.utf8EncodeChar_ne_nil
      | cons b others =>
          rw [encoded] at first width
          rw [List.cons_append, fromUtf8After, ← List.cons_append, first]
          simp only
          rw [← width, List.length_cons, Nat.add_sub_cancel,
            fromUtf8After_append]
          exact congrArg (c :: ·) inductionHypothesis

theorem utf16_append (left right : List Char) :
    utf16 (left ++ right) = utf16 left ++ utf16 right :=
  List.flatMap_append

/-- What has been gathered of a text comes first. -/
theorem codeUnits_utf8_append
    (text : List Char)
    (gathered rest : Bytes) :
    codeUnits (utf8 text ++ gathered) rest =
      utf16 text ++ codeUnits gathered rest := by
  fun_induction codeUnits gathered rest with
  | case1 gathered a b c d rest inductionHypothesis =>
      rw [codeUnits, fromUtf8_utf8_append, utf16_append, List.append_assoc]
  | case2 gathered b rest noDigits inductionHypothesis =>
      rw [codeUnits, fromUtf8_utf8_append, utf16_append, List.append_assoc]
      exact noDigits
  | case3 gathered b rest noUnicode noEscape inductionHypothesis =>
      rw [codeUnits, List.append_assoc, inductionHypothesis]
      · exact noUnicode
      · exact noEscape
  | case4 gathered =>
      rw [codeUnits, fromUtf8_utf8_append, utf16_append]

/-- A character that needs no escape. -/
theorem Piece.plain
    {c : Char}
    (printable : 32 ≤ c.toNat)
    (noQuote : c.toNat ≠ 34)
    (noBackslash : c.toNat ≠ 92) :
    Piece (String.utf8EncodeChar c) (utf16Char c) where
  scans := fun raw => by
    refine scan_plain (fun b member => ?_) raw
    rcases utf8EncodeChar_bytes member with same | beyond
    · rw [same]
      exact ⟨printable, noQuote, noBackslash⟩
    · omega
  reads := fun rest => by
    have kept : ∀ b ∈ String.utf8EncodeChar c, b.toNat ≠ 92 := by
      intro b member
      rcases utf8EncodeChar_bytes member with same | beyond
      · rw [same]
        exact noBackslash
      · omega
    have gathered := codeUnits_utf8_append [c] [] rest
    simp only [utf8, utf16, List.flatMap_cons, List.flatMap_nil,
      List.append_nil] at gathered
    rw [codeUnits_plain kept, List.nil_append, gathered]

/-! ## The strings of Go -/

/-- `encoding/json` escapes these characters, with `SetEscapeHTML` as it is by
default. -/
def escapesChar (c : Char) : Bool :=
  c.toNat < 32 || c.toNat = 34 || c.toNat = 92 || c.toNat = 38 ||
    c.toNat = 60 || c.toNat = 62 || c.toNat = 0x2028 || c.toNat = 0x2029

/-- `appendString` for one character. -/
def marshalChar (c : Char) : Bytes :=
  if escapesChar c then escape c.toNat.toUInt16 else String.utf8EncodeChar c

/-- What `appendString` writes between the quotes. -/
def marshalString (text : String) : Bytes := text.toList.flatMap marshalChar

theorem Piece.marshalChar (c : Char) :
    Piece (marshalChar c) (utf16Char c) := by
  unfold Json.marshalChar
  split
  · next escapes =>
      have small : c.toNat < 0x10000 := by
        simp only [escapesChar, Bool.or_eq_true, decide_eq_true_eq] at escapes
        omega
      rw [utf16Char, if_pos small]
      exact .escape c.toNat.toUInt16
  · next plain =>
      simp only [escapesChar, Bool.or_eq_true, decide_eq_true_eq, not_or]
        at plain
      exact .plain (by omega) (by omega) (by omega)

theorem Piece.marshalString (text : List Char) :
    Piece (text.flatMap Json.marshalChar) (utf16 text) := by
  induction text with
  | nil => exact .nil
  | cons c text inductionHypothesis =>
      exact (Piece.marshalChar c).append inductionHypothesis

/-- The code units of a whole string. -/
theorem Piece.codeUnits {bytes : Bytes} {units : List UInt16}
    (piece : Piece bytes units) :
    Json.codeUnits [] bytes = units := by
  have whole := piece.reads []
  rw [List.append_nil] at whole
  rw [whole, Json.codeUnits]
  exact List.append_nil units

/-- `json.Marshal` of a string. -/
def goQuoting : Quoting String where
  quote := marshalString
  meaning := id
  scans := fun text => (Piece.marshalString text.toList).scans []
  reads := fun text => by
    rw [unquote, marshalString, (Piece.marshalString text.toList).codeUnits,
      fromUtf16_utf16]
    exact String.ofList_toList

/-! ## The strings of JavaScript -/

/-- `QuoteJSONString` escapes these code units.  A lone surrogate is among
them. -/
def escapesUnit (unit : UInt16) : Bool :=
  unit.toNat < 32 || unit.toNat = 34 || unit.toNat = 92 || isHigh unit ||
    isLow unit

/-- `QuoteJSONString` for a code unit that is no half of a pair. -/
def stringifyUnit (unit : UInt16) : Bytes :=
  if escapesUnit unit then escape unit
  else String.utf8EncodeChar (Char.ofNat unit.toNat)

/-- `QuoteJSONString`, encoded as UTF-8. -/
def stringify : List UInt16 → Bytes
  | [] => []
  | [unit] => stringifyUnit unit
  | high :: low :: rest =>
      if isHigh high && isLow low then
        String.utf8EncodeChar (pair high low) ++ stringify rest
      else stringifyUnit high ++ stringify (low :: rest)

theorem toNat_ofNat {n : Nat} (valid : n.isValidChar) :
    (Char.ofNat n).toNat = n := by
  rw [Char.ofNat, dif_pos valid]
  rfl

theorem Piece.stringifyUnit (unit : UInt16) :
    Piece (stringifyUnit unit) [unit] := by
  unfold Json.stringifyUnit
  split
  · exact .escape unit
  · next plain =>
      have bound := unit.toNat_lt
      simp only [escapesUnit, Bool.or_eq_true, decide_eq_true_eq, not_or,
        isHigh_iff, isLow_iff] at plain
      have valid : unit.toNat.isValidChar := by
        rw [Nat.isValidChar]
        omega
      have code := toNat_ofNat valid
      have units : utf16Char (Char.ofNat unit.toNat) = [unit] := by
        rw [utf16Char, code, if_pos bound]
        simp
      rw [← units]
      exact .plain (by omega) (by omega) (by omega)

/-- Two surrogates are the code units of their character. -/
theorem utf16Char_pair
    {high low : UInt16}
    (first : isHigh high = true)
    (second : isLow low = true) :
    0x10000 ≤ (pair high low).toNat ∧
      utf16Char (pair high low) = [high, low] := by
  rw [isHigh_iff] at first
  rw [isLow_iff] at second
  have valid : (0x10000 + (high.toNat - 0xD800) * 0x400 +
      (low.toNat - 0xDC00)).isValidChar := by
    rw [Nat.isValidChar]
    omega
  have code : (pair high low).toNat = 0x10000 + (high.toNat - 0xD800) * 0x400 +
      (low.toNat - 0xDC00) := by
    rw [pair, toNat_ofNat valid]
  have beyond : ¬(pair high low).toNat < 0x10000 := by omega
  refine ⟨by omega, ?_⟩
  rw [utf16Char, if_neg beyond, code]
  have upper : 0xD800 + (0x10000 + (high.toNat - 0xD800) * 0x400 +
      (low.toNat - 0xDC00) - 0x10000) / 0x400 = high.toNat := by omega
  have lower : 0xDC00 + (0x10000 + (high.toNat - 0xD800) * 0x400 +
      (low.toNat - 0xDC00) - 0x10000) % 0x400 = low.toNat := by omega
  rw [upper, lower]
  simp

/-- Every list of code units is read as it was written. -/
theorem Piece.stringify (units : List UInt16) :
    Piece (stringify units) units := by
  fun_induction Json.stringify units with
  | case1 => exact .nil
  | case2 unit => exact .stringifyUnit unit
  | case3 high low rest paired inductionHypothesis =>
      rw [Bool.and_eq_true] at paired
      obtain ⟨beyond, units⟩ := utf16Char_pair paired.1 paired.2
      have one : Piece (String.utf8EncodeChar (pair high low)) [high, low] := by
        rw [← units]
        exact .plain (by omega) (by omega) (by omega)
      exact one.append inductionHypothesis
  | case4 high low rest lone inductionHypothesis =>
      exact (Piece.stringifyUnit high).append inductionHypothesis

/-- `JSON.stringify` of a string.  A reader that has no lone surrogates puts
U+FFFD in their place. -/
def jsQuoting : Quoting (List UInt16) where
  quote := stringify
  meaning := fun units => String.ofList (fromUtf16 units)
  scans := fun units => (Piece.stringify units).scans []
  reads := fun units => by
    rw [unquote, (Piece.stringify units).codeUnits]

end Json
end LociTerm
