import LociTerm.Library.Run
import LociTerm.Library.Unicode
import Mathlib.Data.List.TakeWhile

/-!
# JSON

A lexer and a parser for JSON texts as bytes, each a machine that takes one
symbol at a time.  The parser keeps a stack of the arrays and objects that are
open.  A number stays the literal that it was written as.
-/

namespace LociTerm
namespace Json

open Unicode

/-! ## Tokens -/

/-- The tokens of JSON. -/
inductive Token
  | openObject
  | closeObject
  | openArray
  | closeArray
  | colon
  | comma
  | null
  | bool (value : Bool)
  | number (literal : Bytes)
  /-- What stands between the quotes. -/
  | string (raw : Bytes)
  deriving DecidableEq

/-- What the lexer is inside of, with what it has read of it. -/
inductive Mode
  | between
  | string (raw : Bytes)
  | escape (raw : Bytes)
  | hex (raw : Bytes) (left : Nat)
  | number (literal : Bytes)
  | word (letters : Bytes)
  deriving DecidableEq

/-- White space between tokens. -/
def isSpace (b : UInt8) : Bool := b == 32 || b == 9 || b == 10 || b == 13

/-- A decimal digit. -/
def isDigit (b : UInt8) : Bool := 48 ≤ b && b ≤ 57

/-- A letter of one of the three words. -/
def isLetter (b : UInt8) : Bool := 97 ≤ b && b ≤ 122

/-- A hexadecimal digit. -/
def isHex (b : UInt8) : Bool :=
  isDigit b || 97 ≤ b && b ≤ 102 || 65 ≤ b && b ≤ 70

/-- A byte that may stand in a number. -/
def inNumber (b : UInt8) : Bool := isDigit b || (ascii "+-.eE").contains b

/-- The part of a number from its exponent on. -/
def isExponent : Bytes → Bool
  | [] => true
  | e :: rest =>
      let digits :=
        match rest with
        | sign :: others =>
            if sign == byte '+' || sign == byte '-' then others else rest
        | [] => []
      (e == byte 'e' || e == byte 'E') && !digits.isEmpty && digits.all isDigit

/-- The part of a number behind its integer. -/
def isFraction : Bytes → Bool
  | [] => true
  | point :: rest =>
      if point == byte '.' then
        !(rest.takeWhile isDigit).isEmpty && isExponent (rest.dropWhile isDigit)
      else isExponent (point :: rest)

/-- The grammar of a number. -/
def isNumber (literal : Bytes) : Bool :=
  let unsigned :=
    if literal.head? = some (byte '-') then literal.tail else literal
  let integer := unsigned.takeWhile isDigit
  !integer.isEmpty && (integer.head? ≠ some (byte '0') || integer.length = 1) &&
    isFraction (unsigned.dropWhile isDigit)

/-- A byte behind a complete token. -/
def begin (b : UInt8) : Option (List Token × Mode) :=
  if isSpace b then some ([], .between)
  else if b = byte '"' then some ([], .string [])
  else if isDigit b || b = byte '-' then some ([], .number [b])
  else if isLetter b then some ([], .word [b])
  else if b = byte '\x7b' then some ([.openObject], .between)
  else if b = byte '\x7d' then some ([.closeObject], .between)
  else if b = byte '[' then some ([.openArray], .between)
  else if b = byte ']' then some ([.closeArray], .between)
  else if b = byte ':' then some ([.colon], .between)
  else if b = byte ',' then some ([.comma], .between)
  else none

/-- The token of a number, if it is one. -/
def numberToken (literal : Bytes) : Option Token :=
  if isNumber literal then some (.number literal) else none

/-- The token of a word, if it is one of the three. -/
def wordToken (letters : Bytes) : Option Token :=
  if letters = ascii "null" then some .null
  else if letters = ascii "true" then some (.bool true)
  else if letters = ascii "false" then some (.bool false)
  else none

/-- A byte that ends a number or a word begins the next token. -/
def next (token : Option Token) (b : UInt8) : Option (List Token × Mode) :=
  token.bind fun token =>
    (begin b).map fun (tokens, mode) => (token :: tokens, mode)

/-- One byte: the tokens that it completes, and the mode behind it. -/
def advance : Mode → UInt8 → Option (List Token × Mode)
  | .between, b => begin b
  | .string raw, b =>
      if b = byte '"' then some ([.string raw], .between)
      else if b = byte '\\' then some ([], .escape raw)
      -- A control character is to be escaped.
      else if b < 32 then none
      else some ([], .string (raw ++ [b]))
  | .escape raw, b =>
      if b = byte 'u' then some ([], .hex (raw ++ [byte '\\', b]) 4)
      else if (ascii "bfnrt\\/\"").contains b then
        some ([], .string (raw ++ [byte '\\', b]))
      else none
  | .hex raw left, b =>
      if isHex b then
        if left ≤ 1 then some ([], .string (raw ++ [b]))
        else some ([], .hex (raw ++ [b]) (left - 1))
      else none
  | .number literal, b =>
      if inNumber b then some ([], .number (literal ++ [b]))
      else next (numberToken literal) b
  | .word letters, b =>
      if isLetter b then some ([], .word (letters ++ [b]))
      else next (wordToken letters) b

/-- The tokens that some bytes complete. -/
def scan (mode : Mode) : Bytes → Option (List Token × Mode)
  | [] => some ([], mode)
  | b :: rest =>
      (advance mode b).bind fun (tokens, mode) =>
        (scan mode rest).map fun (others, mode) => (tokens ++ others, mode)

/-- The token that the end of the text completes. -/
def finish : Mode → Option (List Token)
  | .between => some []
  | .number literal => (numberToken literal).map ([·])
  | .word letters => (wordToken letters).map ([·])
  | .string _ | .escape _ | .hex _ _ => none

/-- The tokens of a text. -/
def lex (text : Bytes) : Option (List Token) :=
  (scan .between text).bind fun (tokens, mode) =>
    (finish mode).map (tokens ++ ·)

/-! ## Strings -/

/-- The value of a hexadecimal digit. -/
def hexValue (b : UInt8) : UInt16 :=
  if isDigit b then (b - 48).toUInt16
  else if 97 ≤ b then (b - 87).toUInt16
  else (b - 55).toUInt16

/-- The character behind a backslash. -/
def escaped (b : UInt8) : UInt16 :=
  if b = byte 'b' then 8
  else if b = byte 'f' then 12
  else if b = byte 'n' then 10
  else if b = byte 'r' then 13
  else if b = byte 't' then 9
  else b.toUInt16

/-- The code units of a string, some bytes of which have been gathered. -/
def codeUnits (gathered : Bytes) : Bytes → List UInt16
  | 92 :: 117 :: a :: b :: c :: d :: rest =>
      utf16 (fromUtf8 gathered) ++
        (hexValue a * 4096 + hexValue b * 256 + hexValue c * 16 + hexValue d) ::
          codeUnits [] rest
  | 92 :: b :: rest =>
      utf16 (fromUtf8 gathered) ++ escaped b :: codeUnits [] rest
  | b :: rest => codeUnits (gathered ++ [b]) rest
  | [] => utf16 (fromUtf8 gathered)

/-- The string that stands between two quotes.  Bytes that are no UTF-8 and lone
surrogates become U+FFFD. -/
def unquote (raw : Bytes) : String :=
  String.ofList (fromUtf16 (codeUnits [] raw))

/-! ## Values -/

/-- A JSON value, with its numbers as they are written. -/
inductive Value
  | null
  | bool (value : Bool)
  | number (literal : Bytes)
  | string (value : String)
  | array (elements : List Value)
  | object (members : List (String × Value))

/-- An array or an object that is open, with what it holds so far. -/
inductive Frame
  | array (elements : List Value)
  | object (members : List (String × Value)) (key : String)

/-- What the parser waits for. -/
inductive Parser
  | atValue (stack : List Frame)
  /-- Behind `[`. -/
  | atElement (stack : List Frame)
  /-- Behind an opening brace. -/
  | atMember (stack : List Frame)
  | atKey (members : List (String × Value)) (stack : List Frame)
  | atColon (members : List (String × Value)) (key : String) (stack : List Frame)
  | behind (value : Value) (stack : List Frame)

namespace Parser

variable (maxDepth : Nat)

/-- The first token of a value. -/
def first (stack : List Frame) : Token → Option Parser
  | .null => some (.behind .null stack)
  | .bool value => some (.behind (.bool value) stack)
  | .number literal => some (.behind (.number literal) stack)
  | .string raw => some (.behind (.string (unquote raw)) stack)
  | .openArray => if stack.length < maxDepth then some (.atElement stack) else none
  | .openObject => if stack.length < maxDepth then some (.atMember stack) else none
  | _ => none

/-- The parser takes a token. -/
def step : Parser → Token → Option Parser
  | .atValue stack, token => first maxDepth stack token
  | .atElement stack, .closeArray => some (.behind (.array []) stack)
  | .atElement stack, token => first maxDepth (.array [] :: stack) token
  | .atMember stack, .closeObject => some (.behind (.object []) stack)
  | .atMember stack, .string raw => some (.atColon [] (unquote raw) stack)
  | .atKey members stack, .string raw =>
      some (.atColon members (unquote raw) stack)
  | .atColon members key stack, .colon =>
      some (.atValue (.object members key :: stack))
  | .behind value (.array elements :: stack), .comma =>
      some (.atValue (.array (elements ++ [value]) :: stack))
  | .behind value (.array elements :: stack), .closeArray =>
      some (.behind (.array (elements ++ [value])) stack)
  | .behind value (.object members key :: stack), .comma =>
      some (.atKey (members ++ [(key, value)]) stack)
  | .behind value (.object members key :: stack), .closeObject =>
      some (.behind (.object (members ++ [(key, value)])) stack)
  | _, _ => none

/-- The value of a text that has come to its end. -/
def result : Parser → Option Value
  | .behind value [] => some value
  | _ => none

end Parser

/-- The value of a JSON text with at most so many arrays and objects inside of
each other. -/
def parse (maxDepth : Nat) (text : Bytes) : Option Value :=
  (lex text).bind fun tokens =>
    (run (Parser.step maxDepth) (.atValue []) tokens).bind Parser.result

/-! ## Texts in pieces -/

theorem scan_append
    {mode middle : Mode}
    {left : Bytes}
    {tokens : List Token}
    (scanned : scan mode left = some (tokens, middle))
    (right : Bytes) :
    scan mode (left ++ right) =
      (scan middle right).map fun (others, mode) => (tokens ++ others, mode) := by
  induction left generalizing mode tokens with
  | nil =>
      cases scanned
      simp
  | cons b left inductionHypothesis =>
      simp only [scan, Option.bind_eq_some_iff, Option.map_eq_some_iff] at scanned
      obtain ⟨⟨first, behind⟩, advanced, ⟨others, last⟩, rest, same⟩ := scanned
      obtain ⟨rfl, rfl⟩ := Prod.mk.inj same
      simp only [List.cons_append, scan, advanced, Option.bind_some,
        inductionHypothesis rest, Option.map_map]
      simp [Function.comp_def]

/-- A digit goes on with a number. -/
theorem advance_digit
    {b : UInt8}
    (digit : isDigit b = true)
    (literal : Bytes) :
    advance (.number literal) b = some ([], .number (literal ++ [b])) := by
  simp [advance, inNumber, digit]

theorem scan_digits
    {digits : Bytes}
    (all : ∀ b ∈ digits, isDigit b = true)
    (literal : Bytes) :
    scan (.number literal) digits = some ([], .number (literal ++ digits)) := by
  induction digits generalizing literal with
  | nil => simp [scan]
  | cons b digits inductionHypothesis =>
      have first := advance_digit (all b List.mem_cons_self) literal
      have others := inductionHypothesis
        (fun c member => all c (List.mem_cons_of_mem b member)) (literal ++ [b])
      simp [scan, first, others]

theorem begin_digit {b : UInt8} (digit : isDigit b = true) :
    begin b = some ([], .number [b]) := by
  have range : 48 ≤ b.toNat ∧ b.toNat ≤ 57 := by
    simpa [isDigit, UInt8.le_iff_toNat_le] using digit
  have notSpace : isSpace b = false := by
    simp only [isSpace, Bool.or_eq_false_iff, beq_eq_false_iff_ne, ne_eq]
    refine ⟨⟨⟨?_, ?_⟩, ?_⟩, ?_⟩ <;> rintro rfl <;> simp at range
  have notQuote : b ≠ byte '"' := by
    rintro rfl
    exact absurd range (by decide)
  rw [begin, notSpace, if_neg Bool.false_ne_true, if_neg notQuote, digit,
    Bool.true_or, if_pos rfl]

theorem isDigit_of_mem_decimal
    {n : Nat}
    {b : UInt8}
    (member : b ∈ decimal n) :
    isDigit b = true := by
  have range := digit_of_mem_decimal member
  simp [isDigit, UInt8.le_iff_toNat_le, range]

/-- A number as it is printed begins a number. -/
theorem scan_decimal (n : Nat) :
    scan .between (decimal n) = some ([], .number (decimal n)) := by
  cases printed : decimal n with
  | nil => exact absurd printed (decimal_ne_nil n)
  | cons b digits =>
      have all : ∀ c ∈ b :: digits, isDigit c = true := by
        rw [← printed]
        exact fun c member => isDigit_of_mem_decimal member
      have first := begin_digit (all b List.mem_cons_self)
      have others := scan_digits
        (fun c member => all c (List.mem_cons_of_mem b member)) [b]
      simp [scan, advance, first, others]

theorem isNumber_decimal (n : Nat) : isNumber (decimal n) = true := by
  have all : ∀ b ∈ decimal n, isDigit b = true :=
    fun b member => isDigit_of_mem_decimal member
  have notSigned : (decimal n).head? ≠ some (byte '-') := by
    intro signed
    exact absurd (all _ (List.mem_of_head? signed)) (by decide)
  have integer : (decimal n).takeWhile isDigit = decimal n :=
    List.takeWhile_eq_self_iff.mpr all
  have rest : (decimal n).dropWhile isDigit = [] :=
    List.dropWhile_eq_nil_iff.mpr all
  have nonempty : (decimal n).isEmpty = false :=
    List.isEmpty_eq_false_iff.mpr (decimal_ne_nil n)
  have leading : (decimal n).head? ≠ some (byte '0') ∨
      (decimal n).length = 1 := by
    rcases Nat.eq_zero_or_pos n with rfl | positive
    · exact Or.inr rfl
    · exact Or.inl (head?_decimal positive)
  simp only [isNumber, if_neg notSigned, integer, rest, nonempty, isFraction]
  simpa using leading

/-- A byte that begins a token ends a number that has been printed. -/
theorem advance_behind_decimal
    {b : UInt8}
    (outside : inNumber b = false)
    {tokens : List Token}
    {mode : Mode}
    (begins : begin b = some (tokens, mode))
    (n : Nat) :
    advance (.number (decimal n)) b =
      some (.number (decimal n) :: tokens, mode) := by
  simp [advance, outside, next, numberToken, isNumber_decimal, begins]

end Json
end LociTerm
