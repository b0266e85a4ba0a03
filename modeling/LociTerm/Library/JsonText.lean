import LociTerm.Library.Json

/-!
# Writing JSON

Values as a writer has them, with strings of any type, and the text without
spaces that it writes.  What a writer puts between the quotes of a string is a
parameter.  The text of a value is read back as what the value says.
-/

namespace LociTerm
namespace Json

open Unicode

/-- A literal that the grammar of numbers allows. -/
structure Numeral where
  literal : Bytes
  valid : isNumber literal = true
  deriving DecidableEq

/-- How a writer puts a string between quotes, and what the string says to a
reader. -/
structure Quoting (σ : Type) where
  quote : σ → Bytes
  meaning : σ → String
  scans : ∀ text, scan (.string []) (quote text) =
    some ([], .string (quote text))
  reads : ∀ text, unquote (quote text) = meaning text

/-- A value that is to be written. -/
inductive Document (σ : Type)
  | null
  | bool (value : Bool)
  | number (numeral : Numeral)
  | string (text : σ)
  | array (elements : List (Document σ))
  | object (members : List (σ × Document σ))

variable {σ : Type}

/-- A string between its quotes. -/
def Quoting.quoted (quoting : Quoting σ) (text : σ) : Bytes :=
  byte '"' :: (quoting.quote text ++ [byte '"'])

namespace Document

/-! ## The text -/

mutual

/-- The text of a value. -/
def print (quoting : Quoting σ) : Document σ → Bytes
  | .null => ascii "null"
  | .bool true => ascii "true"
  | .bool false => ascii "false"
  | .number numeral => numeral.literal
  | .string text => quoting.quoted text
  | .array elements => byte '[' :: (printElements quoting elements ++ [byte ']'])
  | .object members =>
      byte '\x7b' :: (printMembers quoting members ++ [byte '\x7d'])

/-- The elements of an array, with commas between them. -/
def printElements (quoting : Quoting σ) : List (Document σ) → Bytes
  | [] => []
  | [element] => element.print quoting
  | element :: next :: others =>
      element.print quoting ++
        byte ',' :: printElements quoting (next :: others)

/-- The members of an object, with commas between them. -/
def printMembers (quoting : Quoting σ) : List (σ × Document σ) → Bytes
  | [] => []
  | [(key, value)] => quoting.quoted key ++ byte ':' :: value.print quoting
  | (key, value) :: next :: others =>
      quoting.quoted key ++ byte ':' :: (value.print quoting ++
        byte ',' :: printMembers quoting (next :: others))

end

mutual

/-- The value that a reader gets. -/
def value (quoting : Quoting σ) : Document σ → Value
  | .null => .null
  | .bool value => .bool value
  | .number numeral => .number numeral.literal
  | .string text => .string (quoting.meaning text)
  | .array elements => .array (valueElements quoting elements)
  | .object members => .object (valueMembers quoting members)

/-- The values of the elements of an array. -/
def valueElements (quoting : Quoting σ) : List (Document σ) → List Value
  | [] => []
  | element :: others => element.value quoting :: valueElements quoting others

/-- The members of an object with their values. -/
def valueMembers (quoting : Quoting σ) :
    List (σ × Document σ) → List (String × Value)
  | [] => []
  | (key, value) :: others =>
      (quoting.meaning key, value.value quoting) :: valueMembers quoting others

end

mutual

/-- How many arrays and objects there are inside of each other. -/
def depth : Document σ → Nat
  | .null | .bool _ | .number _ | .string _ => 0
  | .array elements => depthElements elements + 1
  | .object members => depthMembers members + 1

/-- The greatest depth of the elements. -/
def depthElements : List (Document σ) → Nat
  | [] => 0
  | element :: others => max element.depth (depthElements others)

/-- The greatest depth of the members. -/
def depthMembers : List (σ × Document σ) → Nat
  | [] => 0
  | (_, value) :: others => max value.depth (depthMembers others)

end

mutual

/-- The tokens of a value. -/
def tokens (quoting : Quoting σ) : Document σ → List Token
  | .null => [.null]
  | .bool value => [.bool value]
  | .number numeral => [.number numeral.literal]
  | .string text => [.string (quoting.quote text)]
  | .array elements =>
      .openArray :: (tokensElements quoting elements ++ [.closeArray])
  | .object members =>
      .openObject :: (tokensMembers quoting members ++ [.closeObject])

/-- The tokens of the elements, with commas between them. -/
def tokensElements (quoting : Quoting σ) : List (Document σ) → List Token
  | [] => []
  | [element] => element.tokens quoting
  | element :: next :: others =>
      element.tokens quoting ++
        .comma :: tokensElements quoting (next :: others)

/-- The tokens of the members, with commas between them. -/
def tokensMembers (quoting : Quoting σ) :
    List (σ × Document σ) → List Token
  | [] => []
  | [(key, value)] =>
      .string (quoting.quote key) :: .colon :: value.tokens quoting
  | (key, value) :: next :: others =>
      .string (quoting.quote key) :: .colon :: (value.tokens quoting ++
        .comma :: tokensMembers quoting (next :: others))

end

end Document

/-! ## Numerals -/

theorem inNumber_of_isDigit {b : UInt8} (digit : isDigit b = true) :
    inNumber b = true := by
  simp [inNumber, digit]

theorem inNumber_of_isExponent
    {literal : Bytes}
    (exponent : isExponent literal = true) :
    ∀ b ∈ literal, inNumber b = true := by
  cases literal with
  | nil => simp
  | cons e rest =>
      simp only [isExponent, Bool.and_eq_true, Bool.or_eq_true, beq_iff_eq]
        at exponent
      obtain ⟨⟨letter, _⟩, digits⟩ := exponent
      have first : inNumber e = true := by
        rcases letter with rfl | rfl <;> decide
      intro b member
      rcases List.mem_cons.mp member with rfl | later
      · exact first
      · cases rest with
        | nil => cases later
        | cons sign others =>
            simp only at digits
            split at digits
            · next signed =>
                rcases List.mem_cons.mp later with rfl | inside
                · rcases signed with rfl | rfl <;> decide
                · exact inNumber_of_isDigit (List.all_eq_true.mp digits b inside)
            · exact inNumber_of_isDigit (List.all_eq_true.mp digits b later)

theorem inNumber_of_split
    {literal : Bytes}
    (rest : ∀ b ∈ literal.dropWhile isDigit, inNumber b = true) :
    ∀ b ∈ literal, inNumber b = true := by
  intro b member
  rw [← List.takeWhile_append_dropWhile (p := isDigit) (l := literal)] at member
  rcases List.mem_append.mp member with digit | other
  · exact inNumber_of_isDigit (List.mem_takeWhile_imp digit)
  · exact rest b other

theorem inNumber_of_isFraction
    {literal : Bytes}
    (fraction : isFraction literal = true) :
    ∀ b ∈ literal, inNumber b = true := by
  cases literal with
  | nil => simp
  | cons point rest =>
      simp only [isFraction] at fraction
      split at fraction
      · next isPoint =>
          rw [beq_iff_eq] at isPoint
          rw [Bool.and_eq_true] at fraction
          have others := inNumber_of_split
            (inNumber_of_isExponent fraction.2)
          intro b member
          rcases List.mem_cons.mp member with rfl | later
          · rw [isPoint]
            decide
          · exact others b later
      · exact inNumber_of_isExponent fraction

namespace Numeral

/-- A numeral begins with a digit or a sign and goes on with bytes that may
stand in a number. -/
theorem literal_eq_cons (numeral : Numeral) :
    ∃ b rest, numeral.literal = b :: rest ∧
      (isDigit b = true ∨ b = byte '-') ∧
      ∀ other ∈ rest, inNumber other = true := by
  obtain ⟨literal, valid⟩ := numeral
  simp only [isNumber, Bool.and_eq_true] at valid
  obtain ⟨⟨nonempty, _⟩, fraction⟩ := valid
  have all := inNumber_of_split (inNumber_of_isFraction fraction)
  cases literal with
  | nil => simp at nonempty
  | cons b rest =>
      refine ⟨b, rest, rfl, ?_⟩
      by_cases sign : b = byte '-'
      · refine ⟨Or.inr sign, fun other member => all other ?_⟩
        simpa [sign] using member
      · simp only [List.head?_cons, Option.some.injEq, if_neg sign] at nonempty all
        refine ⟨Or.inl ?_, fun other member => all other (by simp [member])⟩
        by_contra noDigit
        simp [noDigit] at nonempty

end Numeral

theorem begin_sign : begin (byte '-') = some ([], .number [byte '-']) := by
  decide

theorem scan_inNumber
    {rest : Bytes}
    (all : ∀ b ∈ rest, inNumber b = true)
    (literal : Bytes) :
    scan (.number literal) rest = some ([], .number (literal ++ rest)) := by
  induction rest generalizing literal with
  | nil => simp [scan]
  | cons b rest inductionHypothesis =>
      have first : advance (.number literal) b =
          some ([], .number (literal ++ [b])) := by
        simp [advance, all b List.mem_cons_self]
      have others := inductionHypothesis
        (fun c member => all c (List.mem_cons_of_mem b member)) (literal ++ [b])
      simp [scan, first, others]

theorem scan_numeral (numeral : Numeral) :
    scan .between numeral.literal = some ([], .number numeral.literal) := by
  obtain ⟨b, rest, literal, first, others⟩ := numeral.literal_eq_cons
  have begins : begin b = some ([], .number [b]) := by
    rcases first with digit | rfl
    · exact begin_digit digit
    · exact begin_sign
  rw [literal]
  simp [scan, advance, begins, scan_inNumber others]

/-! ## What a text owes -/

/-- What holds of each element of a list is found by looking at each. -/
theorem forall_mem_of_all
    {α : Type}
    {property : α → Prop}
    [DecidablePred property]
    {elements : List α}
    (all : (elements.all fun element => decide (property element)) = true) :
    ∀ element ∈ elements, property element := by
  simpa using all

/-- The mode completes these tokens when the text ends or goes on with a comma,
a closing bracket or a line feed. -/
structure Mode.Owes (mode : Mode) (tokens : List Token) : Prop where
  finish : finish mode = some tokens
  advance : ∀ b ∈ ascii ",]\x7d\n", advance mode b =
    (begin b).map fun (others, next) => (tokens ++ others, next)

namespace Mode.Owes

theorem between : Mode.between.Owes [] where
  finish := rfl
  advance := forall_mem_of_all (by decide)

theorem number (numeral : Numeral) :
    (Mode.number numeral.literal).Owes [.number numeral.literal] where
  finish := by simp [Json.finish, numberToken, numeral.valid]
  advance := by
    intro b member
    have all : ∀ b ∈ ascii ",]\x7d\n", inNumber b = false :=
      forall_mem_of_all (by decide)
    have outside := all b member
    simp [Json.advance, outside, next, numberToken, numeral.valid]

theorem word
    {letters : Bytes}
    {token : Token}
    (known : wordToken letters = some token) :
    (Mode.word letters).Owes [token] where
  finish := by simp [Json.finish, known]
  advance := by
    intro b member
    have all : ∀ b ∈ ascii ",]\x7d\n", isLetter b = false :=
      forall_mem_of_all (by decide)
    have outside := all b member
    simp [Json.advance, outside, next, known]

end Mode.Owes

/-- The text is read as these tokens, the last of which may wait for what comes
behind it. -/
def Lexes (text : Bytes) (tokens : List Token) : Prop :=
  ∃ done mode owed, scan .between text = some (done, mode) ∧
    mode.Owes owed ∧ tokens = done ++ owed

/-- The text is read as these tokens, and the last one is complete. -/
def Closes (text : Bytes) (tokens : List Token) : Prop :=
  scan .between text = some (tokens, .between)

theorem Lexes.lex {text : Bytes} {tokens : List Token}
    (lexes : Lexes text tokens) :
    lex text = some tokens := by
  obtain ⟨done, mode, owed, scanned, owes, rfl⟩ := lexes
  simp [Json.lex, scanned, owes.finish]

theorem Closes.lexes {text : Bytes} {tokens : List Token}
    (closes : Closes text tokens) :
    Lexes text tokens :=
  ⟨tokens, .between, [], closes, .between, (List.append_nil tokens).symm⟩

theorem Closes.append {left right : Bytes} {first second : List Token}
    (closes : Closes left first)
    (behind : Closes right second) :
    Closes (left ++ right) (first ++ second) := by
  rw [Closes, scan_append closes, behind]
  rfl

theorem Closes.append_lexes {left right : Bytes} {first second : List Token}
    (closes : Closes left first)
    (behind : Lexes right second) :
    Lexes (left ++ right) (first ++ second) := by
  obtain ⟨done, mode, owed, scanned, owes, rfl⟩ := behind
  refine ⟨first ++ done, mode, owed, ?_, owes, (List.append_assoc ..).symm⟩
  rw [scan_append closes, scanned]
  rfl

/-- A comma, a closing bracket or a line feed completes what stands before
it. -/
theorem Lexes.append_closes
    {left right : Bytes}
    {first second : List Token}
    {b : UInt8}
    (lexes : Lexes left first)
    (delimits : b ∈ ascii ",]\x7d\n")
    (behind : Closes (b :: right) second) :
    Closes (left ++ b :: right) (first ++ second) := by
  obtain ⟨done, mode, owed, scanned, owes, rfl⟩ := lexes
  rw [Closes, scan_append scanned]
  rw [Closes] at behind
  simp only [scan, advance, Option.bind_eq_some_iff, Option.map_eq_some_iff]
    at behind
  obtain ⟨⟨tokens, mode⟩, begins, ⟨others, last⟩, rest, same⟩ := behind
  obtain ⟨rfl, rfl⟩ := Prod.mk.inj same
  simp [scan, owes.advance b delimits, begins, rest]

theorem Closes.quoted (quoting : Quoting σ) (text : σ) :
    Closes (quoting.quoted text) [.string (quoting.quote text)] := by
  have opens : advance .between (byte '"') = some ([], .string []) := rfl
  have closes : scan (.string (quoting.quote text)) [byte '"'] =
      some ([.string (quoting.quote text)], .between) := rfl
  have inside := scan_append (quoting.scans text) [byte '"']
  rw [closes] at inside
  simp [Closes, Quoting.quoted, scan, opens, inside]

/-! ## Reading the tokens -/

namespace Document

variable (quoting : Quoting σ)

mutual

/-- The text of a value is read as its tokens. -/
theorem lexes_print : ∀ document : Document σ,
    Lexes (document.print quoting) (document.tokens quoting)
  | .null => by
      have scanned : scan .between (ascii "null") =
          some ([], .word (ascii "null")) := by decide
      exact ⟨[], .word (ascii "null"), [.null], scanned, .word rfl, rfl⟩
  | .bool true => by
      have scanned : scan .between (ascii "true") =
          some ([], .word (ascii "true")) := by decide
      exact ⟨[], .word (ascii "true"), [.bool true], scanned, .word rfl, rfl⟩
  | .bool false => by
      have scanned : scan .between (ascii "false") =
          some ([], .word (ascii "false")) := by decide
      exact ⟨[], .word (ascii "false"), [.bool false], scanned, .word rfl, rfl⟩
  | .number numeral =>
      ⟨[], .number numeral.literal, [.number numeral.literal],
        scan_numeral numeral, .number numeral, rfl⟩
  | .string text => (Closes.quoted quoting text).lexes
  | .array elements => by
      have opens : Closes [byte '['] [.openArray] := rfl
      have closes : Closes [byte ']'] [.closeArray] := rfl
      have inside := (lexes_printElements elements).append_closes
        (by decide) closes
      rw [print, tokens]
      exact (opens.append inside).lexes
  | .object members => by
      have opens : Closes [byte '\x7b'] [.openObject] := rfl
      have closes : Closes [byte '\x7d'] [.closeObject] := rfl
      have inside := (lexes_printMembers members).append_closes
        (by decide) closes
      rw [print, tokens]
      exact (opens.append inside).lexes

theorem lexes_printElements : ∀ elements : List (Document σ),
    Lexes (printElements quoting elements) (tokensElements quoting elements)
  | [] => Closes.lexes rfl
  | [element] => by
      rw [printElements, tokensElements]
      exact lexes_print element
  | element :: next :: others => by
      have comma : Closes [byte ','] [.comma] := rfl
      have first := (lexes_print element).append_closes (by decide) comma
      have whole := first.append_lexes (lexes_printElements (next :: others))
      rw [printElements, tokensElements]
      simpa using whole

theorem lexes_printMembers : ∀ members : List (σ × Document σ),
    Lexes (printMembers quoting members) (tokensMembers quoting members)
  | [] => Closes.lexes rfl
  | [(key, value)] => by
      have colon : Closes [byte ':'] [.colon] := rfl
      have named := (Closes.quoted quoting key).append colon
      have whole := named.append_lexes (lexes_print value)
      rw [printMembers, tokensMembers]
      simpa using whole
  | (key, value) :: next :: others => by
      have colon : Closes [byte ':'] [.colon] := rfl
      have comma : Closes [byte ','] [.comma] := rfl
      have named := (Closes.quoted quoting key).append colon
      have first := (lexes_print value).append_closes (by decide) comma
      have rest := first.append_lexes (lexes_printMembers (next :: others))
      have whole := named.append_lexes rest
      rw [printMembers, tokensMembers]
      simpa using whole

end

/-- Behind an opening bracket, a value is the first element. -/
theorem run_atElement
    (maxDepth : Nat)
    (stack : List Frame)
    (document : Document σ)
    (rest : List Token) :
    run (Parser.step maxDepth) (.atElement stack)
        (document.tokens quoting ++ rest) =
      run (Parser.step maxDepth) (.atValue (.array [] :: stack))
        (document.tokens quoting ++ rest) := by
  cases document <;> rfl

variable {maxDepth : Nat}

mutual

/-- The tokens of a value are read as the value. -/
theorem run_tokens
    (stack : List Frame)
    (rest : List Token) : ∀ document : Document σ,
    stack.length + document.depth ≤ maxDepth →
    run (Parser.step maxDepth) (.atValue stack)
        (document.tokens quoting ++ rest) =
      run (Parser.step maxDepth) (.behind (document.value quoting) stack) rest
  | .null, _ => rfl
  | .bool _, _ => rfl
  | .number _, _ => rfl
  | .string text, _ => by
      rw [tokens, value, ← quoting.reads]
      rfl
  | .array elements, fits => by
      rw [depth] at fits
      have shallow : stack.length < maxDepth := by omega
      rw [tokens, value, List.cons_append, List.append_assoc, run,
        Parser.step, Parser.first, if_pos shallow, Option.bind_some]
      cases elements with
      | nil => rfl
      | cons element others =>
          have inside := run_tokensElements stack [] rest (element :: others)
            (by simp) (by omega)
          rw [List.nil_append] at inside
          rw [← inside]
          cases others with
          | nil =>
              rw [tokensElements]
              exact run_atElement quoting maxDepth stack element _
          | cons next others =>
              rw [tokensElements, List.append_assoc]
              exact run_atElement quoting maxDepth stack element _
  | .object members, fits => by
      rw [depth] at fits
      have shallow : stack.length < maxDepth := by omega
      rw [tokens, value, List.cons_append, List.append_assoc, run,
        Parser.step, Parser.first, if_pos shallow, Option.bind_some]
      cases members with
      | nil => rfl
      | cons member others =>
          have inside := run_tokensMembers stack [] rest (member :: others)
            (by simp) (by omega)
          rw [List.nil_append] at inside
          rw [← inside]
          cases others <;> rfl

theorem run_tokensElements
    (stack : List Frame)
    (done : List Value)
    (rest : List Token) : ∀ elements : List (Document σ),
    elements ≠ [] →
    stack.length + depthElements elements + 1 ≤ maxDepth →
    run (Parser.step maxDepth) (.atValue (.array done :: stack))
        (tokensElements quoting elements ++ ([.closeArray] ++ rest)) =
      run (Parser.step maxDepth)
        (.behind (.array (done ++ valueElements quoting elements)) stack) rest
  | [], nonempty, _ => absurd rfl nonempty
  | [element], _, fits => by
      simp only [depthElements] at fits
      rw [tokensElements, run_tokens (.array done :: stack) _ element
        (by rw [List.length_cons]; omega)]
      rfl
  | element :: next :: others, _, fits => by
      rw [depthElements] at fits
      rw [tokensElements, List.append_assoc,
        run_tokens (.array done :: stack) _ element
          (by rw [List.length_cons]; omega)]
      have onward := run_tokensElements stack
        (done ++ [element.value quoting]) rest (next :: others)
        (by simp) (by omega)
      rw [List.append_assoc] at onward
      exact onward

theorem run_tokensMembers
    (stack : List Frame)
    (done : List (String × Value))
    (rest : List Token) : ∀ members : List (σ × Document σ),
    members ≠ [] →
    stack.length + depthMembers members + 1 ≤ maxDepth →
    run (Parser.step maxDepth) (.atKey done stack)
        (tokensMembers quoting members ++ ([.closeObject] ++ rest)) =
      run (Parser.step maxDepth)
        (.behind (.object (done ++ valueMembers quoting members)) stack) rest
  | [], nonempty, _ => absurd rfl nonempty
  | [(key, member)], _, fits => by
      simp only [depthMembers] at fits
      have inside := run_tokens
        (.object done (quoting.meaning key) :: stack)
        ([.closeObject] ++ rest) member (by rw [List.length_cons]; omega)
      rw [tokensMembers, List.cons_append, List.cons_append, run, Parser.step,
        Option.bind_some, run, Parser.step, Option.bind_some, quoting.reads,
        inside]
      rfl
  | (key, member) :: next :: others, _, fits => by
      rw [depthMembers] at fits
      have inside := run_tokens
        (.object done (quoting.meaning key) :: stack)
        (.comma :: (tokensMembers quoting (next :: others) ++
          ([.closeObject] ++ rest))) member (by rw [List.length_cons]; omega)
      have onward := run_tokensMembers stack
        (done ++ [(quoting.meaning key, member.value quoting)]) rest
        (next :: others) (by simp) (by omega)
      rw [List.append_assoc] at onward
      rw [tokensMembers, List.cons_append, List.cons_append, List.append_assoc,
        List.cons_append, run, Parser.step, Option.bind_some, run, Parser.step,
        Option.bind_some, quoting.reads, inside]
      exact onward

end

theorem parse_of_lexes
    {document : Document σ}
    {text : Bytes}
    (lexes : Lexes text (document.tokens quoting))
    (fits : document.depth ≤ maxDepth) :
    parse maxDepth text = some (document.value quoting) := by
  have parsed := run_tokens quoting [] [] document (by simpa using fits)
  rw [List.append_nil] at parsed
  rw [parse, lexes.lex, Option.bind_some, parsed]
  rfl

/-- What a writer has written is read as what it says. -/
theorem parse_print
    (document : Document σ)
    (fits : document.depth ≤ maxDepth) :
    parse maxDepth (document.print quoting) =
      some (document.value quoting) :=
  parse_of_lexes quoting (lexes_print quoting document) fits

/-- A line feed at the end makes no difference. -/
theorem parse_print_line
    (document : Document σ)
    (fits : document.depth ≤ maxDepth) :
    parse maxDepth (document.print quoting ++ [byte '\n']) =
      some (document.value quoting) := by
  have feed : Closes [byte '\n'] [] := rfl
  have line := (lexes_print quoting document).append_closes (by decide) feed
  rw [List.append_nil] at line
  exact parse_of_lexes quoting line.lexes fits

end Document
end Json
end LociTerm
