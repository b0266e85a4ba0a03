import LociTerm.Library.JsonText

/-!
# The first value of a stream

A decoder that reads a stream of bytes takes the first value and leaves alone
what comes behind it.  An object is complete at its closing brace, and no
sooner.
-/

namespace LociTerm
namespace Json

/-- The value that the first bytes make up. -/
def decode (maxDepth : Nat) (stream : Bytes) : Option Value :=
  (List.range (stream.length + 1)).findSome? fun n =>
    parse maxDepth (stream.take n)

/-! ## A parser inside of an array or an object -/

/-- An array or an object is open. -/
def Parser.Inside : Parser → Prop
  | .atValue stack | .behind _ stack => stack ≠ []
  | .atElement _ | .atMember _ | .atKey _ _ | .atColon _ _ _ => True

namespace Parser

variable {maxDepth : Nat}

theorem inside_first
    {parser : Parser}
    {stack : List Frame}
    {token : Token}
    (nested : stack ≠ [])
    (stepped : first maxDepth stack token = some parser) :
    parser.Inside := by
  cases token with
  | openArray | openObject =>
      simp only [first, Option.ite_none_right_eq_some, Option.some.injEq]
        at stepped
      obtain ⟨_, rfl⟩ := stepped
      trivial
  | null | bool _ | number _ | string _ =>
      cases stepped
      exact nested
  | closeArray | closeObject | colon | comma => cases stepped

/-- Only a closing bracket leads out. -/
theorem inside_step
    {parser next : Parser}
    {token : Token}
    (inside : parser.Inside)
    (stepped : step maxDepth parser token = some next) :
    next.Inside ∨
      (token = .closeArray ∨ token = .closeObject) ∧
        ∃ last, next = .behind last [] := by
  have closed (value : Value) (stack : List Frame) :
      (Parser.behind value stack).Inside ∨
        ∃ last, Parser.behind value stack = .behind last [] := by
    cases stack with
    | nil => exact Or.inr ⟨value, rfl⟩
    | cons frame stack => exact Or.inl (by simp [Inside])
  cases parser with
  | atValue stack => exact Or.inl (inside_first inside stepped)
  | atElement stack =>
      by_cases closes : token = .closeArray
      · subst closes
        cases stepped
        rcases closed (.array []) stack with within | out
        · exact Or.inl within
        · exact Or.inr ⟨Or.inl rfl, out⟩
      · rw [step] at stepped
        · exact Or.inl (inside_first (by simp) stepped)
        · exact closes
  | atMember stack =>
      cases token with
      | closeObject =>
          cases stepped
          rcases closed (.object []) stack with within | out
          · exact Or.inl within
          · exact Or.inr ⟨Or.inr rfl, out⟩
      | string raw =>
          cases stepped
          exact Or.inl trivial
      | _ => cases stepped
  | atKey members stack =>
      cases token with
      | string raw =>
          cases stepped
          exact Or.inl trivial
      | _ => cases stepped
  | atColon members key stack =>
      cases token with
      | colon =>
          cases stepped
          exact Or.inl (by simp [Inside])
      | _ => cases stepped
  | behind value stack =>
      cases stack with
      | nil => exact absurd rfl inside
      | cons frame stack =>
          cases frame with
          | array elements =>
              cases token with
              | comma =>
                  cases stepped
                  exact Or.inl (by simp [Inside])
              | closeArray =>
                  cases stepped
                  rcases closed (.array (elements ++ [value])) stack with
                    within | out
                  · exact Or.inl within
                  · exact Or.inr ⟨Or.inl rfl, out⟩
              | _ => cases stepped
          | object members key =>
              cases token with
              | comma =>
                  cases stepped
                  exact Or.inl trivial
              | closeObject =>
                  cases stepped
                  rcases closed (.object (members ++ [(key, value)])) stack with
                    within | out
                  · exact Or.inl within
                  · exact Or.inr ⟨Or.inr rfl, out⟩
              | _ => cases stepped

/-- A parser that has its value takes no more tokens. -/
theorem run_behind
    {value : Value}
    {final : Parser}
    {tokens : List Token}
    (ran : run (step maxDepth) (.behind value []) tokens = some final) :
    tokens = [] := by
  cases tokens with
  | nil => rfl
  | cons token tokens =>
      obtain ⟨_, stepped, _⟩ := (run_cons_eq_some _).mp ran
      cases stepped

/-- The tokens that lead out end with a closing bracket. -/
theorem run_inside
    {parser : Parser}
    {value : Value}
    {tokens : List Token}
    (inside : parser.Inside)
    (ran : run (step maxDepth) parser tokens = some (.behind value [])) :
    tokens.getLast? = some .closeArray ∨ tokens.getLast? = some .closeObject := by
  induction tokens generalizing parser with
  | nil =>
      cases ran
      exact absurd rfl inside
  | cons token tokens inductionHypothesis =>
      obtain ⟨next, stepped, rest⟩ := (run_cons_eq_some _).mp ran
      rcases inside_step inside stepped with within | ⟨closes, _, rfl⟩
      · have last := inductionHypothesis within rest
        cases tokens with
        | nil => simp at last
        | cons other tokens => simpa using last
      · rw [run_behind rest]
        rcases closes with rfl | rfl
        · exact Or.inl rfl
        · exact Or.inr rfl

end Parser

/-! ## Strict beginnings -/

/-- What the end of a text completes is no closing bracket. -/
theorem finish_getLast?
    {mode : Mode}
    {tokens : List Token}
    (finished : finish mode = some tokens) :
    tokens = [] ∧ mode = .between ∨
      ∃ token, tokens = [token] ∧ token ≠ .closeArray ∧
        token ≠ .closeObject := by
  cases mode with
  | between =>
      cases finished
      exact Or.inl ⟨rfl, rfl⟩
  | number literal =>
      obtain ⟨token, known, rfl⟩ := Option.map_eq_some_iff.mp finished
      simp only [numberToken, Option.ite_none_right_eq_some,
        Option.some.injEq] at known
      obtain ⟨_, rfl⟩ := known
      exact Or.inr ⟨_, rfl, by simp, by simp⟩
  | word letters =>
      obtain ⟨token, known, rfl⟩ := Option.map_eq_some_iff.mp finished
      refine Or.inr ⟨token, rfl, ?_⟩
      unfold wordToken at known
      split_ifs at known <;> cases known <;> simp
  | string raw | escape raw | hex raw left => cases finished

/-- A closing brace is a token of its own. -/
theorem advance_brace
    {mode : Mode}
    {tokens : List Token}
    (advanced : advance mode (byte '\x7d') = some (tokens, .between)) :
    tokens ≠ [] := by
  have begins : begin (byte '\x7d') = some ([.closeObject], .between) := rfl
  cases mode with
  | between =>
      cases advanced
      simp
  | string raw => cases advanced
  | escape raw => cases advanced
  | hex raw left => cases advanced
  | number literal | word letters =>
      simp only [advance] at advanced
      rw [if_neg (by decide), next, begins] at advanced
      simp only [Option.map_some, Option.bind_eq_some_iff, Option.some.injEq,
        Prod.mk.injEq] at advanced
      obtain ⟨_, _, rfl, _⟩ := advanced
      simp

/-- So it is in every text that ends with one outside of a string. -/
theorem scan_brace
    {front : Bytes}
    {mode : Mode}
    {tokens : List Token}
    (scanned : scan mode (front ++ [byte '\x7d']) = some (tokens, .between)) :
    tokens ≠ [] := by
  induction front generalizing mode tokens with
  | nil =>
      simp only [List.nil_append, scan, Option.bind_eq_some_iff,
        Option.map_some, List.append_nil, Option.some.injEq] at scanned
      obtain ⟨⟨others, last⟩, advanced, same⟩ := scanned
      cases same
      exact advance_brace advanced
  | cons b front inductionHypothesis =>
      simp only [List.cons_append, scan, Option.bind_eq_some_iff,
        Option.map_eq_some_iff] at scanned
      obtain ⟨⟨first, middle⟩, _, ⟨others, last⟩, rest, same⟩ := scanned
      obtain ⟨rfl, rfl⟩ := Prod.mk.inj same
      intro nothing
      exact inductionHypothesis rest (List.append_eq_nil_iff.mp nothing).2

/-- Of a text in braces, no strict beginning is a value. -/
theorem parse_take_of_closes
    {maxDepth : Nat}
    {body : Bytes}
    {tokens : List Token}
    {value : Value}
    (closes : Closes (byte '\x7b' :: (body ++ [byte '\x7d'])) tokens)
    (parsed : run (Parser.step maxDepth) (.atValue []) tokens =
      some (.behind value []))
    {n : Nat}
    (short : n ≤ body.length + 1) :
    parse maxDepth ((byte '\x7b' :: (body ++ [byte '\x7d'])).take n) = none := by
  cases n with
  | zero => rfl
  | succ n =>
      rw [List.take_succ_cons]
      cases early : parse maxDepth
          (byte '\x7b' :: (body ++ [byte '\x7d']).take n) with
      | none => rfl
      | some other =>
          exfalso
          -- What has been read by then, and what it leads to.
          simp only [parse, lex, Option.bind_eq_some_iff,
            Option.map_eq_some_iff] at early
          obtain ⟨_, ⟨⟨read, mode⟩, scanned, owed, finished, rfl⟩, parser, ran,
            result⟩ := early
          obtain ⟨head, rfl⟩ : ∃ inner, read = .openObject :: inner := by
            have opens : advance .between (byte '\x7b') =
                some ([.openObject], .between) := rfl
            rw [scan, opens, Option.bind_some] at scanned
            obtain ⟨⟨inner, _⟩, _, same⟩ := Option.map_eq_some_iff.mp scanned
            exact ⟨inner, (Prod.mk.inj same).1.symm⟩
          have complete : parser = .behind other [] := by
            unfold Parser.result at result
            split at result
            · cases result
              rfl
            · cases result
          subst complete
          obtain ⟨opened, stepped, inner⟩ := (run_cons_eq_some _).mp ran
          have inside : opened.Inside := by
            simp only [Parser.step, Parser.first,
              Option.ite_none_right_eq_some, Option.some.injEq] at stepped
            obtain ⟨_, rfl⟩ := stepped
            trivial
          have last : (head ++ owed).getLast? = some .closeArray ∨
              (head ++ owed).getLast? = some .closeObject :=
            Parser.run_inside inside inner
          rcases finish_getLast? finished with ⟨rfl, rfl⟩ |
            ⟨token, rfl, noArray, noObject⟩
          · -- The whole text would go on behind the value.
            rw [List.append_nil] at ran
            have whole := closes
            rw [Closes, ← List.take_append_drop n (body ++ [byte '\x7d']),
              ← List.cons_append, scan_append scanned] at whole
            obtain ⟨⟨others, mode⟩, rest, same⟩ :=
              Option.map_eq_some_iff.mp whole
            obtain ⟨rfl, rfl⟩ := Prod.mk.inj same
            obtain ⟨middle, first, second⟩ :=
              (run_append_eq_some _).mp parsed
            cases first.symm.trans ran
            have nothing := Parser.run_behind second
            rw [List.drop_append_of_le_length (by omega)] at rest
            exact scan_brace rest nothing
          · rw [List.getLast?_append] at last
            simp [noArray, noObject] at last

namespace Document

variable {σ : Type} (quoting : Quoting σ)

/-- The text of an object is complete at its end. -/
theorem closes_print (members : List (σ × Document σ)) :
    Closes ((Document.object members).print quoting)
      ((Document.object members).tokens quoting) := by
  have opens : Closes [byte '\x7b'] [.openObject] := rfl
  have closes : Closes [byte '\x7d'] [.closeObject] := rfl
  have inside := (lexes_printMembers quoting members).append_closes
    (by decide) closes
  rw [print, tokens]
  exact opens.append inside

/-- An object at the beginning of a stream is read as what it says, whatever
comes behind it. -/
theorem decode_print
    {maxDepth : Nat}
    {members : List (σ × Document σ)}
    (fits : (Document.object members).depth ≤ maxDepth)
    (behind : Bytes) :
    decode maxDepth ((Document.object members).print quoting ++ behind) =
      some ((Document.object members).value quoting) := by
  have closes := closes_print quoting members
  have parsed := run_tokens quoting [] [] (.object members)
    (show 0 + (Document.object members).depth ≤ maxDepth by omega)
  have whole := parse_print quoting (.object members) fits
  rw [List.append_nil] at parsed
  generalize (Document.object members).value quoting = value at *
  generalize (Document.object members).tokens quoting = tokens at *
  rw [print] at *
  generalize printMembers quoting members = body at *
  have length : (byte '\x7b' :: (body ++ [byte '\x7d'])).length =
      body.length + 2 := by simp
  rw [decode, List.findSome?_eq_some_iff]
  refine ⟨List.range (body.length + 2), body.length + 2,
    ((List.range behind.length).map Nat.succ).map (body.length + 2 + ·),
    ?_, ?_, ?_⟩
  · rw [List.length_append, length, Nat.add_assoc, List.range_add,
      List.range_succ_eq_map (n := behind.length), List.map_cons,
      Nat.add_zero]
  · rw [List.take_append_of_le_length (by omega), ← length, List.take_length]
    exact whole
  · intro n early
    rw [List.mem_range] at early
    rw [List.take_append_of_le_length (by omega)]
    exact parse_take_of_closes closes parsed (by omega)

end Document
end Json
end LociTerm
