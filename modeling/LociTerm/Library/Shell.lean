import LociTerm.Library.Bytes
import Mathlib.Data.List.Nodup

/-!
# How a shell reads a line of words

The token recognition and the word expansions of the POSIX shell for a line
that consists of words, in the POSIX locale: blanks, quotes, comments, tilde
expansion, pathname expansion and quote removal.  A line with a control
operator, with a parameter expansion or with a command substitution has no
reading here, because what it becomes is not fixed by its text.
-/

namespace LociTerm
namespace Shell

/-- A word: its bytes, each with whether it is quoted. -/
abbrev Word : Type := List (UInt8 × Bool)

/-- What the tokenizer is inside of. -/
inductive Mode
  | between
  | bare
  | escaped
  | single
  | double
  | doubleEscaped
  | comment
  deriving DecidableEq

/-- A blank separates words. -/
def blank (b : UInt8) : Bool := b == 32 || b == 9

/-- The bytes that start an operator, a new line or a substitution. -/
def special (b : UInt8) : Bool :=
  (ascii "|&;<>()$`").contains b || b == 10

/-- The bytes that quote what follows them. -/
def quote (b : UInt8) : Bool :=
  b == byte '\\' || b == byte '\'' || b == byte '"'

/-- A byte that stands for itself in an unquoted word. -/
def plain (b : UInt8) : Bool := !blank b && !special b && !quote b

/-- The control characters. -/
def control (b : UInt8) : Bool := b < 32 || b == 127

/-- What one more byte makes of a word that is not quoted: the word that has
ended, and how the tokenizer goes on. -/
def moveBare (word : Word) (b : UInt8) : Option (Option Word × Mode × Word) :=
  if blank b then some (some word, .between, [])
  else if special b then none
  else if b = byte '\\' then some (none, .escaped, word)
  else if b = byte '\'' then some (none, .single, word)
  else if b = byte '"' then some (none, .double, word)
  else some (none, .bare, word ++ [(b, false)])

/-- One byte of a line. -/
def move (mode : Mode) (word : Word) (b : UInt8) :
    Option (Option Word × Mode × Word) :=
  match mode with
  | .between =>
      if blank b then some (none, .between, [])
      else if b = byte '#' then some (none, .comment, [])
      else moveBare [] b
  | .bare => moveBare word b
  | .escaped =>
      if b = 10 then some (none, .bare, word)
      else some (none, .bare, word ++ [(b, true)])
  | .single =>
      if b = byte '\'' then some (none, .bare, word)
      else some (none, .single, word ++ [(b, true)])
  | .double =>
      if b = byte '"' then some (none, .bare, word)
      else if b = byte '$' ∨ b = 96 then none
      else if b = byte '\\' then some (none, .doubleEscaped, word)
      else some (none, .double, word ++ [(b, true)])
  | .doubleEscaped =>
      if b = 10 then some (none, .double, word)
      else if b = byte '$' ∨ b = 96 ∨ b = byte '"' ∨ b = byte '\\' then
        some (none, .double, word ++ [(b, true)])
      else some (none, .double, word ++ [(byte '\\', true), (b, true)])
  | .comment => if b = 10 then none else some (none, .comment, [])

/-- The words of the rest of a line. -/
def wordsFrom : Mode → Word → Bytes → Option (List Word)
  | .between, _, [] => some []
  | .comment, _, [] => some []
  | .bare, word, [] => some [word]
  | _, _, [] => none
  | mode, word, b :: rest =>
      (move mode word b).bind fun (ended, next, current) =>
        (wordsFrom next current rest).map (ended.toList ++ ·)

/-- The words of a line. -/
def words (text : Bytes) : Option (List Word) := wordsFrom .between [] text

/-- The bytes of a word after quote removal. -/
def value (word : Word) : Bytes := word.map Prod.fst

/-- The word starts with a tilde prefix. -/
def tilde (word : Word) : Bool := word.head? == some (byte '~', false)

/-- The word is a pattern for pathname expansion. -/
def pattern (word : Word) : Bool :=
  word.any fun part => (ascii "*?[").contains part.1 && !part.2

/-- The fields that a word expands to, where `fnmatch` tells whether a path
matches a pattern and `paths` are the paths that exist. -/
def fields
    (fnmatch : Word → Bytes → Bool)
    (paths : List Bytes)
    (word : Word) : Option (List Bytes) :=
  if tilde word then none
  else if pattern word then
    match paths.filter (fnmatch word) with
    | [] => some [value word]
    | matched => some matched
  else some [value word]

/-- The fields of a line. -/
def readLine
    (fnmatch : Word → Bytes → Bool)
    (paths : List Bytes)
    (text : Bytes) : Option (List Bytes) :=
  (words text).bind fun found =>
    (found.mapM (fields fnmatch paths)).map List.flatten

/-! ## Plain bytes -/

/-- Bytes that stand for themselves form one word up to a blank. -/
theorem wordsFrom_bare_of_plain
    {text : Bytes}
    (plainText : ∀ b ∈ text, plain b = true)
    (word : Word) :
    wordsFrom .bare word (text ++ [32]) =
      some [word ++ text.map fun b => (b, false)] := by
  induction text generalizing word with
  | nil => simp [wordsFrom, move, moveBare, blank]
  | cons b rest inductionHypothesis =>
      have here := plainText b (by simp)
      simp only [plain, quote, Bool.and_eq_true, Bool.not_eq_true',
        Bool.or_eq_false_iff, beq_eq_false_iff_ne] at here
      obtain ⟨⟨notBlank, notSpecial⟩, ⟨notEscape, notSingle⟩, notDouble⟩ := here
      have later := inductionHypothesis
        (fun other member => plainText other (by simp [member]))
        (word ++ [(b, false)])
      simp only [List.cons_append, wordsFrom, move, moveBare, notBlank,
        notSpecial, notEscape, notSingle, notDouble, if_false, later,
        Bool.false_eq_true, Option.bind_some]
      simp

theorem words_of_plain
    {b : UInt8}
    {rest : Bytes}
    (plainText : ∀ c ∈ b :: rest, plain c = true)
    (noComment : b ≠ byte '#') :
    words (b :: rest ++ [32]) =
      some [(b :: rest).map fun c => (c, false)] := by
  have whole := wordsFrom_bare_of_plain plainText []
  have notBlank : blank b = false := by
    have here := plainText b (by simp)
    simp only [plain, Bool.and_eq_true, Bool.not_eq_true'] at here
    exact here.1.1
  rw [List.nil_append] at whole
  rw [← whole]
  simp only [words, List.cons_append, wordsFrom, move, notBlank, noComment,
    Bool.false_eq_true, if_false]

/-! ## Bytes that are lost -/

/-- The number of bytes of all words. -/
def size (found : List Word) : Nat := (found.map List.length).sum

/-- How many bytes a backslash that has been read may still add. -/
def Mode.slack : Mode → Nat
  | .escaped | .doubleEscaped => 1
  | _ => 0

/-- One byte of a line adds at most one byte to the words. -/
theorem size_move
    {mode next : Mode}
    {word current : Word}
    {b : UInt8}
    {ended : Option Word}
    (moved : move mode word b = some (ended, next, current)) :
    size ended.toList + current.length + next.slack ≤
      word.length + 1 + mode.slack := by
  have bare : ∀ word : Word, moveBare word b = some (ended, next, current) →
      size ended.toList + current.length + next.slack ≤ word.length + 1 := by
    intro word moved
    unfold moveBare at moved
    split_ifs at moved <;> cases moved <;> simp [size, Mode.slack]
  cases mode with
  | between =>
      simp only [move] at moved
      split_ifs at moved
      · cases moved
        simp [size, Mode.slack]
      · cases moved
        simp [size, Mode.slack]
      · have bound := bare [] moved
        simp only [List.length_nil] at bound
        omega
  | bare => exact bare word moved
  | escaped | single | double | doubleEscaped | comment =>
      simp only [move] at moved
      split_ifs at moved <;> cases moved <;> simp [size, Mode.slack] <;> omega

theorem wordsFrom_cons
    {mode : Mode}
    {word : Word}
    {b : UInt8}
    {text : Bytes}
    {found : List Word}
    (reads : wordsFrom mode word (b :: text) = some found) :
    ∃ ended next current others,
      move mode word b = some (ended, next, current) ∧
        wordsFrom next current text = some others ∧
        found = ended.toList ++ others := by
  have unfolded : wordsFrom mode word (b :: text) =
      (move mode word b).bind fun (ended, next, current) =>
        (wordsFrom next current text).map (ended.toList ++ ·) := by
    cases mode <;> rfl
  rw [unfolded] at reads
  obtain ⟨⟨ended, next, current⟩, moved, rest⟩ := Option.bind_eq_some_iff.mp reads
  obtain ⟨others, later, rfl⟩ := Option.map_eq_some_iff.mp rest
  exact ⟨ended, next, current, others, moved, later, rfl⟩

/-- A text and a blank have words of no more bytes than the text has. -/
theorem size_le
    {mode : Mode}
    {word : Word}
    {text : Bytes}
    {found : List Word}
    (reads : wordsFrom mode word (text ++ [32]) = some found) :
    size found ≤ word.length + text.length + mode.slack := by
  induction text generalizing mode word found with
  | nil =>
      obtain ⟨ended, next, current, others, moved, later, rfl⟩ := wordsFrom_cons reads
      cases mode with
      | between | bare =>
          simp only [move, moveBare, blank] at moved
          cases moved
          cases later
          simp [size]
      | escaped =>
          cases moved
          cases later
          simp [size, Mode.slack]
      | single | double | doubleEscaped =>
          cases moved
          cases later
      | comment =>
          cases moved
          cases later
          simp [size]
  | cons b rest inductionHypothesis =>
      obtain ⟨ended, next, current, others, moved, later, rfl⟩ := wordsFrom_cons reads
      have step := size_move moved
      have bound := inductionHypothesis later
      simp only [size, List.map_append, List.sum_append, List.length_cons] at *
      omega

/-- A text of which no byte is lost consists of plain bytes. -/
theorem plain_of_size
    {word : Word}
    {text : Bytes}
    {found : List Word}
    (reads : wordsFrom .bare word (text ++ [32]) = some found)
    (no_backslash : byte '\\' ∉ text)
    (whole : word.length + text.length ≤ size found) :
    (∀ b ∈ text, plain b = true) ∧
      found = [word ++ text.map fun b => (b, false)] := by
  have everyPlain : ∀ b ∈ text, plain b = true := by
    induction text generalizing word found with
    | nil => simp
    | cons b rest inductionHypothesis =>
        obtain ⟨ended, next, current, others, moved, later, rfl⟩ :=
          wordsFrom_cons reads
        have bound := size_le later
        have escape : b ≠ byte '\\' := fun same => no_backslash (by simp [same])
        simp only [move, moveBare, escape, if_false] at moved
        simp only [size, List.map_append, List.sum_append, List.length_cons]
          at whole bound
        split_ifs at moved with separates operator single double
        · cases moved
          simp [Mode.slack] at whole bound
          omega
        · cases moved
          simp [Mode.slack] at whole bound
          omega
        · cases moved
          simp [Mode.slack] at whole bound
          omega
        · cases moved
          have here : plain b = true := by
            simp [plain, quote, separates, operator, single, double, escape]
          have onward := inductionHypothesis later
            (fun member => no_backslash (by simp [member]))
            (by simpa [size, Nat.add_assoc, Nat.add_comm, Nat.add_left_comm]
              using whole)
          rintro c (_ | ⟨_, member⟩)
          · exact here
          · exact onward c member
  refine ⟨everyPlain, ?_⟩
  rw [wordsFrom_bare_of_plain everyPlain] at reads
  exact (Option.some.inj reads).symm

/-! ## A path as one word -/

/-- A word without quotes. -/
def literal (text : Bytes) : Word := text.map fun b => (b, false)

@[simp] theorem value_literal (text : Bytes) : value (literal text) = text := by
  simp [value, literal, List.map_map, Function.comp_def]

theorem tilde_literal (text : Bytes) :
    tilde (literal text) = (text.head? == some (byte '~')) := by
  cases text with
  | nil => rfl
  | cons b rest => simp [tilde, literal, Bool.beq_eq_decide_eq]

theorem pattern_literal (text : Bytes) :
    pattern (literal text) = text.any fun b => (ascii "*?[").contains b := by
  simp [pattern, literal, List.any_map, Function.comp_def]

theorem words_cons_eq
    {b : UInt8}
    {rest : Bytes}
    (separates : blank b = false)
    (noComment : b ≠ byte '#') :
    words (b :: rest) = wordsFrom .bare [] (b :: rest) := by
  simp only [words, wordsFrom, move, separates, noComment, Bool.false_eq_true,
    if_false]

/-- A text that is read back byte for byte as one word has no bytes with a
meaning of their own. -/
theorem plain_of_words
    {path : Bytes}
    {word : Word}
    (no_backslash : byte '\\' ∉ path)
    (nonempty : path ≠ [])
    (reads : words (path ++ [32]) = some [word])
    (same : value word = path) :
    (∀ b ∈ path, plain b = true) ∧ path.head? ≠ some (byte '#') ∧
      word = literal path := by
  have whole : word.length = path.length := by
    rw [← same, value, List.length_map]
  cases path with
  | nil => exact absurd rfl nonempty
  | cons b rest =>
      have shorter : ∀ mode, mode = .between ∨ mode = .comment →
          wordsFrom mode [] (rest ++ [32]) ≠ some [word] := by
        intro mode which later
        have bound := size_le later
        have slack : mode.slack = 0 := by rcases which with rfl | rfl <;> rfl
        rw [slack, size, List.map_singleton, List.sum_singleton, whole] at bound
        simp only [List.length_nil, List.length_cons] at bound
        omega
      have separates : blank b = false := by
        by_contra separator
        rw [Bool.not_eq_false] at separator
        refine shorter .between (.inl rfl) ?_
        simpa [words, wordsFrom, move, separator] using reads
      have noComment : b ≠ byte '#' := by
        rintro rfl
        refine shorter .comment (.inr rfl) ?_
        simpa [words, wordsFrom, move, separates] using reads
      rw [List.cons_append, words_cons_eq separates noComment,
        ← List.cons_append] at reads
      obtain ⟨everyPlain, shape⟩ := plain_of_size reads no_backslash
        (by simp [size, whole])
      refine ⟨everyPlain, by simpa using noComment, ?_⟩
      simpa [literal] using shape

/-- Where no path exists, every word is read as its value. -/
theorem mapM_fields_nil
    {fnmatch : Word → Bytes → Bool}
    {found : List Word}
    {read : List (List Bytes)}
    (mapped : found.mapM (fields fnmatch []) = some read) :
    read = found.map (fun word => [value word]) ∧
      ∀ word ∈ found, tilde word = false := by
  induction found generalizing read with
  | nil =>
      cases mapped
      simp
  | cons word rest inductionHypothesis =>
      rw [List.mapM_cons] at mapped
      obtain ⟨first, here, mapped⟩ := Option.bind_eq_some_iff.mp mapped
      obtain ⟨others, later, same⟩ := Option.bind_eq_some_iff.mp mapped
      cases same
      obtain ⟨rfl, noTilde⟩ := inductionHypothesis later
      unfold fields at here
      split at here
      · cases here
      · rename_i notTilde
        rw [Bool.not_eq_true] at notTilde
        have shape : first = [value word] := by
          split at here <;> cases here <;> rfl
        refine ⟨by simp [shape], ?_⟩
        rintro other (_ | ⟨_, member⟩)
        · exact notTilde
        · exact noTilde other member

theorem readLine_of_words
    {fnmatch : Word → Bytes → Bool}
    {paths : List Bytes}
    {text : Bytes}
    {word : Word}
    (single : words text = some [word]) :
    readLine fnmatch paths text = fields fnmatch paths word := by
  unfold readLine
  rw [single, Option.bind_some, List.mapM_cons]
  cases fields fnmatch paths word <;> simp

/-- Whatever paths exist, a path and a blank are read as that path exactly if
its bytes have no meaning of their own, it does not start as a comment or a
tilde prefix does, and it matches no other path as a pattern. -/
theorem readLine_eq_iff
    {fnmatch : Word → Bytes → Bool}
    {path : Bytes}
    (no_backslash : byte '\\' ∉ path)
    (nonempty : path ≠ []) :
    (∀ paths : List Bytes, paths.Nodup →
      readLine fnmatch paths (path ++ [32]) = some [path]) ↔
      (∀ b ∈ path, plain b = true) ∧ path.head? ≠ some (byte '#') ∧
        path.head? ≠ some (byte '~') ∧
        (pattern (literal path) = true →
          ∀ other, fnmatch (literal path) other = true → other = path) := by
  constructor
  · intro always
    obtain ⟨found, reads, rest⟩ :=
      Option.bind_eq_some_iff.mp (always [] List.nodup_nil)
    obtain ⟨read, mapped, flat⟩ := Option.map_eq_some_iff.mp rest
    obtain ⟨rfl, noTilde⟩ := mapM_fields_nil mapped
    have values : found.map value = [path] := by
      rw [← flat, List.map_eq_flatMap, List.flatMap_def]
    obtain ⟨word, rfl, same⟩ := List.map_eq_singleton_iff.mp values
    obtain ⟨everyPlain, noComment, rfl⟩ :=
      plain_of_words no_backslash nonempty reads same
    have notTilde := noTilde _ (List.mem_singleton.mpr rfl)
    refine ⟨everyPlain, noComment, ?_, ?_⟩
    · simpa [tilde_literal] using notTilde
    · intro isPattern other matched
      have alone := always [other] (List.nodup_singleton other)
      rw [readLine_of_words reads, fields, notTilde, isPattern,
        List.filter_cons_of_pos (by simpa using matched)] at alone
      simpa using alone
  · rintro ⟨everyPlain, noComment, noTilde, onlyItself⟩ paths nodup
    have single : words (path ++ [32]) = some [literal path] := by
      cases path with
      | nil => exact absurd rfl nonempty
      | cons b rest =>
          exact words_of_plain everyPlain (by simpa using noComment)
    have notTilde : tilde (literal path) = false := by
      simpa [tilde_literal] using noTilde
    rw [readLine_of_words single, fields, notTilde]
    cases isPattern : pattern (literal path) with
    | false => simp
    | true =>
        cases matched : paths.filter (fnmatch (literal path)) with
        | nil => simp
        | cons first others =>
            have every : ∀ other ∈ first :: others, other = path := by
              intro other member
              rw [← matched] at member
              exact onlyItself isPattern other (List.mem_filter.mp member).2
            have distinct : (first :: others).Nodup := matched ▸ nodup.filter _
            have noMore : others = [] := by
              cases others with
              | nil => rfl
              | cons second rest =>
                  have same : first = second :=
                    (every first (by simp)).trans (every second (by simp)).symm
                  simp [same] at distinct
            simp [noMore, every first (by simp)]

end Shell
end LociTerm
