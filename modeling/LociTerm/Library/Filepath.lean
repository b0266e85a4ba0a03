import LociTerm.Library.Bytes
import Mathlib.Data.List.DropRight

/-!
# Slash-separated paths

The lexical path functions of Go's `path/filepath` where the separator is a
slash: `Base`, `Ext`, `Clean`, `Join` and `Dir`.  The main facts are about a
path that is a directory joined with one plain element: its last element is
that element, and its directory is the cleaned directory.
-/

namespace LociTerm
namespace Filepath

/-- The separator. -/
def slash : UInt8 := byte '/'

/-- The byte that starts an extension. -/
def dot : UInt8 := byte '.'

/-- The element that names the directory above. -/
def dotDot : Bytes := [dot, dot]

/-- Whether the path starts at the root. -/
def rooted (path : Bytes) : Bool := path.head? == some slash

/-- The last element, with trailing slashes removed before. -/
def base (path : Bytes) : Bytes :=
  if path = [] then [dot]
  else
    let last := (path.rdropWhile (· == slash)).rtakeWhile (· != slash)
    if last = [] then [slash] else last

/-- The search for the last dot, from the end of the path on. -/
def extFrom : Bytes → Bytes → Bytes
  | [], _ => []
  | b :: before, after =>
      if b = slash then []
      else if b = dot then b :: after
      else extFrom before (b :: after)

/-- The extension: from the last dot of the last element on. -/
def ext (path : Bytes) : Bytes := extFrom path.reverse []

/-- One element of a path after the elements before it, the last one first. -/
def push (fromRoot : Bool) (stack : List Bytes) (element : Bytes) : List Bytes :=
  if element = [] ∨ element = [dot] then stack
  else if element = dotDot then
    match stack with
    | [] => if fromRoot then [] else [dotDot]
    | top :: below => if top = dotDot then dotDot :: top :: below else below
  else element :: stack

/-- The elements that remain of a path, the last one first. -/
def stack (path : Bytes) : List Bytes :=
  (path.splitOn slash).foldl (push (rooted path)) []

/-- The path with the given elements, the last one first. -/
def render (fromRoot : Bool) (elements : List Bytes) : Bytes :=
  let joined := [slash].intercalate elements.reverse
  if fromRoot then slash :: joined
  else if elements = [] then [dot] else joined

/-- The shortest path that is lexically the same. -/
def clean (path : Bytes) : Bytes :=
  if path = [] then [dot] else render (rooted path) (stack path)

/-- A directory and a name as one path. -/
def join (directory name : Bytes) : Bytes :=
  if directory ≠ [] then clean (directory ++ slash :: name)
  else if name ≠ [] then clean name
  else []

/-- All but the last element. -/
def dir (path : Bytes) : Bytes := clean (path.rdropWhile (· != slash))

/-! ## Plain elements -/

/-- A name that is one element of a path and stands for an entry of its
directory. -/
structure Plain (name : Bytes) : Prop where
  nonempty : name ≠ []
  not_dot : name ≠ [dot]
  not_dotDot : name ≠ dotDot
  no_slash : slash ∉ name

theorem push_of_plain
    {name : Bytes}
    (plain : Plain name)
    (fromRoot : Bool)
    (elements : List Bytes) :
    push fromRoot elements name = name :: elements := by
  simp [push, plain.nonempty, plain.not_dot, plain.not_dotDot]

theorem Plain.rooted_eq_false
    {name : Bytes}
    (plain : Plain name) :
    rooted name = false := by
  cases name with
  | nil => exact absurd rfl plain.nonempty
  | cons b rest =>
      have first : b ≠ slash := fun same => plain.no_slash (by simp [same])
      simp [rooted, first]

/-! ## Cleaned elements -/

/-- Elements as a cleaned path has them, the last one first: none is empty or
stands for the directory itself, and `..` occurs only at the start of a path
that is not rooted. -/
def Settled (fromRoot : Bool) : List Bytes → Prop
  | [] => True
  | element :: below =>
      (element ≠ [] ∧ element ≠ [dot] ∧ slash ∉ element) ∧
        (element = dotDot → fromRoot = false ∧ ∀ other ∈ below, other = dotDot) ∧
        Settled fromRoot below

theorem settled_push
    {fromRoot : Bool}
    {elements : List Bytes}
    {element : Bytes}
    (settled : Settled fromRoot elements)
    (no_slash : slash ∉ element) :
    Settled fromRoot (push fromRoot elements element) := by
  unfold push
  split
  · exact settled
  · rename_i kept
    rw [not_or] at kept
    split
    · cases elements with
      | nil =>
          cases fromRoot with
          | true => trivial
          | false => exact ⟨by decide, by simp, trivial⟩
      | cons top below =>
          dsimp only
          split
          · rename_i again
            obtain ⟨notRooted, above⟩ := settled.2.1 again
            refine ⟨by decide, fun _ => ⟨notRooted, ?_⟩, settled⟩
            rintro other (_ | ⟨_, member⟩)
            · exact again
            · exact above other member
          · exact settled.2.2
    · rename_i ordinary
      exact ⟨⟨kept.1, kept.2, no_slash⟩, fun same => absurd same ordinary, settled⟩

/-- Elements that are settled are pushed one on the other. -/
theorem push_of_settled
    {fromRoot : Bool}
    {element : Bytes}
    {below : List Bytes}
    (settled : Settled fromRoot (element :: below)) :
    push fromRoot below element = element :: below := by
  obtain ⟨⟨nonempty, notDot, -⟩, upwards, -⟩ := settled
  by_cases up : element = dotDot
  · obtain ⟨notRooted, above⟩ := upwards up
    rw [up] at nonempty notDot ⊢
    cases below with
    | nil => simp [push, nonempty, notDot, notRooted]
    | cons top rest =>
        have same : top = dotDot := above top (by simp)
        simp [push, nonempty, notDot, same]
  · simp [push, nonempty, notDot, up]

/-- Pushing settled elements in the order of the path gives them back. -/
theorem foldl_push_reverse
    {fromRoot : Bool}
    {elements : List Bytes}
    (settled : Settled fromRoot elements) :
    elements.reverse.foldl (push fromRoot) [] = elements := by
  induction elements with
  | nil => rfl
  | cons element below inductionHypothesis =>
      rw [List.reverse_cons, List.foldl_append, inductionHypothesis settled.2.2]
      exact push_of_settled settled

theorem settled_foldl_push
    {fromRoot : Bool}
    {elements : List Bytes}
    (settled : Settled fromRoot elements)
    (parts : List Bytes)
    (no_slash : ∀ part ∈ parts, slash ∉ part) :
    Settled fromRoot (parts.foldl (push fromRoot) elements) := by
  induction parts generalizing elements with
  | nil => exact settled
  | cons part rest inductionHypothesis =>
      exact inductionHypothesis (settled_push settled (no_slash part (by simp)))
        fun other member => no_slash other (by simp [member])

theorem slash_notMem_of_mem_splitOn
    {path part : Bytes}
    (member : part ∈ path.splitOn slash) :
    slash ∉ part := by
  induction path generalizing part with
  | nil =>
      rw [List.splitOn_nil, List.mem_singleton] at member
      simp [member]
  | cons b rest inductionHypothesis =>
      by_cases here : b = slash
      · subst here
        have parted := List.splitOn_append_cons_self (a := slash) [] rest
        rw [List.nil_append, List.splitOn_nil] at parted
        rw [parted] at member
        rcases List.mem_append.mp member with first | later
        · simp only [List.mem_singleton] at first
          simp [first]
        · exact inductionHypothesis later
      · have headed := List.splitOn_cons_eq_if_modifyHead (a := slash) b rest
        rw [if_neg (by simpa using here)] at headed
        rw [headed] at member
        cases parts : rest.splitOn slash with
        | nil => exact absurd parts (List.splitOn_ne_nil slash rest)
        | cons first others =>
            rw [parts, List.modifyHead_cons, List.mem_cons] at member
            rcases member with rfl | later
            · have free : slash ∉ first :=
                inductionHypothesis (by rw [parts]; simp)
              simp [free, Ne.symm here]
            · exact inductionHypothesis (by rw [parts]; simp [later])

theorem settled_stack (path : Bytes) : Settled (rooted path) (stack path) := by
  have empty : Settled (rooted path) [] := trivial
  exact settled_foldl_push empty _ fun _ member =>
    slash_notMem_of_mem_splitOn member

theorem Settled.no_slash
    {fromRoot : Bool}
    {elements : List Bytes}
    (settled : Settled fromRoot elements) :
    ∀ element ∈ elements, slash ∉ element := by
  induction elements with
  | nil => simp
  | cons first below inductionHypothesis =>
      rintro element (_ | ⟨_, member⟩)
      · exact settled.1.2.2
      · exact inductionHypothesis settled.2.2 element member

theorem Settled.nonempty
    {fromRoot : Bool}
    {elements : List Bytes}
    (settled : Settled fromRoot elements) :
    ∀ element ∈ elements, element ≠ [] := by
  induction elements with
  | nil => simp
  | cons first below inductionHypothesis =>
      rintro element (_ | ⟨_, member⟩)
      · exact settled.1.1
      · exact inductionHypothesis settled.2.2 element member

/-! ## Joining a directory and a plain element -/

theorem intercalate_concat (parts : List Bytes) (last : Bytes) :
    [slash].intercalate (parts ++ [last]) =
      if parts = [] then last
      else [slash].intercalate parts ++ slash :: last := by
  induction parts with
  | nil => simp
  | cons first rest inductionHypothesis =>
      cases rest with
      | nil => simp [List.intercalate]
      | cons second others =>
          simp only [List.cons_append, List.intercalate_cons_cons] at inductionHypothesis ⊢
          rw [inductionHypothesis]
          simp

/-- What stands before the last element of a rendered path. -/
def lead (fromRoot : Bool) (elements : List Bytes) : Bytes :=
  (if fromRoot then [slash] else []) ++
    if elements = [] then []
    else [slash].intercalate elements.reverse ++ [slash]

theorem render_cons (fromRoot : Bool) (name : Bytes) (elements : List Bytes) :
    render fromRoot (name :: elements) = lead fromRoot elements ++ name := by
  unfold render lead
  rw [List.reverse_cons, intercalate_concat]
  by_cases none : elements = []
  · cases fromRoot <;> simp [none]
  · cases fromRoot <;> simp [none]

/-- A directory joined with a plain element ends in that element. -/
theorem join_eq
    {name : Bytes}
    (plain : Plain name)
    (directory : Bytes) :
    join directory name =
      lead (rooted directory) (stack directory) ++ name := by
  have alone : name.splitOn slash = [name] :=
    List.splitOn_eq_singleton plain.no_slash
  unfold join
  split
  · rename_i named
    have start : rooted (directory ++ slash :: name) = rooted directory := by
      cases directory with
      | nil => exact absurd rfl named
      | cons b rest => rfl
    have elements :
        stack (directory ++ slash :: name) = name :: stack directory := by
      unfold stack
      rw [start, List.splitOn_append_cons_self, alone, List.foldl_append]
      exact push_of_plain plain _ _
    rw [clean, if_neg (by simp), start, elements, render_cons]
  · rename_i unnamed
    have nothing : directory = [] := not_not.mp unnamed
    subst nothing
    have elements : stack name = [name] := by
      unfold stack
      rw [alone]
      exact push_of_plain plain _ _
    rw [if_pos plain.nonempty, clean, if_neg plain.nonempty,
      plain.rooted_eq_false, elements, render_cons]
    rfl

theorem Plain.bne_slash
    {name : Bytes}
    (plain : Plain name) :
    ∀ b ∈ name, (b != slash) = true := by
  intro b member
  have other : b ≠ slash := fun same => plain.no_slash (same ▸ member)
  simp [other]

/-- What stands before the last element ends in a slash. -/
theorem lead_stops
    (fromRoot : Bool)
    (elements : List Bytes) :
    lead fromRoot elements = [] ∨
      ∃ before b, lead fromRoot elements = before ++ [b] ∧
        (b != slash) = false := by
  unfold lead
  by_cases none : elements = []
  · cases fromRoot with
    | true => exact .inr ⟨[], slash, by simp [none]⟩
    | false => exact .inl (by simp [none])
  · refine .inr ⟨(if fromRoot then [slash] else []) ++
      [slash].intercalate elements.reverse, slash, ?_⟩
    simp [none]

theorem rtakeWhile_append_of_forall
    {p : UInt8 → Bool}
    {before last : Bytes}
    (taken : ∀ b ∈ last, p b = true)
    (stops : before = [] ∨ ∃ start b, before = start ++ [b] ∧ p b = false) :
    (before ++ last).rtakeWhile p = last ∧
      (before ++ last).rdropWhile p = before := by
  induction last using List.reverseRecOn with
  | nil =>
      rcases stops with rfl | ⟨start, b, rfl, refused⟩
      · simp
      · simp [refused]
  | append_singleton rest b inductionHypothesis =>
      have accepted : p b = true := taken b (by simp)
      have earlier := inductionHypothesis fun c member => taken c (by simp [member])
      rw [← List.append_assoc, List.rtakeWhile_concat, List.rdropWhile_concat,
        if_pos accepted, if_pos accepted]
      exact ⟨by rw [earlier.1], earlier.2⟩

theorem Plain.rdropWhile_eq
    {name : Bytes}
    (plain : Plain name)
    (before : Bytes) :
    (before ++ name).rdropWhile (· == slash) = before ++ name := by
  obtain ⟨start, b, split⟩ : ∃ start b, name = start ++ [b] :=
    (List.eq_nil_or_concat' name).resolve_left plain.nonempty
  have last := plain.bne_slash b (by simp [split])
  rw [split, ← List.append_assoc, List.rdropWhile_concat_neg]
  simpa using last

/-- A plain element is its own last element. -/
theorem base_of_plain
    {name : Bytes}
    (plain : Plain name) :
    base name = name := by
  have stripped := plain.rdropWhile_eq []
  rw [List.nil_append] at stripped
  unfold base
  rw [if_neg plain.nonempty, stripped,
    List.rtakeWhile_eq_self_iff.mpr plain.bne_slash, if_neg plain.nonempty]

/-- The last element of a joined path is the name it was joined with. -/
theorem base_join
    {name : Bytes}
    (plain : Plain name)
    (directory : Bytes) :
    base (join directory name) = name := by
  rw [join_eq plain directory]
  unfold base
  rw [if_neg (by simp [plain.nonempty]), plain.rdropWhile_eq,
    (rtakeWhile_append_of_forall plain.bne_slash (lead_stops _ _)).1,
    if_neg plain.nonempty]

theorem rooted_intercalate
    {first : Bytes}
    (nonempty : first ≠ [])
    (no_slash : slash ∉ first)
    (rest : List Bytes)
    (after : Bytes) :
    rooted ([slash].intercalate (first :: rest) ++ after) = false := by
  obtain ⟨more, shape⟩ :
      ∃ more, [slash].intercalate (first :: rest) = first ++ more := by
    cases rest with
    | nil => exact ⟨[], by simp⟩
    | cons second others =>
        exact ⟨[slash] ++ [slash].intercalate (second :: others), by
          rw [List.intercalate_cons_cons]
          simp⟩
  cases first with
  | nil => exact absurd rfl nonempty
  | cons b tail =>
      have other : b ≠ slash := fun same => no_slash (by simp [same])
      simp [rooted, shape, other]

theorem rooted_lead
    {fromRoot : Bool}
    {elements : List Bytes}
    (settled : Settled fromRoot elements) :
    rooted (lead fromRoot elements) = fromRoot := by
  unfold lead
  cases fromRoot with
  | true => simp [rooted]
  | false =>
      by_cases none : elements = []
      · simp [none, rooted]
      · cases order : elements.reverse with
        | nil => exact absurd (by simpa using order) none
        | cons first rest =>
            have member : first ∈ elements := by
              rw [← List.mem_reverse, order]
              simp
            simpa [none] using
              rooted_intercalate (settled.nonempty first member)
                (settled.no_slash first member) rest [slash]

theorem stack_lead
    {fromRoot : Bool}
    {elements : List Bytes}
    (settled : Settled fromRoot elements) :
    stack (lead fromRoot elements) = elements := by
  unfold stack
  rw [rooted_lead settled]
  by_cases none : elements = []
  · subst none
    cases fromRoot <;> rfl
  · have parts :
        ([slash].intercalate elements.reverse ++ slash :: []).splitOn slash =
          elements.reverse ++ [[]] := by
      rw [List.splitOn_append_cons_self, List.splitOn_nil,
        List.splitOn_intercalate slash
          (fun part member => settled.no_slash part (List.mem_reverse.mp member))
          (by simpa using none)]
    have pushed :
        (elements.reverse ++ [[]]).foldl (push fromRoot) [] = elements := by
      rw [List.foldl_append, foldl_push_reverse settled]
      simp [push]
    cases fromRoot with
    | true =>
        have atRoot := List.splitOn_append_cons_self (a := slash) []
          ([slash].intercalate elements.reverse ++ [slash])
        rw [parts, List.nil_append, List.splitOn_nil] at atRoot
        simp only [lead, none, ↓reduceIte, List.singleton_append, atRoot]
        exact pushed
    | false =>
        simp only [lead, none, Bool.false_eq_true, ↓reduceIte, List.nil_append,
          parts]
        exact pushed

/-- What stands before the last element is cleaned to the elements it has. -/
theorem clean_lead
    {fromRoot : Bool}
    {elements : List Bytes}
    (settled : Settled fromRoot elements) :
    clean (lead fromRoot elements) = render fromRoot elements := by
  by_cases nothing : lead fromRoot elements = []
  · have start := rooted_lead settled
    have none := stack_lead settled
    rw [nothing] at start none
    subst start none
    rw [nothing]
    rfl
  · rw [clean, if_neg nothing, rooted_lead settled, stack_lead settled]

theorem render_stack (path : Bytes) :
    render (rooted path) (stack path) = clean path := by
  cases path with
  | nil => rfl
  | cons b rest => rw [clean, if_neg (by simp)]

/-- The directory of a joined path is the directory it was joined with. -/
theorem dir_join
    {name : Bytes}
    (plain : Plain name)
    (directory : Bytes) :
    dir (join directory name) = clean directory := by
  rw [dir, join_eq plain directory,
    (rtakeWhile_append_of_forall plain.bne_slash (lead_stops _ _)).2,
    clean_lead (settled_stack directory), render_stack]

/-- Joining with different names gives different paths. -/
theorem join_injective
    {directory first second : Bytes}
    (left : Plain first)
    (right : Plain second)
    (same : join directory first = join directory second) :
    first = second := by
  rw [← base_join left directory, same, base_join right directory]

/-! ## The bytes of a joined path -/

theorem mem_intercalate_iff {b : UInt8} {parts : List Bytes} (other : b ≠ slash) :
    b ∈ [slash].intercalate parts ↔ ∃ part ∈ parts, b ∈ part := by
  induction parts with
  | nil => simp
  | cons first rest inductionHypothesis =>
      cases rest with
      | nil => simp
      | cons second others =>
          rw [List.intercalate_cons_cons, List.mem_append, List.mem_append,
            inductionHypothesis]
          simp [other]

theorem mem_push
    {fromRoot : Bool}
    {elements : List Bytes}
    {element other : Bytes}
    (member : other ∈ push fromRoot elements element) :
    other ∈ elements ∨ other = element ∨ other = dotDot := by
  unfold push at member
  split at member
  · exact .inl member
  · split at member
    · split at member
      · split at member
        · cases member
        · exact .inr (.inr (List.mem_singleton.mp member))
      · split at member
        · rcases List.mem_cons.mp member with up | below
          · exact .inr (.inr up)
          · exact .inl below
        · exact .inl (List.mem_cons_of_mem _ member)
    · rcases List.mem_cons.mp member with same | below
      · exact .inr (.inl same)
      · exact .inl below

/-- The elements of a cleaned path are those of the path, or lead upwards. -/
theorem mem_foldl_push
    {fromRoot : Bool}
    {elements parts : List Bytes}
    {other : Bytes}
    (member : other ∈ parts.foldl (push fromRoot) elements) :
    other ∈ elements ∨ other ∈ parts ∨ other = dotDot := by
  induction parts generalizing elements with
  | nil => exact .inl member
  | cons part rest inductionHypothesis =>
      rcases inductionHypothesis member with pushed | later | up
      · rcases mem_push pushed with before | same | up
        · exact .inl before
        · exact .inr (.inl (by simp [same]))
        · exact .inr (.inr up)
      · exact .inr (.inl (by simp [later]))
      · exact .inr (.inr up)

/-- What stands before the name has only bytes of the directory, slashes and
dots. -/
theorem mem_lead
    {directory : Bytes}
    {b : UInt8}
    (member : b ∈ lead (rooted directory) (stack directory)) :
    b ∈ directory ∨ b = slash ∨ b = dot := by
  by_cases separator : b = slash
  · exact .inr (.inl separator)
  · have inside : ∃ element ∈ stack directory, b ∈ element := by
      unfold lead at member
      rcases List.mem_append.mp member with root | elements
      · split at root
        · exact absurd (List.mem_singleton.mp root) separator
        · cases root
      · split at elements
        · cases elements
        · rcases List.mem_append.mp elements with joined | last
          · obtain ⟨element, there, holds⟩ :=
              (mem_intercalate_iff separator).mp joined
            exact ⟨element, List.mem_reverse.mp there, holds⟩
          · exact absurd (List.mem_singleton.mp last) separator
    obtain ⟨element, there, holds⟩ := inside
    rcases mem_foldl_push there with before | part | up
    · cases before
    · have whole : [slash].intercalate (directory.splitOn slash) = directory :=
        List.intercalate_splitOn slash
      rw [← whole]
      exact .inl ((mem_intercalate_iff separator).mpr ⟨element, part, holds⟩)
    · rw [up] at holds
      exact .inr (.inr (by simpa [dotDot] using holds))

theorem lead_eq_nil_iff_render
    {fromRoot : Bool}
    {elements : List Bytes}
    (settled : Settled fromRoot elements) :
    lead fromRoot elements = [] ↔ render fromRoot elements = [dot] := by
  cases fromRoot with
  | true =>
      refine iff_of_false (by simp [lead]) fun same => ?_
      exact absurd (List.cons.inj same).1 (by decide)
  | false =>
      by_cases none : elements = []
      · simp [lead, render, none]
      · refine iff_of_false (by simp [lead, none]) fun same => ?_
        have joined : [slash].intercalate elements.reverse = [dot] := by
          simpa [render, none] using same
        have parts := List.splitOn_intercalate slash
          (fun part member => settled.no_slash part (List.mem_reverse.mp member))
          (by simpa using none)
        rw [joined] at parts
        have shape : elements = [[dot]] := by
          rw [← List.reverse_reverse elements, ← parts]
          rfl
        rw [shape] at settled
        exact settled.1.2.1 rfl

/-- Nothing stands before the name exactly if the directory is the current
one. -/
theorem lead_eq_nil_iff (directory : Bytes) :
    lead (rooted directory) (stack directory) = [] ↔ clean directory = [dot] := by
  rw [lead_eq_nil_iff_render (settled_stack directory), render_stack]

end Filepath
end LociTerm
