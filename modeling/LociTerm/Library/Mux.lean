import Mathlib.Data.List.Basic
import Mathlib.Data.List.Pairwise

/-!
# Patterns of a request multiplexer

A pattern has a method, or none for all of them, and a path of literals and
wildcards, perhaps with a slash at its end for everything below.  Among the
patterns that match a request, the most specific one is selected.  A table is
consistent when any two of its patterns either have no request in common or
one of them is more specific than the other.
-/

namespace LociTerm
namespace Mux

/-- A segment of a pattern: a text, or a wildcard with its name. -/
inductive Segment
  | literal (text : String)
  | wildcard (name : String)
  deriving DecidableEq

/-- A pattern of a route. -/
structure Pattern where
  method : Option String
  segments : List Segment
  /-- The pattern ends with a slash. -/
  subtree : Bool
  deriving DecidableEq

/-- The wildcards with what they match in a path.  A path that ends with a
slash has an empty segment at its end. -/
def matchPath (subtree : Bool) :
    List Segment → List String → Option (List (String × String))
  | [], [] => if subtree then none else some []
  | [], _ :: _ => if subtree then some [] else none
  | _ :: _, [] => none
  | .literal text :: segments, first :: path =>
      if first = text then matchPath subtree segments path else none
  | .wildcard name :: segments, first :: path =>
      if first = "" then none
      else (matchPath subtree segments path).map ((name, first) :: ·)

/-- `GET` stands for `HEAD` as well. -/
def acceptsMethod : Option String → String → Bool
  | none, _ => true
  | some own, method => own = method || own = "GET" && method = "HEAD"

namespace Pattern

/-- The values of the wildcards in a request that the pattern matches. -/
def values
    (pattern : Pattern)
    (method : String)
    (path : List String) : Option (List (String × String)) :=
  if acceptsMethod pattern.method method then
    matchPath pattern.subtree pattern.segments path
  else none

/-- The pattern matches a request. -/
def Matches (pattern : Pattern) (method : String) (path : List String) : Prop :=
  (pattern.values method path).isSome = true

instance (pattern : Pattern) (method : String) (path : List String) :
    Decidable (pattern.Matches method path) :=
  inferInstanceAs (Decidable (_ = true))

end Pattern

/-! ## Comparing patterns -/

/-- Every method of the first is one of the second. -/
def methodWithin : Option String → Option String → Bool
  | _, none => true
  | none, some _ => false
  | some left, some right => left = right || right = "GET" && left = "HEAD"

/-- Every path of the first is one of the second. -/
def pathWithin (leftTree rightTree : Bool) :
    List Segment → List Segment → Bool
  | [], [] => leftTree == rightTree
  | _ :: _, [] => rightTree
  | [], _ :: _ => false
  | .literal left :: first, .literal right :: second =>
      left = right && pathWithin leftTree rightTree first second
  | .literal left :: first, .wildcard _ :: second =>
      left ≠ "" && pathWithin leftTree rightTree first second
  | .wildcard _ :: _, .literal _ :: _ => false
  | .wildcard _ :: first, .wildcard _ :: second =>
      pathWithin leftTree rightTree first second

/-- No path is one of both. -/
def pathApart (leftTree rightTree : Bool) :
    List Segment → List Segment → Bool
  | [], [] => leftTree != rightTree
  | _ :: _, [] => !rightTree
  | [], _ :: _ => !leftTree
  | .literal left :: first, .literal right :: second =>
      left ≠ right || pathApart leftTree rightTree first second
  | .literal text :: first, .wildcard _ :: second
  | .wildcard _ :: first, .literal text :: second =>
      text = "" || pathApart leftTree rightTree first second
  | .wildcard _ :: first, .wildcard _ :: second =>
      pathApart leftTree rightTree first second

/-- No method is one of both. -/
def methodApart : Option String → Option String → Bool
  | some left, some right =>
      left ≠ right && !(left = "GET" && right = "HEAD") &&
        !(left = "HEAD" && right = "GET")
  | _, _ => false

theorem acceptsMethod_of_within
    {left right : Option String}
    (within : methodWithin left right = true)
    {method : String}
    (accepts : acceptsMethod left method = true) :
    acceptsMethod right method = true := by
  cases right with
  | none => rfl
  | some right =>
      cases left with
      | none => cases within
      | some left =>
          simp only [methodWithin, acceptsMethod, Bool.or_eq_true,
            Bool.and_eq_true, decide_eq_true_eq] at *
          rcases within with rfl | ⟨rfl, rfl⟩
          · exact accepts
          · rcases accepts with rfl | ⟨impossible, _⟩
            · exact Or.inr ⟨rfl, rfl⟩
            · exact absurd impossible (by decide)

theorem not_accepts_both
    {left right : Option String}
    (apart : methodApart left right = true)
    {method : String}
    (first : acceptsMethod left method = true)
    (second : acceptsMethod right method = true) :
    False := by
  cases left with
  | none => cases apart
  | some left =>
      cases right with
      | none => cases apart
      | some right =>
          simp only [methodApart, acceptsMethod, Bool.or_eq_true,
            Bool.and_eq_true, decide_eq_true_eq, Bool.not_eq_true',
            decide_eq_false_iff_not, Bool.and_eq_false_iff] at *
          grind

theorem methodWithin_trans
    {left middle right : Option String}
    (first : methodWithin left middle = true)
    (second : methodWithin middle right = true) :
    methodWithin left right = true := by
  cases right with
  | none => rfl
  | some right =>
      cases middle with
      | none => cases second
      | some middle =>
          cases left with
          | none => cases first
          | some left =>
              simp only [methodWithin, Bool.or_eq_true, Bool.and_eq_true,
                decide_eq_true_eq] at *
              grind

theorem pathWithin_trans
    {leftTree middleTree rightTree : Bool}
    {left middle right : List Segment}
    (first : pathWithin leftTree middleTree left middle = true)
    (second : pathWithin middleTree rightTree middle right = true) :
    pathWithin leftTree rightTree left right = true := by
  induction left generalizing middle right with
  | nil =>
      cases middle with
      | cons segment segments => cases first
      | nil =>
          cases right with
          | cons segment segments => cases second
          | nil =>
              simp only [pathWithin, beq_iff_eq] at *
              exact first.trans second
  | cons segment segments inductionHypothesis =>
      cases middle with
      | nil =>
          cases right with
          | cons other others => cases second
          | nil =>
              simp only [pathWithin, beq_iff_eq] at *
              exact second.symm.trans first
      | cons between betweens =>
          cases right with
          | nil =>
              cases segment <;> cases between <;>
                simpa [pathWithin] using second
          | cons other others =>
              cases segment <;> cases between <;> cases other <;>
                simp only [pathWithin, Bool.and_eq_true, decide_eq_true_eq,
                  Bool.false_eq_true] at * <;>
                grind

/-- A path of the first pattern is a path of the second. -/
theorem matchPath_of_within
    {leftTree rightTree : Bool}
    {left right : List Segment}
    (within : pathWithin leftTree rightTree left right = true)
    {path : List String}
    (matched : (matchPath leftTree left path).isSome = true) :
    (matchPath rightTree right path).isSome = true := by
  fun_induction pathWithin leftTree rightTree left right generalizing path with
  | case1 =>
      rw [beq_iff_eq] at within
      rw [← within]
      exact matched
  | case2 segment segments =>
      cases path with
      | nil => simp [matchPath] at matched
      | cons first path => simp [matchPath, within]
  | case3 => cases within
  | case4 text first other second inductionHypothesis =>
      simp only [Bool.and_eq_true, decide_eq_true_eq] at within
      obtain ⟨rfl, inside⟩ := within
      cases path with
      | nil => simp [matchPath] at matched
      | cons segment path =>
          by_cases same : segment = text
          · simp only [matchPath, if_pos same] at matched ⊢
            exact inductionHypothesis inside matched
          · simp [matchPath, same] at matched
  | case5 text first name second inductionHypothesis =>
      simp only [Bool.and_eq_true, decide_eq_true_eq] at within
      obtain ⟨nonempty, inside⟩ := within
      cases path with
      | nil => simp [matchPath] at matched
      | cons segment path =>
          by_cases same : segment = text
          · simp only [matchPath, if_pos same] at matched
            have filled : segment ≠ "" := by rwa [same]
            simp only [matchPath, if_neg filled, Option.isSome_map]
            exact inductionHypothesis inside matched
          · simp [matchPath, same] at matched
  | case6 => cases within
  | case7 name first other second inductionHypothesis =>
      cases path with
      | nil => simp [matchPath] at matched
      | cons segment path =>
          by_cases empty : segment = ""
          · simp [matchPath, empty] at matched
          · simp only [matchPath, if_neg empty, Option.isSome_map]
              at matched ⊢
            exact inductionHypothesis within matched

/-- Patterns that are apart have no path in common. -/
theorem not_matchPath_both
    {leftTree rightTree : Bool}
    {left right : List Segment}
    (apart : pathApart leftTree rightTree left right = true)
    {path : List String}
    (first : (matchPath leftTree left path).isSome = true)
    (second : (matchPath rightTree right path).isSome = true) :
    False := by
  fun_induction pathApart leftTree rightTree left right generalizing path with
  | case1 =>
      cases path <;> cases leftTree <;> cases rightTree <;>
        simp [matchPath] at first second apart
  | case2 segment segments =>
      cases path with
      | nil => simp [matchPath] at first
      | cons one path => simp_all [matchPath]
  | case3 segment segments =>
      cases path with
      | nil => simp [matchPath] at second
      | cons one path => simp_all [matchPath]
  | case4 left others right behind inductionHypothesis =>
      cases path with
      | nil => simp [matchPath] at first
      | cons one path =>
          simp only [Bool.or_eq_true, decide_eq_true_eq] at apart
          by_cases same : one = left
          · by_cases also : one = right
            · simp only [matchPath, if_pos same, if_pos also] at first second
              rcases apart with different | rest
              · exact different (same.symm.trans also)
              · exact inductionHypothesis rest first second
            · simp [matchPath, also] at second
          · simp [matchPath, same] at first
  | case5 text others name behind inductionHypothesis =>
      cases path with
      | nil => simp [matchPath] at first
      | cons one path =>
          simp only [Bool.or_eq_true, decide_eq_true_eq] at apart
          by_cases same : one = text
          · by_cases empty : one = ""
            · simp [matchPath, empty] at second
            · simp only [matchPath, if_pos same, if_neg empty,
                Option.isSome_map] at first second
              rcases apart with blank | rest
              · exact empty (same.trans blank)
              · exact inductionHypothesis rest first second
          · simp [matchPath, same] at first
  | case6 name others text behind inductionHypothesis =>
      cases path with
      | nil => simp [matchPath] at first
      | cons one path =>
          simp only [Bool.or_eq_true, decide_eq_true_eq] at apart
          by_cases same : one = text
          · by_cases empty : one = ""
            · simp [matchPath, empty] at first
            · simp only [matchPath, if_pos same, if_neg empty,
                Option.isSome_map] at first second
              rcases apart with blank | rest
              · exact empty (same.trans blank)
              · exact inductionHypothesis rest first second
          · simp [matchPath, same] at second
  | case7 name others other behind inductionHypothesis =>
      cases path with
      | nil => simp [matchPath] at first
      | cons one path =>
          by_cases empty : one = ""
          · simp [matchPath, empty] at first
          · simp only [matchPath, if_neg empty, Option.isSome_map]
              at first second
            exact inductionHypothesis apart first second

namespace Pattern

/-- Every request of the first pattern is one of the second. -/
def within (left right : Pattern) : Bool :=
  methodWithin left.method right.method &&
    pathWithin left.subtree right.subtree left.segments right.segments

/-- No request is one of both patterns. -/
def apart (left right : Pattern) : Bool :=
  methodApart left.method right.method ||
    pathApart left.subtree right.subtree left.segments right.segments

theorem matches_iff
    {pattern : Pattern}
    {method : String}
    {path : List String} :
    pattern.Matches method path ↔
      acceptsMethod pattern.method method = true ∧
        (matchPath pattern.subtree pattern.segments path).isSome = true := by
  unfold Matches values
  split
  · next accepts => simp [accepts]
  · next refuses => simp [refuses]

theorem within_trans
    {left middle right : Pattern}
    (first : left.within middle = true)
    (second : middle.within right = true) :
    left.within right = true := by
  simp only [within, Bool.and_eq_true] at *
  exact ⟨methodWithin_trans first.1 second.1,
    pathWithin_trans first.2 second.2⟩

theorem Matches.of_within
    {left right : Pattern}
    {method : String}
    {path : List String}
    (matched : left.Matches method path)
    (inside : left.within right = true) :
    right.Matches method path := by
  simp only [within, Bool.and_eq_true] at inside
  rw [matches_iff] at matched ⊢
  exact ⟨acceptsMethod_of_within inside.1 matched.1,
    matchPath_of_within inside.2 matched.2⟩

theorem Matches.not_apart
    {left right : Pattern}
    {method : String}
    {path : List String}
    (first : left.Matches method path)
    (second : right.Matches method path) :
    left.apart right = false := by
  rw [matches_iff] at first second
  rw [Bool.eq_false_iff]
  intro apart
  rw [Pattern.apart, Bool.or_eq_true] at apart
  rcases apart with methods | paths
  · exact not_accepts_both methods first.1 second.1
  · exact not_matchPath_both paths first.2 second.2

end Pattern

/-! ## Selecting a pattern -/

variable {θ : Type}

/-- Two patterns have no request in common, or one of them is more specific
than the other. -/
def Compatible (left right : Pattern × θ) : Prop :=
  left.1.apart right.1 = true ∨
    left.1.within right.1 ≠ right.1.within left.1

instance (left right : Pattern × θ) : Decidable (Compatible left right) :=
  inferInstanceAs (Decidable (_ ∨ _))

/-- The patterns of a table, with what they lead to.  Conflicting patterns
cannot be registered. -/
structure Routes (θ : Type) where
  entries : List (Pattern × θ)
  consistent : entries.Pairwise Compatible

/-- The entry whose pattern is within all others of a list. -/
def leastOf : List (Pattern × θ) → Option (Pattern × θ)
  | [] => none
  | entry :: others =>
      match leastOf others with
      | none => some entry
      | some least =>
          if entry.1.within least.1 then some entry else some least

/-- The entries that match a request. -/
def Routes.matching
    (routes : Routes θ)
    (method : String)
    (path : List String) : List (Pattern × θ) :=
  routes.entries.filter fun entry => entry.1.Matches method path

/-- The most specific entry that matches a request. -/
def Routes.select
    (routes : Routes θ)
    (method : String)
    (path : List String) : Option (Pattern × θ) :=
  leastOf (routes.matching method path)

/-- No two of the entries are apart, and none are the same. -/
def Comparable (entries : List (Pattern × θ)) : Prop :=
  entries.Pairwise fun left right =>
    left.1.within right.1 ≠ right.1.within left.1

theorem Routes.comparable
    (routes : Routes θ)
    (method : String)
    (path : List String) :
    Comparable (routes.matching method path) := by
  have kept : (routes.matching method path).Pairwise Compatible :=
    routes.consistent.sublist List.filter_sublist
  refine kept.imp_of_mem fun {left right} first second compatible => ?_
  rcases compatible with apart | different
  · have left := of_decide_eq_true (List.mem_filter.mp first).2
    have right := of_decide_eq_true (List.mem_filter.mp second).2
    rw [left.not_apart right] at apart
    cases apart
  · exact different

theorem leastOf_eq_none {entries : List (Pattern × θ)} :
    leastOf entries = none ↔ entries = [] := by
  cases entries with
  | nil => simp [leastOf]
  | cons entry others =>
      refine iff_of_false ?_ (by simp)
      unfold leastOf
      split
      · simp
      · split <;> simp

theorem leastOf_mem
    {entries : List (Pattern × θ)}
    {least : Pattern × θ}
    (found : leastOf entries = some least) :
    least ∈ entries := by
  induction entries generalizing least with
  | nil => cases found
  | cons entry others inductionHypothesis =>
      unfold leastOf at found
      split at found
      · cases found
        exact List.mem_cons_self
      · next other below =>
          split at found
          · cases found
            exact List.mem_cons_self
          · cases found
            exact List.mem_cons_of_mem entry (inductionHypothesis below)

/-- Every other entry is more general than the least one. -/
theorem leastOf_within
    {entries : List (Pattern × θ)}
    (comparable : Comparable entries)
    {least other : Pattern × θ}
    (found : leastOf entries = some least)
    (member : other ∈ entries) :
    other = least ∨
      least.1.within other.1 = true ∧ other.1.within least.1 = false := by
  induction entries generalizing least other with
  | nil => cases member
  | cons entry others inductionHypothesis =>
      obtain ⟨head, tail⟩ := List.pairwise_cons.mp comparable
      unfold leastOf at found
      cases below : leastOf others with
      | none =>
          rw [below] at found
          cases found
          rw [leastOf_eq_none.mp below] at member
          exact Or.inl (List.mem_singleton.mp member)
      | some smaller =>
          have inside := leastOf_mem below
          have different := head smaller inside
          rw [below] at found
          simp only at found
          split at found
          · next first =>
              cases found
              rcases List.mem_cons.mp member with rfl | later
              · exact Or.inl rfl
              · refine Or.inr ?_
                have compared := head other later
                rcases inductionHypothesis tail below later with
                  rfl | ⟨rest, _⟩
                · rw [first] at compared
                  exact ⟨first, Bool.eq_false_iff.mpr fun same =>
                    compared same.symm⟩
                · have through := Pattern.within_trans first rest
                  rw [through] at compared
                  exact ⟨through, Bool.eq_false_iff.mpr fun same =>
                    compared same.symm⟩
          · next first =>
              cases found
              rcases List.mem_cons.mp member with rfl | later
              · rw [Bool.not_eq_true] at first
                rw [first] at different
                refine Or.inr ⟨?_, first⟩
                cases back : least.1.within other.1 with
                | true => rfl
                | false => exact absurd back.symm different
              · exact inductionHypothesis tail below later

/-- Some entry is selected when one matches. -/
theorem Routes.select_eq_none
    {routes : Routes θ}
    {method : String}
    {path : List String} :
    routes.select method path = none ↔
      ∀ entry ∈ routes.entries, ¬entry.1.Matches method path := by
  simp [select, leastOf_eq_none, matching]

/-- The selected entry matches, and is more specific than any other that
does. -/
theorem Routes.select_eq_some
    {routes : Routes θ}
    {method : String}
    {path : List String}
    {entry : Pattern × θ} :
    routes.select method path = some entry ↔
      entry ∈ routes.entries ∧ entry.1.Matches method path ∧
        ∀ other ∈ routes.entries, other.1.Matches method path →
          other = entry ∨
            entry.1.within other.1 = true ∧
              other.1.within entry.1 = false := by
  have comparable := routes.comparable method path
  have member (other : Pattern × θ) :
      other ∈ routes.matching method path ↔
        other ∈ routes.entries ∧ other.1.Matches method path := by
    simp [matching]
  constructor
  · intro selected
    obtain ⟨registered, matched⟩ := (member entry).mp (leastOf_mem selected)
    refine ⟨registered, matched, fun other inside fits => ?_⟩
    exact leastOf_within comparable selected
      ((member other).mpr ⟨inside, fits⟩)
  · rintro ⟨registered, matched, specific⟩
    have inside := (member entry).mpr ⟨registered, matched⟩
    unfold select
    cases found : leastOf (routes.matching method path) with
    | none =>
        rw [leastOf_eq_none.mp found] at inside
        cases inside
    | some least =>
        obtain ⟨known, also⟩ := (member least).mp (leastOf_mem found)
        rcases leastOf_within comparable found inside with rfl | ⟨below, _⟩
        · rfl
        · rcases specific least known also with same | ⟨_, above⟩
          · rw [same]
          · rw [above] at below
            cases below

end Mux
end LociTerm
