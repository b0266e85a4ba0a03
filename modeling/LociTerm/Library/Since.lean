import Mathlib.Data.List.Infix

/-!
# What has held since

A history is a list of events, newest first.  `Since` says that an event of
one kind has happened and no event of another kind since.
-/

namespace LociTerm

variable {ε : Type} {happened ended : ε → Prop}

/-- An event that satisfies `happened` is followed by none that satisfies
`ended`. -/
def Since (happened ended : ε → Prop) (history : List ε) : Prop :=
  ∃ later event earlier, history = later ++ event :: earlier ∧
    happened event ∧ ∀ other ∈ later, ¬ended other

namespace Since

theorem not_nil : ¬Since happened ended [] := by
  rintro ⟨later, event, earlier, split, _⟩
  cases later <;> cases split

/-- The newest event is the one, or it does not end what held before it. -/
theorem cons_iff {event : ε} {history : List ε} :
    Since happened ended (event :: history) ↔
      happened event ∨ ¬ended event ∧ Since happened ended history := by
  constructor
  · rintro ⟨later, old, earlier, split, holds, kept⟩
    cases later with
    | nil =>
        cases split
        exact Or.inl holds
    | cons newest later =>
        cases split
        refine Or.inr ⟨kept event (by simp), later, old, earlier, rfl, holds,
          fun other member => kept other (by simp [member])⟩
  · rintro (holds | ⟨kept, later, old, earlier, rfl, holds, others⟩)
    · exact ⟨[], event, history, rfl, holds, by simp⟩
    · refine ⟨event :: later, old, earlier, rfl, holds, ?_⟩
      intro other member
      rcases List.mem_cons.mp member with rfl | member
      · exact kept
      · exact others other member

/-- An event of neither kind changes nothing. -/
theorem cons_iff_of_neither
    {event : ε}
    {history : List ε}
    (notHappened : ¬happened event)
    (notEnded : ¬ended event) :
    Since happened ended (event :: history) ↔
      Since happened ended history := by
  rw [cons_iff]
  tauto

theorem happened_mem
    {history : List ε}
    (since : Since happened ended history) :
    ∃ event ∈ history, happened event := by
  obtain ⟨later, event, earlier, rfl, holds, _⟩ := since
  exact ⟨event, by simp, holds⟩

/-- What has held since an event of a longer history has held since one of its
older part, unless the event is newer. -/
theorem of_append
    {newer history : List ε}
    (since : Since happened ended (newer ++ history))
    (older : ∀ event ∈ newer, ¬happened event) :
    Since happened ended history := by
  induction newer with
  | nil => exact since
  | cons event newer inductionHypothesis =>
      rw [List.cons_append, cons_iff] at since
      rcases since with holds | ⟨_, since⟩
      · exact absurd holds (older event (by simp))
      · exact inductionHypothesis since
          fun other member => older other (by simp [member])

end Since
end LociTerm
