import Mathlib.Data.List.Basic

/-!
# What has been true since a moment

A history is a list of states, oldest first, that grows at its end.  A moment
is a place in it.  `SomeSince` and `AlwaysSince` say that a property holds in
some, or in every, state from a moment on.
-/

namespace LociTerm

variable {σ : Type} {property : σ → Prop} {history : List σ}
  {state : σ} {moment later : Nat}

/-- Some state from the moment on has the property. -/
def SomeSince
    (history : List σ)
    (moment : Nat)
    (property : σ → Prop) : Prop :=
  ∃ state ∈ history.drop moment, property state

/-- Every state from the moment on has the property. -/
def AlwaysSince
    (history : List σ)
    (moment : Nat)
    (property : σ → Prop) : Prop :=
  ∀ state ∈ history.drop moment, property state

instance
    (history : List σ)
    (moment : Nat)
    (property : σ → Prop)
    [DecidablePred property] :
    Decidable (SomeSince history moment property) :=
  inferInstanceAs (Decidable (∃ state ∈ history.drop moment, _))

namespace SomeSince

/-- What has been true stays so. -/
theorem append
    (since : SomeSince history moment property)
    (state : σ) :
    SomeSince (history ++ [state]) moment property := by
  obtain ⟨old, member, holds⟩ := since
  refine ⟨old, ?_, holds⟩
  rw [List.drop_append]
  exact List.mem_append_left _ member

theorem of_getElem?
    (found : history[later]? = some state)
    (after : moment ≤ later)
    (holds : property state) :
    SomeSince history moment property := by
  refine ⟨state, List.mem_iff_getElem?.mpr ⟨later - moment, ?_⟩, holds⟩
  rw [List.getElem?_drop, Nat.add_sub_cancel' after]
  exact found

theorem mono
    {other : σ → Prop}
    (since : SomeSince history moment property)
    (implies : ∀ state, property state → other state) :
    SomeSince history moment other := by
  obtain ⟨state, member, holds⟩ := since
  exact ⟨state, member, implies state holds⟩

end SomeSince

namespace AlwaysSince

theorem append
    (always : AlwaysSince history moment property)
    (holds : property state) :
    AlwaysSince (history ++ [state]) moment property := by
  intro other member
  rw [List.drop_append] at member
  rcases List.mem_append.mp member with old | new
  · exact always other old
  · rw [List.mem_singleton.mp (List.mem_of_mem_drop new)]
    exact holds

/-- From the end of a history on there is only what comes next. -/
theorem of_last (holds : property state) :
    AlwaysSince (history ++ [state]) history.length property := by
  intro other member
  rw [List.drop_left] at member
  rw [List.mem_singleton.mp member]
  exact holds

theorem of_getElem?
    (always : AlwaysSince history moment property)
    (found : history[later]? = some state)
    (after : moment ≤ later) :
    property state := by
  refine always state (List.mem_iff_getElem?.mpr ⟨later - moment, ?_⟩)
  rw [List.getElem?_drop, Nat.add_sub_cancel' after]
  exact found

/-- The last state shows that what is always true is so since any moment. -/
theorem someSince
    {other : Nat}
    (always : AlwaysSince history moment property)
    (past : moment < history.length)
    (earlier : other < history.length) :
    SomeSince history other property := by
  have last : history[history.length - 1]? =
      some (history.getLast (List.ne_nil_of_length_pos (by omega))) := by
    rw [List.getLast_eq_getElem, List.getElem?_eq_getElem]
  exact .of_getElem? last (by omega) (always.of_getElem? last (by omega))

/-- What is always true was not otherwise. -/
theorem not_someSince
    {other : σ → Prop}
    (always : AlwaysSince history moment property)
    (never : ∀ state, property state → ¬ other state) :
    ¬ SomeSince history moment other := by
  rintro ⟨state, member, holds⟩
  exact never state (always state member) holds

end AlwaysSince

end LociTerm
