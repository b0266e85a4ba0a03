import Mathlib.Data.List.Basic

/-!
# Timers

The timers of an event loop.  Each has a handle of its own, a handle that is no
longer pending is cleared without an effect, and a timer that fires is pending
no longer.  An owner who keeps the handle of the last timer, and clears it
before setting another one, never has two; one who keeps the handles of all its
timers can clear them all.
-/

namespace LociTerm

/-- The pending timers, with what each of them was set to. -/
structure Timers (α : Type) where
  /-- Oldest first. -/
  pending : List (Nat × α)
  /-- The next handle. -/
  next : Nat
  deriving DecidableEq

namespace Timers

variable {α : Type}

/-- No timer has been set. -/
def empty : Timers α := ⟨[], 1⟩

/-- Set a timer, and return its handle. -/
def set (timers : Timers α) (value : α) : Timers α × Nat :=
  (⟨timers.pending ++ [(timers.next, value)], timers.next + 1⟩, timers.next)

/-- Clear the timer with a handle, if there is one. -/
def clear (timers : Timers α) (handle : Option Nat) : Timers α :=
  { timers with
    pending := timers.pending.filter fun timer => some timer.1 ≠ handle }

/-- The timer with a handle fires. -/
def fire (timers : Timers α) (handle : Nat) : Option (Timers α) :=
  if handle ∈ timers.pending.map Prod.fst then some (timers.clear (some handle))
  else none

/-- Clear the timers with some handles. -/
def clearAll (timers : Timers α) (handles : List Nat) : Timers α :=
  handles.foldl (fun timers handle => timers.clear (some handle)) timers

/-- Set timers one after another, and return their handles. -/
def setAll (timers : Timers α) : List α → Timers α × List Nat
  | [] => (timers, [])
  | value :: values =>
      let (timers, handle) := timers.set value
      let (timers, handles) := timers.setAll values
      (timers, handle :: handles)

/-! ## An owner of many timers -/

theorem pending_clearAll (timers : Timers α) (handles : List Nat) :
    (timers.clearAll handles).pending =
      timers.pending.filter fun timer => timer.1 ∉ handles := by
  induction handles generalizing timers with
  | nil => simp [clearAll]
  | cons handle handles ih =>
      rw [clearAll, List.foldl_cons]
      calc ((timers.clear (some handle)).clearAll handles).pending
        _ = (timers.clear (some handle)).pending.filter
              fun timer => timer.1 ∉ handles := ih _
        _ = _ := by
            rw [clear, List.filter_filter]
            apply List.filter_congr
            intro timer _
            simp [Bool.and_comm]

/-- An owner who knows all timers clears them all. -/
theorem pending_clearAll_of_known
    {timers : Timers α}
    {handles : List Nat}
    (known : ∀ timer ∈ timers.pending, timer.1 ∈ handles) :
    (timers.clearAll handles).pending = [] := by
  rw [pending_clearAll, List.filter_eq_nil_iff]
  intro timer member
  simpa using known timer member

/-- Handles are given out in order. -/
theorem handles_setAll (timers : Timers α) (values : List α) :
    (timers.setAll values).2 = List.range' timers.next values.length := by
  induction values generalizing timers with
  | nil => rfl
  | cons value values ih =>
      rw [setAll, List.length_cons, List.range'_succ]
      exact congrArg (timers.next :: ·) (ih _)

theorem pending_setAll (timers : Timers α) (values : List α) :
    (timers.setAll values).1.pending =
      timers.pending ++ (timers.setAll values).2.zip values := by
  induction values generalizing timers with
  | nil => simp [setAll]
  | cons value values ih =>
      rw [setAll, ih, set, List.append_assoc]
      rfl

/-- Timers that are set together are in the order of their handles. -/
theorem ordered_setAll (timers : Timers α) (values : List α) :
    ((timers.setAll values).2.zip values).Pairwise (·.1 < ·.1) := by
  have handles := handles_setAll timers values
  rw [← List.pairwise_map, List.map_fst_zip (by simp [handles]), handles]
  exact List.pairwise_lt_range'

/-- The oldest timer fires. -/
theorem pending_clear_head
    {timers : Timers α}
    {timer : Nat × α}
    {rest : List (Nat × α)}
    (pending : timers.pending = timer :: rest)
    (ordered : (timer :: rest).Pairwise (·.1 < ·.1)) :
    (timers.clear (some timer.1)).pending = rest := by
  have later := (List.pairwise_cons.mp ordered).1
  rw [clear, pending, List.filter_cons_of_neg (by simp)]
  apply List.filter_eq_self.mpr
  intro other member
  simpa using Nat.ne_of_gt (later other member)

/-! ## An owner of one timer -/

/-- At most one timer is pending, and the owner knows its handle. -/
structure Single (timers : Timers α) (handle : Option Nat) : Prop where
  length : timers.pending.length ≤ 1
  known : ∀ timer ∈ timers.pending, some timer.1 = handle

namespace Single

variable {timers next : Timers α} {handle : Option Nat}

theorem empty (handle : Option Nat) :
    (Timers.empty : Timers α).Single handle where
  length := Nat.zero_le 1
  known _ member := absurd member List.not_mem_nil

/-- A known timer is cleared. -/
theorem pending_clear (single : timers.Single handle) :
    (timers.clear handle).pending = [] := by
  apply List.filter_eq_nil_iff.mpr
  intro timer member
  simpa using single.known timer member

theorem clear (single : timers.Single handle) :
    (timers.clear handle).Single handle where
  length := by simp [single.pending_clear]
  known := by simp [single.pending_clear]

/-- The timer that is set in the place of a known one is the only one. -/
theorem pending_set (single : timers.Single handle) (value : α) :
    ((timers.clear handle).set value).1.pending = [(timers.next, value)] := by
  rw [Timers.set, single.pending_clear]
  rfl

theorem set (single : timers.Single handle) (value : α) :
    ((timers.clear handle).set value).1.Single
      (some ((timers.clear handle).set value).2) where
  length := by simp [single.pending_set]
  known := by
    intro timer member
    rw [single.pending_set, List.mem_singleton] at member
    rw [member]
    rfl

/-- A timer that fires is the only one. -/
theorem pending_fire
    {fired : Nat}
    (single : timers.Single handle)
    (fires : timers.fire fired = some next) :
    timers.pending ≠ [] ∧ next.pending = [] := by
  obtain ⟨member, same⟩ := Option.ite_none_right_eq_some.mp fires
  cases same
  obtain ⟨timer, pending, rfl⟩ := List.mem_map.mp member
  refine ⟨List.ne_nil_of_mem pending, ?_⟩
  rw [single.known timer pending]
  exact single.pending_clear

theorem fire
    {fired : Nat}
    (single : timers.Single handle)
    (fires : timers.fire fired = some next) :
    next.Single handle where
  length := by simp [(single.pending_fire fires).2]
  known := by simp [(single.pending_fire fires).2]

end Single
end Timers
end LociTerm
