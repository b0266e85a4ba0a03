import Mathlib.Data.List.Basic

/-!
# Runs of guarded transition systems

A system is given by a partial step function on labels: a label that is not
enabled in a state has no successor.  A run executes a list of labels.  The
rules of this module lift facts about one step to whole runs: invariants under
a condition on the steps, equivalence of two step conditions, and refinement
of a sequential object by a system some of whose labels commit an operation.
-/

namespace LociTerm

section Runs

variable {σ ι : Type} (step : σ → ι → Option σ)

/-- Execute the labels one after another. -/
def run : σ → List ι → Option σ
  | state, [] => some state
  | state, label :: labels =>
      (step state label).bind fun next => run next labels

/-- Every label of the run is taken in a state that satisfies the condition
with it. -/
def Follows (condition : σ → ι → Prop) : σ → List ι → Prop
  | _, [] => True
  | state, label :: labels =>
      condition state label ∧
        ∀ next, step state label = some next →
          Follows condition next labels

/-- Whether a run meets a decidable condition is found by executing it. -/
instance decidableFollows
    (condition : σ → ι → Prop)
    [decidable : ∀ state label, Decidable (condition state label)] :
    ∀ state labels, Decidable (Follows step condition state labels)
  | _, [] => isTrue trivial
  | state, label :: labels =>
      match reached : step state label with
      | none =>
          decidable_of_iff (condition state label) (by simp [Follows, reached])
      | some next =>
          have : Decidable (Follows step condition next labels) :=
            decidableFollows condition next labels
          decidable_of_iff
            (condition state label ∧ Follows step condition next labels)
            (by simp [Follows, reached])

@[simp] theorem run_nil (state : σ) : run step state [] = some state := rfl

theorem run_cons_eq_some
    {state final : σ}
    {label : ι}
    {labels : List ι} :
    run step state (label :: labels) = some final ↔
      ∃ next, step state label = some next ∧
        run step next labels = some final := by
  simp [run, Option.bind_eq_some_iff]

/-- Executing a concatenation executes its parts in order. -/
theorem run_append_eq_some
    {state final : σ}
    {first second : List ι} :
    run step state (first ++ second) = some final ↔
      ∃ middle, run step state first = some middle ∧
        run step middle second = some final := by
  induction first generalizing state with
  | nil => simp
  | cons label labels inductionHypothesis =>
      rw [List.cons_append, run_cons_eq_some]
      constructor
      · rintro ⟨next, stepped, rest⟩
        obtain ⟨middle, ranFirst, ranSecond⟩ := inductionHypothesis.mp rest
        exact ⟨middle, (run_cons_eq_some step).mpr ⟨next, stepped, ranFirst⟩,
          ranSecond⟩
      · rintro ⟨middle, ranFirst, ranSecond⟩
        obtain ⟨next, stepped, rest⟩ := (run_cons_eq_some step).mp ranFirst
        exact ⟨next, stepped,
          inductionHypothesis.mpr ⟨middle, rest, ranSecond⟩⟩

variable {step}

/-- A run goes on by one step. -/
theorem run_concat
    {state middle final : σ}
    {labels : List ι}
    {label : ι}
    (ran : run step state labels = some middle)
    (stepped : step middle label = some final) :
    run step state (labels ++ [label]) = some final := by
  apply (run_append_eq_some step).mpr
  exact ⟨middle, ran, (run_cons_eq_some step).mpr ⟨final, stepped, rfl⟩⟩

/-- A condition that always holds is met by every run. -/
theorem Follows.of_forall
    {condition : σ → ι → Prop}
    (always : ∀ state label, condition state label)
    (state : σ)
    (labels : List ι) :
    Follows step condition state labels := by
  induction labels generalizing state with
  | nil => trivial
  | cons label labels inductionHypothesis =>
      exact ⟨always state label, fun next _ => inductionHypothesis next⟩

/-- A condition on the labels of a run joins a condition on its steps. -/
theorem Follows.and_of_forall
    {condition : σ → ι → Prop}
    {permitted : ι → Prop}
    {state : σ}
    {labels : List ι}
    (follows : Follows step condition state labels)
    (every : ∀ label ∈ labels, permitted label) :
    Follows step (fun state label => permitted label ∧ condition state label)
      state labels := by
  induction labels generalizing state with
  | nil => trivial
  | cons label labels inductionHypothesis =>
      refine ⟨⟨every label (by simp), follows.1⟩, fun next stepped => ?_⟩
      exact inductionHypothesis (follows.2 next stepped)
        fun other member => every other (by simp [member])

/-- Two conditions on the steps of a run. -/
theorem Follows.and
    {left right : σ → ι → Prop}
    {state : σ}
    {labels : List ι}
    (first : Follows step left state labels)
    (second : Follows step right state labels) :
    Follows step (fun state label => left state label ∧ right state label)
      state labels := by
  induction labels generalizing state with
  | nil => trivial
  | cons label labels inductionHypothesis =>
      refine ⟨⟨first.1, second.1⟩, fun next stepped => ?_⟩
      exact inductionHypothesis (first.2 next stepped) (second.2 next stepped)

/-- A run in two parts meets a condition if both parts do. -/
theorem Follows.append_iff
    {condition : σ → ι → Prop}
    {state middle : σ}
    {first second : List ι}
    (ran : run step state first = some middle) :
    Follows step condition state (first ++ second) ↔
      Follows step condition state first ∧
        Follows step condition middle second := by
  induction first generalizing state with
  | nil =>
      cases ran
      simp [Follows]
  | cons label labels inductionHypothesis =>
      obtain ⟨next, stepped, rest⟩ := (run_cons_eq_some step).mp ran
      simp only [List.cons_append, Follows, stepped, Option.some.injEq,
        forall_eq', inductionHypothesis rest, and_assoc]

/-- The invariant rule: what one permitted step preserves, every run of
permitted steps preserves. -/
theorem invariant_of_run
    {condition : σ → ι → Prop}
    {invariant : σ → Prop}
    (preserved : ∀ state label next, invariant state →
      condition state label → step state label = some next → invariant next)
    {state final : σ}
    {labels : List ι}
    (start : invariant state)
    (follows : Follows step condition state labels)
    (ran : run step state labels = some final) :
    invariant final := by
  induction labels generalizing state with
  | nil =>
      cases ran
      exact start
  | cons label labels inductionHypothesis =>
      obtain ⟨next, stepped, rest⟩ := (run_cons_eq_some step).mp ran
      exact inductionHypothesis
        (preserved state label next start follows.1 stepped)
        (follows.2 next stepped) rest

/-- The invariant rule for steps without a condition. -/
theorem invariant_of_unconditional_run
    {invariant : σ → Prop}
    (preserved : ∀ state label next, invariant state →
      step state label = some next → invariant next)
    {state final : σ}
    {labels : List ι}
    (start : invariant state)
    (ran : run step state labels = some final) :
    invariant final :=
  invariant_of_run
    (fun state label next holds _ stepped =>
      preserved state label next holds stepped)
    start (Follows.of_forall (fun _ _ => trivial) state labels) ran

/-- The history rule: an invariant may speak of the labels that have been taken
so far. -/
theorem history_of_run
    {invariant : List ι → σ → Prop}
    (preserved : ∀ past state label next, invariant past state →
      step state label = some next → invariant (past ++ [label]) next)
    {past : List ι}
    {state final : σ}
    {labels : List ι}
    (start : invariant past state)
    (ran : run step state labels = some final) :
    invariant (past ++ labels) final := by
  induction labels generalizing past state with
  | nil =>
      cases ran
      rwa [List.append_nil]
  | cons label labels inductionHypothesis =>
      obtain ⟨next, stepped, rest⟩ := (run_cons_eq_some step).mp ran
      have later := inductionHypothesis
        (preserved past state label next start stepped) rest
      rwa [List.append_assoc] at later

/-- The counting rule: when every step raises a measure by one, a run raises it
by its length. -/
theorem measure_of_run
    {invariant : σ → Prop}
    {measure : σ → Nat}
    (counted : ∀ state label next, invariant state →
      step state label = some next →
        invariant next ∧ measure next = measure state + 1)
    {state final : σ}
    {labels : List ι}
    (start : invariant state)
    (ran : run step state labels = some final) :
    invariant final ∧ measure final = measure state + labels.length := by
  induction labels generalizing state with
  | nil =>
      cases ran
      exact ⟨start, rfl⟩
  | cons label labels inductionHypothesis =>
      obtain ⟨next, stepped, rest⟩ := (run_cons_eq_some step).mp ran
      obtain ⟨onward, raised⟩ := counted state label next start stepped
      obtain ⟨holds, total⟩ := inductionHypothesis onward rest
      refine ⟨holds, ?_⟩
      rw [total, raised, List.length_cons]
      omega

/-- The budget rule: when a step that spends is paid for by a potential, and a
step that earns raises it by no more than an income, the spending steps of a run
are bounded by the potential at its start and the income of the others. -/
theorem budget_of_run
    {invariant : σ → Prop}
    {potential : σ → Nat}
    {spends earns : ι → Bool}
    {income : Nat}
    (preserved : ∀ state label next, invariant state →
      step state label = some next → invariant next)
    (paid : ∀ state label next, invariant state →
      step state label = some next →
        (spends label).toNat + potential next ≤
          potential state + income * (earns label).toNat)
    {state final : σ}
    {labels : List ι}
    (start : invariant state)
    (ran : run step state labels = some final) :
    labels.countP spends + potential final ≤
      potential state + income * labels.countP earns := by
  induction labels generalizing state with
  | nil =>
      cases ran
      simp
  | cons label labels inductionHypothesis =>
      obtain ⟨next, stepped, rest⟩ := (run_cons_eq_some step).mp ran
      have onward := preserved state label next start stepped
      have remaining := inductionHypothesis onward rest
      have first := paid state label next start stepped
      have split : ∀ counted : ι → Bool,
          (label :: labels).countP counted =
            labels.countP counted + (counted label).toNat := by
        intro counted
        cases counts : counted label <;> simp [counts]
      rw [split spends, split earns, Nat.mul_add]
      omega

/-- When a step is always enabled, there are runs of every length. -/
theorem exists_run_of_length
    {invariant : σ → Prop}
    (preserved : ∀ state label next, invariant state →
      step state label = some next → invariant next)
    (progress : ∀ state, invariant state →
      ∃ label next, step state label = some next)
    (length : Nat)
    {state : σ}
    (start : invariant state) :
    ∃ labels final, labels.length = length ∧
      run step state labels = some final := by
  induction length generalizing state with
  | zero => exact ⟨[], state, rfl, rfl⟩
  | succ length inductionHypothesis =>
      obtain ⟨label, next, stepped⟩ := progress state start
      obtain ⟨labels, final, counted, ran⟩ :=
        inductionHypothesis (preserved state label next start stepped)
      exact ⟨label :: labels, final, congrArg Nat.succ counted,
        (run_cons_eq_some step).mpr ⟨next, stepped, ran⟩⟩

/-- Among the steps that meet a first condition, when a step keeps a property
exactly if it meets a second one, a run keeps it exactly if all its steps do. -/
theorem Follows.iff_of_conditional_run
    {granted condition : σ → ι → Prop}
    {invariant good : σ → Prop}
    (preserved : ∀ state label next, invariant state → granted state label →
      step state label = some next → invariant next)
    (exact : ∀ state label next, invariant state → granted state label →
      step state label = some next →
        (good next ↔ good state ∧ condition state label))
    {state final : σ}
    {labels : List ι}
    (start : invariant state)
    (follows : Follows step granted state labels)
    (ran : run step state labels = some final) :
    good final ↔ good state ∧ Follows step condition state labels := by
  induction labels generalizing state with
  | nil =>
      cases ran
      simp [Follows]
  | cons label labels inductionHypothesis =>
      obtain ⟨next, stepped, rest⟩ := (run_cons_eq_some step).mp ran
      have onward := preserved state label next start follows.1 stepped
      rw [inductionHypothesis onward (follows.2 next stepped) rest,
        exact state label next start follows.1 stepped]
      simp [Follows, stepped, and_assoc]

/-- When a step keeps a property exactly if it is permitted, a run keeps it
exactly if all its steps are. -/
theorem Follows.iff_of_run
    {condition : σ → ι → Prop}
    {invariant good : σ → Prop}
    (preserved : ∀ state label next, invariant state →
      step state label = some next → invariant next)
    (exact : ∀ state label next, invariant state →
      step state label = some next →
        (good next ↔ good state ∧ condition state label))
    {state final : σ}
    {labels : List ι}
    (start : invariant state)
    (ran : run step state labels = some final) :
    good final ↔ good state ∧ Follows step condition state labels :=
  Follows.iff_of_conditional_run
    (fun state label next holds _ => preserved state label next holds)
    (fun state label next holds _ => exact state label next holds) start
    (Follows.of_forall (fun _ _ => trivial) state labels) ran

/-- When a step from a good state leads to a good state exactly if it is
permitted, all states of a run are good exactly if all its steps are
permitted. -/
theorem Follows.iff_forall_states
    {condition : σ → ι → Prop}
    {invariant good : σ → Prop}
    (preserved : ∀ state label next, invariant state →
      step state label = some next → invariant next)
    (exact : ∀ state label next, invariant state → good state →
      step state label = some next → (good next ↔ condition state label))
    {state final : σ}
    {labels : List ι}
    (start : invariant state)
    (begins : good state)
    (ran : run step state labels = some final) :
    (∀ first middle, first <+: labels →
        run step state first = some middle → good middle) ↔
      Follows step condition state labels := by
  induction labels generalizing state with
  | nil =>
      refine ⟨fun _ => trivial, fun _ first middle early reached => ?_⟩
      cases List.prefix_nil.mp early
      cases reached
      exact begins
  | cons label labels inductionHypothesis =>
      obtain ⟨next, stepped, rest⟩ := (run_cons_eq_some step).mp ran
      have onward := preserved state label next start stepped
      constructor
      · intro always
        have goodNext : good next :=
          always [label] next (by simp) (by simp [run, stepped])
        refine ⟨(exact state label next start begins stepped).mp goodNext, ?_⟩
        intro other taken
        cases stepped.symm.trans taken
        refine (inductionHypothesis onward goodNext rest).mp ?_
        intro first middle early reached
        exact always (label :: first) middle
          (List.cons_prefix_cons.mpr ⟨rfl, early⟩)
          ((run_cons_eq_some step).mpr ⟨next, stepped, reached⟩)
      · rintro ⟨permitted, follows⟩ first middle early reached
        have goodNext : good next :=
          (exact state label next start begins stepped).mpr permitted
        cases first with
        | nil =>
            cases reached
            exact begins
        | cons head first =>
            obtain ⟨rfl, shorter⟩ := List.cons_prefix_cons.mp early
            obtain ⟨other, taken, onto⟩ := (run_cons_eq_some step).mp reached
            cases stepped.symm.trans taken
            exact (inductionHypothesis onward goodNext rest).mpr
              (follows next stepped) first middle shorter onto

/-- A run that meets a condition meets what follows from it in the states of an
invariant that it keeps. -/
theorem Follows.imp_of_kept
    {left right : σ → ι → Prop}
    {invariant : σ → Prop}
    (kept : ∀ state label next, invariant state → left state label →
      step state label = some next → invariant next)
    (implied : ∀ state label, invariant state →
      left state label → right state label)
    {state : σ}
    {labels : List ι}
    (start : invariant state)
    (follows : Follows step left state labels) :
    Follows step right state labels := by
  induction labels generalizing state with
  | nil => trivial
  | cons label labels inductionHypothesis =>
      obtain ⟨first, rest⟩ := follows
      refine ⟨implied state label start first, fun next stepped => ?_⟩
      exact inductionHypothesis (kept state label next start first stepped)
        (rest next stepped)

/-- Two conditions that agree in every state of an invariant are met by the same
runs, if the steps that meet them keep the invariant. -/
theorem Follows.congr_of_kept
    {left right : σ → ι → Prop}
    {invariant : σ → Prop}
    (kept : ∀ state label next, invariant state → left state label →
      step state label = some next → invariant next)
    (agree : ∀ state label, invariant state →
      (left state label ↔ right state label))
    {state : σ}
    {labels : List ι}
    (start : invariant state) :
    Follows step left state labels ↔ Follows step right state labels := by
  constructor
  · exact Follows.imp_of_kept kept
      (fun state label holds => (agree state label holds).mp) start
  · apply Follows.imp_of_kept ?_
      (fun state label holds => (agree state label holds).mpr) start
    intro state label next holds permitted
    exact kept state label next holds ((agree state label holds).mpr permitted)

/-- Two systems that take the same steps where a condition is met have the same
runs along which it is. -/
theorem run_congr
    {other : σ → ι → Option σ}
    {condition : σ → ι → Prop}
    (same : ∀ state label, condition state label →
      other state label = step state label)
    {state : σ}
    {labels : List ι}
    (follows : Follows step condition state labels) :
    run other state labels = run step state labels := by
  induction labels generalizing state with
  | nil => rfl
  | cons label labels inductionHypothesis =>
      rw [run, run, same state label follows.1]
      cases stepped : step state label with
      | none => rfl
      | some next => exact inductionHypothesis (follows.2 next stepped)

/-- Along those runs, they meet the same conditions. -/
theorem Follows.congr_step
    {other : σ → ι → Option σ}
    {condition goal : σ → ι → Prop}
    (same : ∀ state label, condition state label →
      other state label = step state label)
    {state : σ}
    {labels : List ι}
    (follows : Follows step condition state labels) :
    Follows other goal state labels ↔ Follows step goal state labels := by
  induction labels generalizing state with
  | nil => exact Iff.rfl
  | cons label labels inductionHypothesis =>
      rw [Follows, Follows, same state label follows.1]
      refine and_congr_right fun _ => forall_congr' fun next => ?_
      exact imp_congr_right fun stepped =>
        inductionHypothesis (follows.2 next stepped)

end Runs

section Refinement

variable {σ ι τ κ : Type}

/-- The refinement rule: when a label that commits an operation moves the
sequential object by that operation, and every other label leaves it where it
was, a whole run moves it by the committed operations in order. -/
theorem refines_of_run
    {step : σ → ι → Option σ}
    {condition : σ → ι → Prop}
    (commit : ι → Option κ)
    (serve : τ → κ → τ)
    {related : σ → τ → Prop}
    (simulates : ∀ state label next object, related state object →
      condition state label → step state label = some next →
        related next ((commit label).elim object (serve object)))
    {state final : σ}
    {object : τ}
    {labels : List ι}
    (start : related state object)
    (follows : Follows step condition state labels)
    (ran : run step state labels = some final) :
    related final ((labels.filterMap commit).foldl serve object) := by
  induction labels generalizing state object with
  | nil =>
      cases ran
      exact start
  | cons label labels inductionHypothesis =>
      obtain ⟨next, stepped, rest⟩ := (run_cons_eq_some step).mp ran
      have moved := inductionHypothesis
        (simulates state label next object start follows.1 stepped)
        (follows.2 next stepped) rest
      cases committed : commit label with
      | none => simpa [List.filterMap_cons, committed] using moved
      | some operation => simpa [List.filterMap_cons, committed] using moved

/-- The commit rule: when the labels that commit move the view of the state by
a step of the model, and every other label leaves the view where it was, the
view of a run is the run of the committed steps. -/
theorem run_of_commits
    {step : σ → ι → Option σ}
    {stepModel : τ → κ → Option τ}
    (commit : ι → Option κ)
    {view : σ → τ}
    {invariant : σ → Prop}
    (commits : ∀ state label next, invariant state →
      step state label = some next → invariant next ∧
        (commit label).elim (some (view state)) (stepModel (view state)) =
          some (view next))
    {state final : σ}
    {labels : List ι}
    (start : invariant state)
    (ran : run step state labels = some final) :
    run stepModel (view state) (labels.filterMap commit) =
      some (view final) := by
  induction labels generalizing state with
  | nil =>
      cases ran
      rfl
  | cons label labels inductionHypothesis =>
      obtain ⟨next, stepped, rest⟩ := (run_cons_eq_some step).mp ran
      obtain ⟨kept, moved⟩ := commits state label next start stepped
      have later := inductionHypothesis kept rest
      cases committed : commit label with
      | none =>
          rw [committed, Option.elim_none, Option.some.injEq] at moved
          rw [List.filterMap_cons_none committed, moved]
          exact later
      | some operation =>
          rw [committed, Option.elim_some] at moved
          rw [List.filterMap_cons_some committed]
          exact (run_cons_eq_some stepModel).mpr ⟨view next, moved, later⟩

end Refinement

section Objects

variable {σ τ κ ρ : Type}

/-- Serve the calls one after another, and collect the answers. -/
def perform (serve : σ → κ → σ × ρ) : σ → List κ → σ × List ρ
  | object, [] => (object, [])
  | object, call :: calls =>
      let served := serve object call
      let others := perform serve served.1 calls
      (others.1, served.2 :: others.2)

/-- The calls with their answers. -/
def trace (serve : σ → κ → σ × ρ) (object : σ) (calls : List κ) :
    List (κ × ρ) :=
  calls.zip (perform serve object calls).2

theorem trace_cons
    (serve : σ → κ → σ × ρ)
    (object : σ)
    (call : κ)
    (calls : List κ) :
    trace serve object (call :: calls) =
      (call, (serve object call).2) :: trace serve (serve object call).1 calls :=
  rfl

/-- An entry of a trace is a call with its answer after the calls before it. -/
theorem trace_eq_append_cons
    {serve : σ → κ → σ × ρ}
    {object : σ}
    {calls : List κ}
    {before after : List (κ × ρ)}
    {call : κ}
    {answer : ρ}
    (traced : trace serve object calls = before ++ (call, answer) :: after) :
    ∃ earlier later, calls = earlier ++ call :: later ∧
      before = trace serve object earlier ∧
      answer = (serve (perform serve object earlier).1 call).2 := by
  induction before generalizing object calls with
  | nil =>
      cases calls with
      | nil => cases traced
      | cons first rest =>
          rw [trace_cons] at traced
          obtain ⟨same, _⟩ := List.cons.inj traced
          cases same
          exact ⟨[], rest, rfl, rfl, rfl⟩
  | cons entry before inductionHypothesis =>
      cases calls with
      | nil => cases traced
      | cons first rest =>
          rw [trace_cons] at traced
          obtain ⟨same, others⟩ := List.cons.inj traced
          obtain ⟨earlier, later, rfl, rfl, answered⟩ :=
            inductionHypothesis others
          subst same
          exact ⟨first :: earlier, later, rfl, rfl, answered⟩

/-- The recording rule: what every call does to a value of the object can be
told from its entry in the trace, so the value after all calls can be told from
the trace. -/
theorem foldl_trace
    {α : Type}
    {serve : σ → κ → σ × ρ}
    (value : σ → α)
    {record : α → κ × ρ → α}
    (recorded : ∀ object call,
      value (serve object call).1 =
        record (value object) (call, (serve object call).2))
    (object : σ)
    (calls : List κ) :
    value (perform serve object calls).1 =
      (trace serve object calls).foldl record (value object) := by
  induction calls generalizing object with
  | nil => rfl
  | cons call calls inductionHypothesis =>
      rw [trace_cons, List.foldl_cons, ← recorded]
      exact inductionHypothesis (serve object call).1

/-- The recording rule for objects that keep an invariant and calls that meet a
condition. -/
theorem foldl_trace_of_invariant
    {α : Type}
    {serve : σ → κ → σ × ρ}
    {invariant : σ → Prop}
    {allowed : κ → Prop}
    (value : σ → α)
    {record : α → κ × ρ → α}
    (recorded : ∀ object call, invariant object → allowed call →
      invariant (serve object call).1 ∧
        value (serve object call).1 =
          record (value object) (call, (serve object call).2))
    {object : σ}
    (start : invariant object)
    {calls : List κ}
    (every : ∀ call ∈ calls, allowed call) :
    invariant (perform serve object calls).1 ∧
      value (perform serve object calls).1 =
        (trace serve object calls).foldl record (value object) := by
  induction calls generalizing object with
  | nil => exact ⟨start, rfl⟩
  | cons call calls inductionHypothesis =>
      obtain ⟨onward, same⟩ := recorded object call start (every call (by simp))
      rw [trace_cons, List.foldl_cons, ← same]
      exact inductionHypothesis onward
        fun other member => every other (List.mem_cons_of_mem call member)

/-- The separation rule: when the answer to the calls about a key depends only
on a value that no other call changes, the trace about the key is the trace of
the calls about it. -/
theorem filter_trace
    {α : Type}
    {serve : σ → κ → σ × ρ}
    (about : κ → Bool)
    (value : σ → α)
    (determined : ∀ object other call, about call = true →
      value object = value other →
        (serve object call).2 = (serve other call).2 ∧
          value (serve object call).1 = value (serve other call).1)
    (kept : ∀ object call, about call = false →
      value (serve object call).1 = value object)
    {object other : σ}
    (same : value object = value other)
    (calls : List κ) :
    (trace serve object calls).filter (fun entry => about entry.1) =
      trace serve other (calls.filter about) := by
  induction calls generalizing object other with
  | nil => rfl
  | cons call calls inductionHypothesis =>
      rw [trace_cons, List.filter_cons, List.filter_cons]
      cases concerns : about call with
      | true =>
          obtain ⟨answer, onward⟩ := determined object other call concerns same
          simp only [if_true, trace_cons, answer]
          rw [inductionHypothesis onward]
      | false =>
          simp only [Bool.false_eq_true, if_false]
          exact inductionHypothesis ((kept object call concerns).trans same)

/-- The simulation rule: two objects that answer every admissible call in the
same way and stay related answer every sequence of calls in the same way. -/
theorem perform_simulates
    {serve : σ → κ → σ × ρ}
    {serveModel : τ → κ → τ × ρ}
    {admissible : σ → List κ → Prop}
    {related : σ → τ → Prop}
    (simulates : ∀ object model call calls,
      admissible object (call :: calls) → related object model →
      (serve object call).2 = (serveModel model call).2 ∧
        related (serve object call).1 (serveModel model call).1 ∧
        admissible (serve object call).1 calls)
    {object : σ}
    {model : τ}
    {calls : List κ}
    (allowed : admissible object calls)
    (start : related object model) :
    (perform serve object calls).2 = (perform serveModel model calls).2 ∧
      related (perform serve object calls).1 (perform serveModel model calls).1 := by
  induction calls generalizing object model with
  | nil => exact ⟨rfl, start⟩
  | cons call calls inductionHypothesis =>
      obtain ⟨answer, onward, later⟩ := simulates object model call calls allowed start
      obtain ⟨answers, final⟩ := inductionHypothesis later onward
      exact ⟨congrArg₂ List.cons answer answers, final⟩

end Objects

end LociTerm
