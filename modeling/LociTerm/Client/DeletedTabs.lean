import LociTerm.Client.Frontend

/-!
# Deleted tabs

A deleted session should open no socket and keep no instance.  Nothing takes an
instance out of the map, so that this holds exactly as long as no deletion
resolves for a session with an instance, and no effect runs for a deleted one.
-/

namespace LociTerm
namespace Client
namespace Frontend

variable (owner : String → String)

/-- No socket has been created for a session that was deleted before. -/
def Unopened (log : List Note) : Prop :=
  ∀ later id earlier, log = later ++ .opened id :: earlier →
    deletedIn owner id earlier = false

/-- No deleted session has an instance. -/
def Cleared (f : Frontend) : Prop :=
  ∀ id, deletedIn owner id f.log = true → f.instances.get? id = none

/-- No socket has been created for a deleted session, and once the effects have
settled, no deleted session has an instance. -/
structure Quiet (f : Frontend) : Prop where
  unopened : Unopened owner f.log
  cleared : f.Settled → Cleared owner f

/-- A deletion resolves for sessions without an instance, and the effect runs
for a session that has not been deleted. -/
def Spares (f : Frontend) : FrontendAction → Prop
  | .store action =>
      (f.browser.resolves action).all fun deletion =>
        f.instances.keys.all fun id => !deletion.covers owner id
  | .effect _ => f.target.all fun id => !deletedIn owner id f.log
  | _ => True

instance : ∀ f action, Decidable (Spares owner f action)
  | _, .store _ | _, .effect _ => inferInstanceAs (Decidable (_ = true))
  | _, .render _ | _, .unmount | _, .terminal _ _ =>
      inferInstanceAs (Decidable True)

/-! ## The map and the log -/

variable {owner}

/-- The same sessions have instances, and no other one is deleted. -/
theorem Cleared.congr
    {f next : Frontend}
    (instances : ∀ id,
      next.instances.get? id = none ↔ f.instances.get? id = none)
    (log : ∀ id, deletedIn owner id next.log = deletedIn owner id f.log) :
    Cleared owner next ↔ Cleared owner f := by
  unfold Cleared
  simp only [instances, log]

theorem get?_cleaned (f : Frontend) (id : String) :
    f.cleaned.get? id = none ↔ f.instances.get? id = none := by
  unfold cleaned
  split
  · rw [Table.get?_modify]
    split <;> simp
  · rfl

theorem get?_set_eq_none_iff
    {instances : Table String Terminal}
    {id : String}
    {before : Terminal}
    (present : instances.get? id = some before)
    (inst : Terminal)
    (other : String) :
    (instances.set id inst).get? other = none ↔ instances.get? other = none := by
  rw [Table.get?_set]
  split
  · next same =>
      subst same
      simp [present]
  · rfl

/-- What an effect leaves in the map: its session and what was there. -/
theorem get?_runEffect
    (f : Frontend)
    (container : Option Dimensions)
    (id : String) :
    (f.runEffect container).instances.get? id = none ↔
      f.instances.get? id = none ∧ f.target ≠ some id := by
  have target : ({ f with pending := false, instances := f.cleaned } :
      Frontend).target = f.target := rfl
  unfold runEffect
  simp only [target]
  cases f.target with
  | none => simp [get?_cleaned]
  | some shown =>
      simp only [Table.get?_set, Option.some.injEq, ne_eq]
      by_cases same : shown = id
      · simp [same]
      · simp [same, get?_cleaned]

/-- A step of the store, with the deletion that it resolves. -/
theorem cleared_store_iff
    (f : Frontend)
    (browser : Browser)
    (resolved : Option Deletion) :
    Cleared owner
        { f with
          browser := browser
          log := (resolved.map Note.deleted).toList ++ f.log } ↔
      Cleared owner f ∧
        (resolved.all fun deletion =>
          f.instances.keys.all fun id => !deletion.covers owner id) = true := by
  cases resolved with
  | none => simp [Cleared]
  | some deletion =>
      have deleted (id : String) :
          deletedIn owner id (.deleted deletion :: f.log) =
            (deletion.covers owner id || deletedIn owner id f.log) := rfl
      have spared : (f.instances.keys.all fun id =>
          !deletion.covers owner id) = true ↔
            ∀ id, deletion.covers owner id = true →
              f.instances.get? id = none := by
        simp only [List.all_eq_true, Bool.not_eq_true', Table.mem_keys_iff]
        refine forall_congr' fun id => ?_
        cases f.instances.get? id with
        | none => simp
        | some inst => simp
      simp only [Cleared, Option.map_some, Option.toList_some,
        List.singleton_append, deleted, Bool.or_eq_true, Option.all_some,
        spared]
      constructor
      · intro cleared
        exact ⟨fun id before => cleared id (Or.inr before),
          fun id covered => cleared id (Or.inl covered)⟩
      · rintro ⟨cleared, kept⟩ id (covered | before)
        · exact kept id covered
        · exact cleared id before

/-- A step keeps the map clear of deleted sessions exactly if it spares
them. -/
theorem cleared_step_iff
    {f next : Frontend}
    {action : FrontendAction}
    (stepped : f.step action = some next) :
    Cleared owner next ↔ Cleared owner f ∧ Spares owner f action := by
  cases moves_of_step stepped with
  | store action browser _ =>
      exact cleared_store_iff f browser (f.browser.resolves action)
  | render themed _ => exact (and_iff_left trivial).symm
  | effect container _ =>
      simp only [Cleared, get?_runEffect, log_runEffect, Spares,
        Option.all_eq_true, Bool.not_eq_true']
      constructor
      · intro cleared
        refine ⟨fun id deleted => (cleared id deleted).1, fun id shown => ?_⟩
        rw [Bool.eq_false_iff]
        intro deleted
        exact (cleared id deleted).2 shown
      · rintro ⟨cleared, spares⟩ id deleted
        refine ⟨cleared id deleted, fun shown => ?_⟩
        rw [spares id shown] at deleted
        cases deleted
  | unmount _ =>
      have same :
          Cleared owner { f with
            instances := f.cleaned
            rendered := none
            pending := false
            effective := none } ↔ Cleared owner f :=
        Cleared.congr (get?_cleaned f) fun _ => rfl
      exact same.trans (and_iff_left trivial).symm
  | terminal id event inst after _ present _ =>
      rw [Cleared.congr (get?_set_eq_none_iff present after) fun other => ?_]
      · exact (and_iff_left trivial).symm
      · simp only
        split <;> rfl

/-- The socket that a step creates is one of a session with an instance. -/
theorem opened_of_step
    {f next : Frontend}
    {action : FrontendAction}
    (stepped : f.step action = some next) :
    (∃ notes, next.log = notes ++ f.log ∧ ∀ id, .opened id ∉ notes) ∨
      ∃ id, next.log = .opened id :: f.log ∧ f.instances.get? id ≠ none := by
  cases moves_of_step stepped with
  | store action browser _ =>
      refine Or.inl ⟨_, rfl, fun id member => ?_⟩
      cases resolved : f.browser.resolves action <;> simp [resolved] at member
  | render themed _ => exact Or.inl ⟨[], rfl, by simp⟩
  | effect container _ =>
      exact Or.inl ⟨[], log_runEffect f container, by simp⟩
  | unmount _ => exact Or.inl ⟨[], rfl, by simp⟩
  | terminal id event inst after _ present _ =>
      by_cases created : inst.sockets.length < after.sockets.length
      · refine Or.inr ⟨id, if_pos created, ?_⟩
        rw [present]
        exact nofun
      · exact Or.inl ⟨[], if_neg created, by simp⟩

/-! ## A whole run -/

theorem Unopened.append
    {log : List Note}
    (unopened : Unopened owner log)
    {notes : List Note}
    (none : ∀ id, .opened id ∉ notes) :
    Unopened owner (notes ++ log) := by
  induction notes with
  | nil => exact unopened
  | cons note notes inductionHypothesis =>
      intro later id earlier split
      cases later with
      | nil =>
          have first : note = .opened id := (List.cons.inj split).1
          exact absurd (by simp [first]) (none id)
      | cons newest later =>
          refine inductionHypothesis (fun id member => none id ?_) later id
            earlier (List.cons.inj split).2
          exact List.mem_cons_of_mem note member

theorem Unopened.cons
    {log : List Note}
    (unopened : Unopened owner log)
    {id : String}
    (kept : deletedIn owner id log = false) :
    Unopened owner (.opened id :: log) := by
  intro later other earlier split
  cases later with
  | nil =>
      obtain ⟨same, rfl⟩ := List.cons.inj split
      cases same
      exact kept
  | cons newest later =>
      exact unopened later other earlier (List.cons.inj split).2

/-- In a run whose steps spare the deleted sessions, every one of them is gone
and stays silent. -/
theorem cleared_of_run
    {actions : List FrontendAction}
    {f : Frontend}
    (spares : Follows step (Spares owner) initial actions)
    (ran : run step initial actions = some f) :
    Cleared owner f ∧ Unopened owner f.log := by
  have preserved : ∀ (f : Frontend) action next,
      Cleared owner f ∧ Unopened owner f.log → Spares owner f action →
        f.step action = some next →
          Cleared owner next ∧ Unopened owner next.log := by
    intro f action next sound spares stepped
    obtain ⟨cleared, unopened⟩ := sound
    refine ⟨(cleared_step_iff stepped).mpr ⟨cleared, spares⟩, ?_⟩
    rcases opened_of_step stepped with ⟨notes, log, none⟩ | ⟨id, log, present⟩
    · rw [log]
      exact unopened.append none
    · rw [log]
      refine unopened.cons ?_
      rw [Bool.eq_false_iff]
      intro deleted
      exact present (cleared id deleted)
  have start : Cleared owner initial ∧ Unopened owner initial.log := by
    refine ⟨fun id _ => rfl, fun later id earlier split => ?_⟩
    cases later <;> cases split
  exact invariant_of_run preserved start spares ran

/-- A deleted tab is quiet in every run whose steps spare the deleted sessions,
and in no other run that comes to rest. -/
theorem quiet_iff_spares
    (owner : String → String)
    {actions : List FrontendAction}
    {f : Frontend}
    (ran : run step initial actions = some f) :
    (Follows step (Spares owner) initial actions → f.Quiet owner) ∧
      (f.Settled →
        (f.Quiet owner ↔ Follows step (Spares owner) initial actions)) := by
  have quiet (spares : Follows step (Spares owner) initial actions) :
      f.Quiet owner := by
    obtain ⟨cleared, unopened⟩ := cleared_of_run spares ran
    exact ⟨unopened, fun _ => cleared⟩
  refine ⟨quiet, fun settled => ⟨fun still => ?_, quiet⟩⟩
  have exact : ∀ (f : Frontend) action next, True →
      f.step action = some next →
        (Cleared owner next ↔ Cleared owner f ∧ Spares owner f action) :=
    fun _ _ _ _ stepped => cleared_step_iff stepped
  have cleared : Cleared owner f := still.cleared settled
  exact ((Follows.iff_of_run (fun _ _ _ _ _ => trivial) exact trivial
    ran).mp cleared).2

/-- A session is created and deleted before `TerminalView` has rendered it. -/
def unseenRun : List FrontendAction :=
  loadRun.map .store ++
    [.render true, .effect none,
      .store (.call 1 (.createSession "v" none)),
      .store (.reply 1 [.session (writeJSON 201 (sessionRow "c" "v"))]),
      .store (.call 2 (.deleteSession "c")),
      .store (.reply 2 [.done (writeJSON 200 ())]),
      .render true, .effect none]

theorem quiet_iff_spares_unseenRun :
    ((run step initial unseenRun).get (by decide)).Quiet fun _ => "v" :=
  (quiet_iff_spares (fun _ => "v") (Option.some_get _).symm).1 (by decide)

/-- The shown session is deleted.  The server closes its socket, and the timer
of the instance that remains in the map connects again. -/
def reconnectRun : List FrontendAction :=
  loadRun.map .store ++
    [.store (.call 1 (.createSession "v" none)),
      .store (.reply 1 [.session (writeJSON 201 (sessionRow "c" "v"))]),
      .render true, .effect none,
      .terminal "c" .ticketArrives, .terminal "c" (.socketOpen 0),
      .store (.call 2 (.deleteSession "c")),
      .store (.reply 2 [.done (writeJSON 200 ())]),
      .render true, .effect none,
      .terminal "c" (.socketClose 0), .terminal "c" .reconnectTimer,
      .terminal "c" .ticketArrives]

theorem not_quiet_reconnectRun :
    ∃ owner actions f,
      run step initial actions = some f ∧ f.Settled ∧
        ¬Unopened owner f.log ∧ ¬Cleared owner f := by
  refine ⟨fun _ => "v", reconnectRun,
    (run step initial reconnectRun).get (by decide),
    (Option.some_get _).symm, by decide, fun unopened => ?_, fun cleared => ?_⟩
  · have silent := unopened [] "c" _ rfl
    exact absurd silent (by decide)
  · have gone := cleared "c" (by decide)
    exact absurd gone (by decide)

end Frontend
end Client
end LociTerm
