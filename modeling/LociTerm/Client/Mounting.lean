import LociTerm.Library.Table

/-!
# The terminal in the container

`useTerminal` keeps one terminal for each session in a cache of its module and
moves the element of the current one into its container.  Beside the state the
hook keeps a log of what is done to the terminals.
-/

namespace LociTerm
namespace Client

variable {Theme : Type}

/-- What the effect reads of a `TerminalInstance`. -/
structure CachedTerminal (Theme : Type) where
  /-- `terminal.element` is there: the terminal has been opened. -/
  element : Bool
  listenersBound : Bool
  theme : Theme
  deriving DecidableEq

/-- What is done to the terminal of a session. -/
inductive TerminalOperation
  | opened (sessionId : String)
  | bound (sessionId : String)
  /-- The cached element is moved into the container. -/
  | appended (sessionId : String)
  | removed (sessionId : String)
  | refreshed (sessionId : String)
  deriving DecidableEq

/-- The options of `useTerminal`. -/
structure TerminalOptions (Theme : Type) where
  /-- `none` is `null` or `undefined`. -/
  sessionId : Option String
  theme : Option Theme

/-- A `useTerminal` hook with its container and the cache. -/
structure TerminalHook (Theme : Type) where
  darkTerminalTheme : Theme
  instances : Table String (CachedTerminal Theme)
  /-- The sessions whose elements are in the container, in order. -/
  container : List String
  previousSessionId : Option String
  /-- The values that the effect depended on when it ran last. -/
  deps : Option (Option String × Theme)
  /-- What has been done, latest first. -/
  log : List TerminalOperation

namespace TerminalHook

/-- The page before the first render. -/
def start (darkTerminalTheme : Theme) : TerminalHook Theme :=
  { darkTerminalTheme := darkTerminalTheme
    instances := Table.empty
    container := []
    previousSessionId := none
    deps := none
    log := [] }

/-- Write down what is done. -/
def note (hook : TerminalHook Theme) (operation : TerminalOperation) :
    TerminalHook Theme :=
  { hook with log := operation :: hook.log }

/-- `createInstance` -/
def createInstance (theme : Theme) : CachedTerminal Theme :=
  ⟨false, false, theme⟩

/-- `detachFromContainer` -/
def detachFromContainer
    (hook : TerminalHook Theme)
    (sessionId : String) : TerminalHook Theme :=
  match hook.instances.get? sessionId with
  | some inst =>
      if inst.element && hook.container.contains sessionId then
        { hook with container := hook.container.erase sessionId }.note
          (.removed sessionId)
      else hook
  | none => hook

/-- `bindInputListeners` -/
def bindInputListeners
    (hook : TerminalHook Theme)
    (sessionId : String)
    (inst : CachedTerminal Theme) : TerminalHook Theme :=
  if inst.listenersBound then hook
  else
    { hook with
      instances :=
        hook.instances.set sessionId { inst with listenersBound := true } }.note
        (.bound sessionId)

/-- Put the element of an instance into the container. -/
def attach
    (hook : TerminalHook Theme)
    (sessionId : String)
    (inst : CachedTerminal Theme) : TerminalHook Theme :=
  if inst.element then
    if hook.container.contains sessionId then hook
    else
      ({ hook with container := hook.container ++ [sessionId] }.note
        (.appended sessionId)).note (.refreshed sessionId)
  else
    let opened := { inst with element := true }
    ({ hook with
        instances := hook.instances.set sessionId opened
        container := hook.container ++ [sessionId] }.note
      (.opened sessionId)).bindInputListeners sessionId opened

/-- The element of another session leaves the container. -/
def leave
    (hook : TerminalHook Theme)
    (sessionId : Option String) : TerminalHook Theme :=
  match hook.previousSessionId with
  | some previous =>
      if previous ≠ "" ∧ some previous ≠ sessionId then
        hook.detachFromContainer previous
      else hook
  | none => hook

/-- The first effect. -/
def mount
    (hook : TerminalHook Theme)
    (sessionId : Option String)
    (activeTheme : Theme) : TerminalHook Theme :=
  let hook := hook.leave sessionId
  match sessionId with
  | none => { hook with previousSessionId := none }
  | some id =>
      if id = "" then { hook with previousSessionId := none }
      else
        let inst :=
          (hook.instances.get? id).getD (createInstance activeTheme)
        { { hook with instances := hook.instances.set id inst }.attach id
            inst with
          previousSessionId := some id }

/-- The second effect. -/
def setTheme
    (hook : TerminalHook Theme)
    (sessionId : Option String)
    (activeTheme : Theme) : TerminalHook Theme :=
  match sessionId with
  | none => hook
  | some id =>
      { hook with
        instances :=
          if id = "" then hook.instances
          else hook.instances.modify id fun inst =>
            { inst with theme := activeTheme } }

/-- A render, with the effects if what they depend on has changed. -/
def render [DecidableEq Theme]
    (hook : TerminalHook Theme)
    (options : TerminalOptions Theme) : TerminalHook Theme :=
  let activeTheme := options.theme.getD hook.darkTerminalTheme
  if hook.deps = some (options.sessionId, activeTheme) then hook
  else
    { (hook.mount options.sessionId activeTheme).setTheme options.sessionId
        activeTheme with
      deps := some (options.sessionId, activeTheme) }

end TerminalHook

/-! ## What the renders ask for -/

/-- The session of a render, if there is one. -/
def TerminalOptions.current (options : TerminalOptions Theme) :
    Option String :=
  options.sessionId.filter (· ≠ "")

/-- How often a session becomes the current one, after another one. -/
def visits (id : String) :
    Option String → List (TerminalOptions Theme) → Nat
  | _, [] => 0
  | before, options :: rest =>
      (if options.current = some id ∧ before ≠ some id then 1 else 0) +
        visits id options.current rest

namespace TerminalHook

/-- The container holds the element of the current session, and every cached
terminal is open. -/
structure Mounts (hook : TerminalHook Theme) (current : Option String) :
    Prop where
  previous : hook.previousSessionId = current
  container : hook.container = current.toList
  named : current ≠ some ""
  deps : ∀ sessionId theme, hook.deps = some (sessionId, theme) →
    sessionId.filter (· ≠ "") = current
  ready : ∀ id inst, hook.instances.get? id = some inst →
    inst.element = true ∧ inst.listenersBound = true
  cached : ∀ id, current = some id → (hook.instances.get? id).isSome

/-- What has been done to the terminal of a session that has become the current
one so often. -/
structure Done (hook : TerminalHook Theme) (id : String) (visited : Nat) :
    Prop where
  opened : hook.log.count (.opened id) =
    if (hook.instances.get? id).isSome then 1 else 0
  bound : hook.log.count (.bound id) = hook.log.count (.opened id)
  refreshed : hook.log.count (.refreshed id) = hook.log.count (.appended id)
  total : hook.log.count (.opened id) + hook.log.count (.appended id) =
    visited
  cached : (hook.instances.get? id).isSome ↔ 0 < visited

theorem Mounts.leave
    {hook : TerminalHook Theme}
    {current : Option String}
    (mounts : hook.Mounts current)
    (sessionId : Option String) :
    (hook.leave sessionId).instances = hook.instances ∧
      (hook.leave sessionId).container =
        (if sessionId = current then current.toList else []) ∧
      ∃ removed, (hook.leave sessionId).log =
        (removed : List String).map .removed ++ hook.log := by
  obtain ⟨previous, container, named, _, ready, cached⟩ := mounts
  unfold TerminalHook.leave
  rw [previous]
  cases current with
  | none => exact ⟨rfl, by simpa using container, [], rfl⟩
  | some before =>
      have nonempty : before ≠ "" := fun empty => named (congrArg some empty)
      by_cases same : some before = sessionId
      · simp only [same, ne_eq, not_true_eq_false, and_false, if_false,
          if_true]
        exact ⟨trivial, same ▸ container, [], rfl⟩
      · obtain ⟨inst, found⟩ := Option.isSome_iff_exists.mp (cached before rfl)
        have isOpen := (ready before inst found).1
        simp only [ne_eq, nonempty, same, Ne.symm same, not_false_eq_true,
          and_self, if_true, if_false, detachFromContainer, found, isOpen,
          container]
        exact ⟨by simp [note], by simp [note], [before], by simp [note]⟩

/-- Removals are not counted. -/
theorem Done.of_removed
    {hook next : TerminalHook Theme}
    {id : String}
    {visited : Nat}
    (done : hook.Done id visited)
    (instances : next.instances = hook.instances)
    (removed : List String)
    (log : next.log = removed.map .removed ++ hook.log) :
    next.Done id visited := by
  have counted (operation : TerminalOperation)
      (other : ∀ session, operation ≠ .removed session) :
      next.log.count operation = hook.log.count operation := by
    rw [log, List.count_append, List.count_eq_zero_of_not_mem, Nat.zero_add]
    intro member
    obtain ⟨session, _, same⟩ := List.mem_map.mp member
    exact other session same.symm
  obtain ⟨opened, bound, refreshed, total, cached⟩ := done
  constructor
  · rw [counted (.opened id) (by simp), instances, opened]
  · rw [counted (.bound id) (by simp), counted (.opened id) (by simp), bound]
  · rw [counted (.refreshed id) (by simp), counted (.appended id) (by simp),
      refreshed]
  · rw [counted (.opened id) (by simp), counted (.appended id) (by simp),
      total]
  · rw [instances, cached]

/-- What the first effect does: nothing but a removal, or it moves a cached
element back, or it opens a new terminal. -/
theorem mount_cases
    {hook : TerminalHook Theme}
    {current : Option String}
    (mounts : hook.Mounts current)
    (sessionId : Option String)
    (activeTheme : Theme) :
    let next := hook.mount sessionId activeTheme
    let target := sessionId.filter (· ≠ "")
    next.container = target.toList ∧ next.previousSessionId = target ∧
      ∃ removed : List String,
        (target = none ∨ target = current) ∧
            next.instances = hook.instances ∧
            next.log = removed.map .removed ++ hook.log ∨
          ∃ id, target = some id ∧ current ≠ some id ∧
            ((hook.instances.get? id).isSome ∧
                next.instances = hook.instances ∧
                next.log = .refreshed id :: .appended id ::
                  (removed.map .removed ++ hook.log) ∨
              hook.instances.get? id = none ∧
                (∀ other, next.instances.get? other =
                  if id = other then some ⟨true, true, activeTheme⟩
                  else hook.instances.get? other) ∧
                next.log = .bound id :: .opened id ::
                  (removed.map .removed ++ hook.log)) := by
  obtain ⟨instances, container, removed, log⟩ := mounts.leave sessionId
  unfold mount
  simp only
  cases sessionId with
  | none =>
      refine ⟨?_, rfl, removed, .inl ⟨.inl rfl, instances, log⟩⟩
      rw [container]
      split
      · next same => exact same ▸ rfl
      · rfl
  | some id =>
      by_cases empty : id = ""
      · subst empty
        simp only [if_true]
        refine ⟨?_, rfl, removed, .inl ⟨.inl rfl, instances, log⟩⟩
        rw [container, if_neg (Ne.symm mounts.named)]
        rfl
      · have target : (some id).filter (· ≠ "") = some id := by
          simpa using empty
        simp only [if_neg empty, target, instances]
        cases found : hook.instances.get? id with
        | some inst =>
            have isOpen := (mounts.ready id inst found).1
            have same : hook.instances.set id inst = hook.instances :=
              (Table.set_eq_self_iff _ _ _).mpr found
            simp only [Option.getD_some, attach, isOpen, if_true, same,
              container]
            by_cases stays : some id = current
            · subst stays
              simp only [if_true, Option.toList_some]
              exact ⟨by simp, trivial, removed,
                .inl ⟨.inr trivial, by simp, by simp [log]⟩⟩
            · simp only [if_neg stays]
              refine ⟨by simp [note], trivial, removed, .inr ⟨id, rfl,
                Ne.symm stays, .inl ⟨?_, by simp [note], by
                  simp [note, log]⟩⟩⟩
              rw [found]
              rfl
        | none =>
            have different : some id ≠ current := by
              rintro rfl
              have cached := mounts.cached id rfl
              rw [found] at cached
              cases cached
            simp only [Option.getD_none, attach, createInstance, container,
              if_neg different, bindInputListeners, Bool.false_eq_true,
              if_false]
            refine ⟨by simp [note], trivial, removed, .inr ⟨id, rfl,
              Ne.symm different, .inr ⟨found, fun other => ?_, by
                simp [note, log]⟩⟩⟩
            simp only [note, Table.get?_set]
            split <;> rfl

/-- The second effect leaves everything but themes. -/
theorem get?_setTheme
    (hook : TerminalHook Theme)
    (sessionId : Option String)
    (activeTheme : Theme)
    (id : String) :
    ∃ change : CachedTerminal Theme → CachedTerminal Theme,
      (∀ inst, (change inst).element = inst.element ∧
        (change inst).listenersBound = inst.listenersBound) ∧
        (hook.setTheme sessionId activeTheme).instances.get? id =
          (hook.instances.get? id).map change := by
  have kept : hook.instances.get? id =
      (hook.instances.get? id).map fun inst => inst := by
    simp
  unfold setTheme
  cases sessionId with
  | none => exact ⟨fun inst => inst, fun _ => ⟨rfl, rfl⟩, kept⟩
  | some target =>
      simp only
      split
      · exact ⟨fun inst => inst, fun _ => ⟨rfl, rfl⟩, kept⟩
      · rw [Table.get?_modify]
        split
        · exact ⟨fun inst => { inst with theme := activeTheme },
            fun _ => ⟨rfl, rfl⟩, rfl⟩
        · exact ⟨fun inst => inst, fun _ => ⟨rfl, rfl⟩, kept⟩

theorem setTheme_frame
    (hook : TerminalHook Theme)
    (sessionId : Option String)
    (activeTheme : Theme) :
    (hook.setTheme sessionId activeTheme).container = hook.container ∧
      (hook.setTheme sessionId activeTheme).previousSessionId =
        hook.previousSessionId ∧
      (hook.setTheme sessionId activeTheme).log = hook.log := by
  cases sessionId <;> exact ⟨rfl, rfl, rfl⟩

theorem Mounts.render
    [DecidableEq Theme]
    {hook : TerminalHook Theme}
    {current : Option String}
    (mounts : hook.Mounts current)
    (options : TerminalOptions Theme) :
    (hook.render options).Mounts options.current := by
  simp only [TerminalHook.render]
  generalize options.theme.getD hook.darkTerminalTheme = activeTheme
  split
  · next unchanged =>
      have same : options.current = current :=
        mounts.deps options.sessionId activeTheme unchanged
      rw [same]
      exact mounts
  · obtain ⟨container, previous, removed, cases⟩ :=
      mount_cases mounts options.sessionId activeTheme
    obtain ⟨sameContainer, samePrevious, _⟩ := setTheme_frame
      (hook.mount options.sessionId activeTheme) options.sessionId activeTheme
    have entries := get?_setTheme (hook.mount options.sessionId activeTheme)
      options.sessionId activeTheme
    constructor
    · exact samePrevious.trans previous
    · exact sameContainer.trans container
    · simp [TerminalOptions.current, Option.filter_eq_some_iff]
    · rintro _ _ ⟨⟩
      rfl
    · intro id inst found
      obtain ⟨change, kept, entry⟩ := entries id
      obtain ⟨before, there, rfl⟩ :=
        Option.map_eq_some_iff.mp (entry.symm.trans found)
      rw [(kept before).1, (kept before).2]
      rcases cases with ⟨_, instances, _⟩ |
        ⟨target, _, _, ⟨_, instances, _⟩ | ⟨_, instances, _⟩⟩
      · exact mounts.ready id before (instances ▸ there)
      · exact mounts.ready id before (instances ▸ there)
      · rw [instances] at there
        split at there
        · cases there
          exact ⟨rfl, rfl⟩
        · exact mounts.ready id before there
    · intro id here
      obtain ⟨change, _, entry⟩ := entries id
      rw [entry, Option.isSome_map]
      have target : options.sessionId.filter (· ≠ "") = some id := here
      rw [target] at cases
      rcases cases with ⟨other, instances, _⟩ |
        ⟨_, same, _, ⟨cached, instances, _⟩ | ⟨_, instances, _⟩⟩
      · rw [instances]
        have same := other.resolve_left (Option.some_ne_none id)
        exact mounts.cached id same.symm
      · cases same
        rw [instances]
        exact cached
      · cases same
        rw [instances, if_pos rfl]
        rfl

section Done

variable {hook next : TerminalHook Theme} {id target : String} {visited : Nat}

/-- The themes of the terminals do not count. -/
theorem Done.of_same_log
    (done : hook.Done id visited)
    (cached : (next.instances.get? id).isSome =
      (hook.instances.get? id).isSome)
    (log : next.log = hook.log) :
    next.Done id visited := by
  constructor
  · rw [log, cached]
    exact done.opened
  · rw [log]
    exact done.bound
  · rw [log]
    exact done.refreshed
  · rw [log]
    exact done.total
  · rw [cached]
    exact done.cached

/-- A cached terminal comes back to the container. -/
theorem Done.comesBack
    (done : hook.Done id visited)
    (cached : (hook.instances.get? target).isSome)
    (instances : next.instances = hook.instances)
    (log : next.log = .refreshed target :: .appended target :: hook.log) :
    next.Done id (visited + if target = id then 1 else 0) := by
  obtain ⟨opened, bound, refreshed, total, present⟩ := done
  constructor
  · simpa [log, instances] using opened
  · simpa [log] using bound
  · by_cases same : target = id
    · simpa [log, same] using refreshed
    · simpa [log, same] using refreshed
  · by_cases same : target = id
    · simp only [log, same, List.count_cons, if_true]
      simp
      omega
    · simpa [log, same] using total
  · rw [instances]
    by_cases same : target = id
    · subst same
      rw [if_pos rfl]
      exact iff_of_true cached (Nat.succ_pos visited)
    · rw [if_neg same]
      exact present

/-- A new terminal is opened in the container. -/
theorem Done.opens
    (done : hook.Done id visited)
    (absent : hook.instances.get? target = none)
    (cached : (next.instances.get? id).isSome =
      if target = id then true else (hook.instances.get? id).isSome)
    (log : next.log = .bound target :: .opened target :: hook.log) :
    next.Done id (visited + if target = id then 1 else 0) := by
  obtain ⟨opened, bound, refreshed, total, present⟩ := done
  by_cases same : target = id
  · subst same
    rw [absent, Option.isSome_none] at opened
    rw [if_pos rfl] at cached ⊢
    constructor
    · rw [cached]
      simpa [log] using opened
    · simpa [log] using bound
    · simpa [log] using refreshed
    · simp only [log, List.count_cons]
      simp
      omega
    · rw [cached]
      exact iff_of_true rfl (Nat.succ_pos visited)
  · rw [if_neg same] at cached ⊢
    constructor
    · rw [cached]
      simpa [log, same] using opened
    · simpa [log, same] using bound
    · simpa [log] using refreshed
    · simpa [log, same] using total
    · rw [cached]
      exact present

/-- The first effect counts a session that has become the current one. -/
theorem Done.mount
    {current : Option String}
    (mounts : hook.Mounts current)
    (done : hook.Done id visited)
    (sessionId : Option String)
    (activeTheme : Theme) :
    (hook.mount sessionId activeTheme).Done id (visited +
      if sessionId.filter (· ≠ "") = some id ∧ current ≠ some id then 1
      else 0) := by
  obtain ⟨_, _, removed, cases⟩ := mount_cases mounts sessionId activeTheme
  have before : TerminalHook.Done { hook with
      log := removed.map .removed ++ hook.log } id visited :=
    done.of_removed rfl removed rfl
  rcases cases with ⟨other, instances, log⟩ | ⟨target, here, left, cases⟩
  · have stays :
        ¬(sessionId.filter (· ≠ "") = some id ∧ current ≠ some id) := by
      rintro ⟨here, left⟩
      rcases other with none | same
      · rw [none] at here
        cases here
      · exact left (same ▸ here)
    rw [if_neg stays]
    exact before.of_same_log (congrArg (fun m => (m.get? id).isSome) instances)
      log
  · have counts : (sessionId.filter (· ≠ "") = some id ∧
        current ≠ some id) ↔ target = id := by
      rw [here, Option.some.injEq]
      exact and_iff_left_of_imp fun same => same ▸ left
    simp only [counts]
    rcases cases with ⟨cached, instances, log⟩ | ⟨absent, instances, log⟩
    · exact before.comesBack cached instances log
    · apply before.opens absent _ log
      rw [instances]
      split
      · rfl
      · rfl

theorem Done.render
    [DecidableEq Theme]
    {current : Option String}
    (mounts : hook.Mounts current)
    (done : hook.Done id visited)
    (options : TerminalOptions Theme) :
    (hook.render options).Done id (visited +
      if options.current = some id ∧ current ≠ some id then 1 else 0) := by
  simp only [TerminalHook.render]
  generalize options.theme.getD hook.darkTerminalTheme = activeTheme
  split
  · next unchanged =>
      have same : options.current = current :=
        mounts.deps options.sessionId activeTheme unchanged
      rw [if_neg fun both => both.2 (same ▸ both.1)]
      exact done
  · obtain ⟨_, _, log⟩ := setTheme_frame
      (hook.mount options.sessionId activeTheme) options.sessionId activeTheme
    obtain ⟨change, _, entry⟩ := get?_setTheme
      (hook.mount options.sessionId activeTheme) options.sessionId activeTheme
      id
    apply (Done.mount mounts done options.sessionId activeTheme).of_same_log
    · exact (congrArg Option.isSome entry).trans Option.isSome_map
    · exact log

end Done

/-! ## Sequences of renders -/

theorem Mounts.start (darkTerminalTheme : Theme) :
    (start darkTerminalTheme).Mounts none := by
  constructor
  · rfl
  · rfl
  · exact nofun
  · exact nofun
  · intro id inst found
    rw [TerminalHook.start, Table.get?_empty] at found
    cases found
  · exact nofun

theorem Done.start (darkTerminalTheme : Theme) (id : String) :
    (start darkTerminalTheme).Done id 0 := by
  constructor <;> simp [TerminalHook.start]

theorem Mounts.renders
    [DecidableEq Theme]
    {hook : TerminalHook Theme}
    {current : Option String}
    (mounts : hook.Mounts current)
    (renders : List (TerminalOptions Theme)) :
    (renders.foldl TerminalHook.render hook).Mounts
      ((renders.getLast?.map (·.current)).getD current) := by
  induction renders generalizing hook current with
  | nil => exact mounts
  | cons options rest inductionHypothesis =>
      have later := inductionHypothesis (mounts.render options)
      rw [List.getLast?_cons]
      cases last : rest.getLast? with
      | none => simpa [last] using later
      | some other => simpa [last] using later

theorem Done.renders
    [DecidableEq Theme]
    {hook : TerminalHook Theme}
    {current : Option String}
    {id : String}
    {visited : Nat}
    (mounts : hook.Mounts current)
    (done : hook.Done id visited)
    (renders : List (TerminalOptions Theme)) :
    (renders.foldl TerminalHook.render hook).Done id
      (visited + visits id current renders) := by
  induction renders generalizing hook current visited with
  | nil => exact done
  | cons options rest inductionHypothesis =>
      have later := inductionHypothesis (mounts.render options)
        (Done.render mounts done options)
      rwa [Nat.add_assoc] at later

/-- After any renders the container holds the element of the current session
alone.  The terminal of a session is opened and bound once, when the session
becomes the current one for the first time, and moved back and refreshed once
each time it becomes the current one again. -/
theorem mounts_current
    [DecidableEq Theme]
    (darkTerminalTheme : Theme)
    (renders : List (TerminalOptions Theme)) :
    let hook := renders.foldl TerminalHook.render (start darkTerminalTheme)
    hook.container = (renders.getLast?.bind (·.current)).toList ∧
      ∀ id,
        (hook.log.count (.opened id) =
          if visits id none renders = 0 then 0 else 1) ∧
        hook.log.count (.bound id) = hook.log.count (.opened id) ∧
        hook.log.count (.appended id) = visits id none renders - 1 ∧
        hook.log.count (.refreshed id) = hook.log.count (.appended id) := by
  refine ⟨?_, fun id => ?_⟩
  · rw [((Mounts.start darkTerminalTheme).renders renders).container]
    cases renders.getLast? <;> rfl
  · obtain ⟨opened, bound, refreshed, total, cached⟩ :=
      (Done.start darkTerminalTheme id).renders
        (Mounts.start darkTerminalTheme) renders
    rw [Nat.zero_add] at total cached
    have once : (renders.foldl TerminalHook.render
        (start darkTerminalTheme)).log.count (.opened id) =
          if visits id none renders = 0 then 0 else 1 := by
      rw [opened]
      by_cases never : visits id none renders = 0
      · rw [if_neg (by simp [cached, never]), if_pos never]
      · rw [if_pos (cached.mpr (Nat.pos_of_ne_zero never)), if_neg never]
    refine ⟨once, bound, ?_, refreshed⟩
    rw [once] at total
    split at total <;> omega

end TerminalHook
end Client
end LociTerm
