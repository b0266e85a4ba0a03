import LociTerm.Client.AppStore

/-!
# What a list holds

The ids that a list of the store holds, and what the operations on lists do to
them.  An error object, in the place of a list or of a record, holds none.
-/

namespace LociTerm
namespace Client

variable {α : Type} {f : α → String}

/-- The ids of the records of a list. -/
def ids (f : α → String) : Records α → List String
  | .ok list => list.filterMap (·.field f)
  | .error _ => []

@[simp] theorem ids_error (message : String) :
    ids f (.error message) = [] := rfl

@[simp] theorem ids_nil : ids f (.ok []) = [] := rfl

theorem mem_ids_ok {list : List (Body α)} {id : String} :
    id ∈ ids f (.ok list) ↔ ∃ record ∈ list, record.field f = some id :=
  List.mem_filterMap

@[simp] theorem ids_append (left right : List (Body α)) :
    ids f (.ok (left ++ right)) = ids f (.ok left) ++ ids f (.ok right) := by
  simp [ids]

@[simp] theorem ids_singleton (value : α) :
    ids f (.ok [.ok value]) = [f value] := rfl

@[simp] theorem ids_map_ok (rows : List α) :
    ids f (.ok (rows.map .ok)) = rows.map f := by
  simp [ids, List.filterMap_map, Function.comp_def]

/-- A deletion takes out the one id. -/
theorem mem_ids_filter
    {list : List (Body α)}
    {removed id : String} :
    id ∈ ids f (.ok (list.filter (·.field f ≠ some removed))) ↔
      id ≠ removed ∧ id ∈ ids f (.ok list) := by
  simp only [mem_ids_ok, List.mem_filter, decide_eq_true_eq]
  constructor
  · rintro ⟨record, ⟨member, kept⟩, found⟩
    refine ⟨?_, record, member, found⟩
    rintro rfl
    exact kept found
  · rintro ⟨different, record, member, found⟩
    refine ⟨record, ⟨member, ?_⟩, found⟩
    rw [found]
    simpa using different

/-- The first id is one of them. -/
theorem firstId_mem
    {list : Records α}
    {id : String}
    (first : firstId f list = some id) :
    id ∈ ids f list := by
  unfold firstId at first
  split at first
  · exact mem_ids_ok.mpr ⟨_, List.mem_cons_self, first⟩
  · cases first

/-- What is active after a deletion is not what was deleted. -/
theorem withoutSession_active_ne
    {s : AppState}
    {wid id : String}
    {list : List (Body Session)} :
    (s.withoutSession wid id list).activeSessionId ≠ some id := by
  simp only [AppState.withoutSession]
  split
  · intro first
    exact (mem_ids_filter.mp (firstId_mem first)).1 rfl
  · next different => exact different

/-- Replacing the records of an id by one record changes nothing exactly when
they already are that record. -/
theorem map_replace_eq_self_iff
    {id : String}
    {updated : Body α}
    {list : List (Body α)} :
    (list.map fun record =>
        if record.field f = some id then updated else record) = list ↔
      ∀ record ∈ list, record.field f = some id → record = updated := by
  let replace (record : Body α) : Body α :=
    if record.field f = some id then updated else record
  have fixed : list.map replace = list ↔
      ∀ record ∈ list, replace record = record := by
    rw [← List.map_inj_left (g := fun record => record), List.map_id']
  refine fixed.trans (forall₂_congr fun record _ => ?_)
  by_cases found : record.field f = some id
  · simp [replace, found, eq_comm]
  · simp [replace, found]

/-- The ids that the session list of a workspace holds. -/
def sessionIds
    (sessions : Table String (Records Session))
    (wid : String) : List String :=
  ((sessions.get? wid).map (ids (·.id))).getD []

theorem sessionIds_of_get?
    {sessions : Table String (Records Session)}
    {wid : String}
    {list : Records Session}
    (entry : sessions.get? wid = some list) :
    sessionIds sessions wid = ids (·.id) list := by
  simp [sessionIds, entry]

@[simp] theorem sessionIds_empty (wid : String) :
    sessionIds Table.empty wid = [] := rfl

theorem sessionIds_set
    (sessions : Table String (Records Session))
    (wid other : String)
    (list : Records Session) :
    sessionIds (sessions.set wid list) other =
      if wid = other then ids (·.id) list else sessionIds sessions other := by
  unfold sessionIds
  rw [Table.get?_set]
  split <;> rfl

theorem sessionIds_erase
    (sessions : Table String (Records Session))
    (wid other : String) :
    sessionIds (sessions.erase wid) other =
      if wid = other then [] else sessionIds sessions other := by
  unfold sessionIds
  rw [Table.get?_erase]
  split <;> rfl

/-- A missing list holds as much as an empty one. -/
theorem ids_sessionsOf (s : AppState) (wid : String) :
    ids (·.id) (s.sessionsOf wid) = sessionIds s.sessions wid := by
  unfold AppState.sessionsOf sessionIds
  cases s.sessions.get? wid <;> rfl

/-- The keys of the workspaces beside their lists. -/
theorem keys_zip
    {workspaces : List (Body Workspace)}
    {lists : List (Records Session)}
    (lengths : lists.length = workspaces.length) :
    (workspaces.zip lists).map (fun pair => key (pair.1.field (·.id))) =
      workspaces.map fun w => key (w.field (·.id)) := by
  have firsts : (workspaces.zip lists).map Prod.fst = workspaces :=
    List.map_fst_zip (Nat.le_of_eq lengths.symm)
  calc (workspaces.zip lists).map (fun pair => key (pair.1.field (·.id)))
      = ((workspaces.zip lists).map Prod.fst).map
          fun w => key (w.field (·.id)) := by
        rw [List.map_map, Function.comp_def]
    _ = workspaces.map fun w => key (w.field (·.id)) := by rw [firsts]

/-- The lists of some replies are those of each of them. -/
theorem mem_mapM
    {β γ : Type}
    {f : β → Option γ}
    {inputs : List β}
    {outputs : List γ}
    (mapped : inputs.mapM f = some outputs) :
    (∀ input ∈ inputs, ∃ output ∈ outputs, f input = some output) ∧
      ∀ output ∈ outputs, ∃ input ∈ inputs, f input = some output := by
  induction inputs generalizing outputs with
  | nil =>
      cases mapped
      simp
  | cons first rest inductionHypothesis =>
      rw [List.mapM_cons] at mapped
      obtain ⟨head, foundHead, mapped⟩ := Option.bind_eq_some_iff.mp mapped
      obtain ⟨tail, foundTail, joined⟩ := Option.bind_eq_some_iff.mp mapped
      cases joined
      obtain ⟨outward, inward⟩ := inductionHypothesis foundTail
      simp only [List.mem_cons, forall_eq_or_imp, exists_eq_or_imp]
      refine ⟨⟨Or.inl foundHead, fun input member => ?_⟩,
        Or.inl foundHead, fun output member => ?_⟩
      · exact Or.inr (outward input member)
      · exact Or.inr (inward output member)

theorem truthy_iff {id : Option String} :
    truthy id = true ↔ ∃ value, id = some value ∧ value ≠ "" := by
  cases id <;> simp [truthy]

/-! ## What the last part of an operation does to the lists -/

/-- `setActiveWorkspace` assigns one list. -/
theorem finishSetActiveWorkspace_sessions
    (app : App)
    (wid : String)
    (list : Records Session) :
    ∃ after, (app.finishSetActiveWorkspace wid list = .returns after ∨
        app.finishSetActiveWorkspace wid list = .throws after) ∧
      (after.state.sessions = app.state.sessions ∨
        after.state.sessions = app.state.sessions.set wid list) := by
  simp only [App.finishSetActiveWorkspace]
  split
  · exact ⟨_, Or.inr rfl, Or.inl rfl⟩
  · split
    · exact ⟨_, Or.inl rfl, Or.inr rfl⟩
    · split
      · exact ⟨_, Or.inl rfl, Or.inr rfl⟩
      · exact ⟨_, Or.inl rfl, Or.inr rfl⟩

/-- A resolved deletion has taken the session out of the active workspace, if
there is one. -/
theorem finishDeleteSession_cases
    {app after : App}
    {id : String}
    (resolved : app.finishDeleteSession id = .returns after) :
    (∃ active list, active ≠ "" ∧
      app.state.activeWorkspaceId = some active ∧
      app.state.sessionsOf active = .ok list ∧
      after = { app.cancelIdleTracking id with
        state := app.state.withoutSession active id list }) ∨
    truthy app.state.activeWorkspaceId = false ∧
      after = app.cancelIdleTracking id := by
  have same : (app.cancelIdleTracking id).state = app.state := rfl
  simp only [App.finishDeleteSession, same] at resolved
  split at resolved
  · next active =>
      obtain ⟨wid, isActive, named⟩ := truthy_iff.mp active
      simp only [isActive, key, Option.getD_some] at resolved
      split at resolved
      · cases resolved
      · next list held =>
          cases resolved
          exact Or.inl ⟨wid, list, named, isActive, held, rfl⟩
  · next inactive =>
      cases resolved
      exact Or.inr ⟨by simpa using inactive, rfl⟩

/-- A resolved renaming has assigned the list of the active workspace, if there
is one. -/
theorem finishRenameSession_cases
    {app after : App}
    {id : String}
    {updated : Body Session}
    (resolved : app.finishRenameSession id updated = .returns after) :
    (∃ active list, active ≠ "" ∧
      app.state.activeWorkspaceId = some active ∧
      app.state.sessionsOf active = .ok list ∧
      after.state.sessions = app.state.sessions.set active
        (.ok (list.map fun sess =>
          if sess.field (·.id) = some id then updated else sess))) ∨
    truthy app.state.activeWorkspaceId = false ∧ after = app := by
  simp only [App.finishRenameSession] at resolved
  split at resolved
  · next active =>
      obtain ⟨wid, isActive, named⟩ := truthy_iff.mp active
      simp only [isActive, key, Option.getD_some] at resolved
      split at resolved
      · cases resolved
      · next list held =>
          cases resolved
          exact Or.inl ⟨wid, list, named, isActive, held, rfl⟩
  · next inactive =>
      cases resolved
      exact Or.inr ⟨by simpa using inactive, rfl⟩

end Client
end LociTerm
