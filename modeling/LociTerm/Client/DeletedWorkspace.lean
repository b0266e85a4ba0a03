import LociTerm.Client.Activity
import LociTerm.Client.Coherence

/-!
# Deleting a workspace

`deleteWorkspace` takes the workspace and its sessions out of every part of the
state, and always goes on with the first workspace that is left.  So what was
active stays active only if it was to be chosen anyway.
-/

namespace LociTerm
namespace Client

namespace AppState

/-- The workspaces without one of them. -/
def otherWorkspaces (s : AppState) (id : String) : List (Body Workspace) :=
  match s.workspaces with
  | .ok workspaces => workspaces.filter (·.field (·.id) ≠ some id)
  | .error _ => []

/-- The ids of the sessions that are listed for a workspace. -/
def removedIds (s : AppState) (id : String) : List (Option String) :=
  match s.sessionsOf id with
  | .ok removed => removed.map (·.field (·.id))
  | .error _ => []

/-- The first workspace that is left, if there is one, with its remembered
session, else with its first session, else with none. -/
def successor (s : AppState) (id : String) : Option String × Option String :=
  match (s.otherWorkspaces id).head? with
  | none => (none, none)
  | some first =>
      (first.field (·.id),
        (first.field (·.id)).bind fun wid =>
          (s.remembered wid).or
            ((s.sessions.get? wid).bind (firstId Session.id)))

/-- What is active. -/
def active (s : AppState) : Option String × Option String :=
  (s.activeWorkspaceId, s.activeSessionId)

/-- Every part of the state has lost the entries of the workspace and of its
sessions, and no other. -/
structure LosesOnly (s next : AppState) (id : String) : Prop where
  workspaces : next.workspaces = .ok (s.otherWorkspaces id)
  sessions : ∀ wid, next.sessions.get? wid =
    if wid = id then none else s.sessions.get? wid
  remembered : ∀ wid, next.activeSessionByWorkspace.get? wid =
    if wid = id then none else s.activeSessionByWorkspace.get? wid
  activity : ∀ session, next.sessionActivity.get? session =
    if session ∈ (s.removedIds id).map key then none
    else s.sessionActivity.get? session
  toasts : next.toasts =
    s.toasts.filter fun toast => some toast.sessionId ∉ s.removedIds id
  initialized : next.initialized = s.initialized

/-- The deletion disturbs nothing else. -/
structure Undisturbed (s next : AppState) (id : String) : Prop extends
    LosesOnly s next id where
  active : next.active =
    if s.activeWorkspaceId = some id then s.successor id else s.active

/-- What the code chooses is the successor. -/
theorem nextActive_eq_successor
    {s : AppState}
    {workspaces : List (Body Workspace)}
    (listed : s.workspaces = .ok workspaces)
    (named : "" ∉ ids (·.id) s.workspaces)
    (id : String) :
    nextActive (s.otherWorkspaces id) (s.sessions.erase id)
        (s.activeSessionByWorkspace.erase id) =
      s.successor id := by
  have others : s.otherWorkspaces id =
      workspaces.filter (·.field (·.id) ≠ some id) := by
    rw [otherWorkspaces, listed]
  cases left : s.otherWorkspaces id with
  | nil => simp [nextActive, successor, left, firstId, truthy]
  | cons first rest =>
      have member : first ∈ workspaces.filter (·.field (·.id) ≠ some id) := by
        rw [← others, left]
        exact List.mem_cons_self
      obtain ⟨present, different⟩ := List.mem_filter.mp member
      cases first with
      | error message => simp [nextActive, successor, left, firstId, truthy]
      | ok workspace =>
          have other : id ≠ workspace.id := by
            rintro rfl
            simp at different
          have nonempty : workspace.id ≠ "" := by
            intro empty
            apply named
            rw [listed, ← empty]
            exact mem_ids_ok.mpr ⟨_, present, rfl⟩
          simp [nextActive, successor, left, firstId, truthy, nonempty, key,
            Table.get?_erase_of_ne _ other, remembered]

/-- The toasts are filtered, whether or not the array is kept. -/
theorem toastsWithout_eq_filter (s : AppState) (removed : String → Bool) :
    s.toastsWithout removed =
      s.toasts.filter fun toast => !removed toast.sessionId := by
  unfold toastsWithout
  split
  · rfl
  · next none =>
      symm
      apply List.filter_eq_self.mpr
      intro toast member
      simp only [List.any_eq_true, not_exists, not_and] at none
      simpa using none toast member

end AppState

/-- How a deletion resolves. -/
theorem finishDeleteWorkspace_returns
    {app next : App}
    {id : String}
    (resolved : app.finishDeleteWorkspace id = .returns next) :
    ∃ workspaces, app.state.workspaces = .ok workspaces ∧
      app.state.LosesOnly next.state id ∧
      next.state.active =
        AppState.nextActive (app.state.otherWorkspaces id)
          (app.state.sessions.erase id)
          (app.state.activeSessionByWorkspace.erase id) := by
  unfold App.finishDeleteWorkspace at resolved
  simp only at resolved
  split at resolved
  · next workspaces removed listed held =>
      have others : app.state.otherWorkspaces id =
          workspaces.filter (·.field (·.id) ≠ some id) := by
        rw [AppState.otherWorkspaces, listed]
      have gone : app.state.removedIds id = removed.map (·.field (·.id)) := by
        rw [AppState.removedIds, held]
      cases resolved
      refine ⟨workspaces, listed, ?_, ?_⟩
      · constructor
        · exact congrArg Body.ok others.symm
        · intro wid
          rw [Table.get?_erase]
          simp only [eq_comm]
        · intro wid
          rw [Table.get?_erase]
          simp only [eq_comm]
        · intro session
          rw [AppState.get?_foldl_erase, gone]
        · rw [gone]
          simp only [AppState.toastsWithout_eq_filter, decide_not]
        · rfl
      · rw [others]
        rfl
  · cases resolved

/-- A deletion disturbs nothing else exactly if it is one of the active
workspace, or the workspace that is left as the first one is active already with
the session that would be chosen for it. -/
theorem deleteWorkspace_undisturbed_iff
    {app next : App}
    {id : String}
    {replies : List Reply}
    (named : "" ∉ ids (·.id) app.state.workspaces)
    (resolved : app.resume (.deleteWorkspace id) replies =
      some (.returns next)) :
    app.state.Undisturbed next.state id ↔
      (app.state.activeWorkspaceId ≠ some id →
        app.state.active = app.state.successor id) := by
  obtain ⟨_, _, ends⟩ := App.resume_continues resolved
  obtain ⟨workspaces, listed, loses, chosen⟩ :=
    finishDeleteWorkspace_returns ends.symm
  rw [AppState.nextActive_eq_successor listed named] at chosen
  constructor
  · intro undisturbed inactive
    have kept := undisturbed.active
    rw [if_neg inactive, chosen] at kept
    exact kept.symm
  · intro settled
    refine ⟨loses, ?_⟩
    rw [chosen]
    split
    · rfl
    · next inactive => exact (settled inactive).symm

/-- Three workspaces, of which the second one is active. -/
def threeRun : List BrowserAction :=
  [.call 0 .init,
    .reply 0 [.workspaceList (writeJSON 200
      ⟨[workspaceRow "v", workspaceRow "w", workspaceRow "x"], by decide⟩)],
    .reply 0 [.sessionList (writeJSON 200 [sessionRow "a" "v"]),
      .sessionList (writeJSON 200 [sessionRow "b" "w"]),
      .sessionList (writeJSON 200 [sessionRow "c" "x"])],
    .call 1 (.setActiveWorkspace "w")]

/-- The store with three workspaces, the second of them being active. -/
def threeTabs : App :=
  ((run Browser.step Browser.initial threeRun).get (by decide)).app

/-- The tabs after one of the three workspaces has been deleted. -/
def twoTabs (id : String) : App :=
  match threeTabs.resume (.deleteWorkspace id) [.done (writeJSON 200 ())] with
  | some (.returns next) => next
  | _ => threeTabs

/-- The active workspace is deleted. -/
theorem deleteWorkspace_undisturbed_threeTabs :
    threeTabs.state.Undisturbed (twoTabs "w").state "w" := by
  have resolved : threeTabs.resume (.deleteWorkspace "w")
      [.done (writeJSON 200 ())] = some (.returns (twoTabs "w")) := rfl
  apply (deleteWorkspace_undisturbed_iff (by decide) resolved).mpr
  intro inactive
  exact absurd (by decide) inactive

/-- Another workspace is deleted, and the first one becomes active. -/
theorem not_undisturbed_threeTabs :
    threeTabs.state.Coherent ∧
      "x" ∈ ids Workspace.id threeTabs.state.workspaces ∧
      threeTabs.resume (.deleteWorkspace "x") [.done (writeJSON 200 ())] =
        some (.returns (twoTabs "x")) ∧
      ¬threeTabs.state.Undisturbed (twoTabs "x").state "x" := by
  have sound :
      ((run Browser.step Browser.initial threeRun).get (by decide)).Sound :=
    Browser.Sound.run (by decide) (by decide) (Option.some_get _).symm
  refine ⟨sound.state.toCoherent, by decide, rfl, ?_⟩
  intro undisturbed
  have kept := undisturbed.active
  revert kept
  decide

end Client
end LociTerm
