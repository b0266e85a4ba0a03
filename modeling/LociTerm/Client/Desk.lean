import LociTerm.Api.Workspaces
import LociTerm.Client.Coherence

/-!
# A desk

A page that loads and calls one operation after another, each awaited before
the next, on a server that no other client changes.  Beside the state the desk
keeps what was active after each operation.
-/

namespace LociTerm
namespace Client

open Store Api

/-- A page and its server between two operations. -/
structure Desk where
  app : App
  db : Database
  /-- The ids that the store does not draw again. -/
  used : List String
  /-- The active workspace and session after each operation, latest first. -/
  history : List (Option String × Option String)
  deriving DecidableEq

/-- An operation with what its calls bring along, a list for each `await`. -/
structure Turn where
  operation : Operation
  rounds : List (List Supply)

namespace Desk

/-- The page before `init`. -/
def opened (db : Database) : Desk :=
  { app := App.initial
    db := db
    used := "" :: (db.workspaces.map (·.id) ++ db.sessions.map (·.id))
    history := [] }

/-- The server has served a call. -/
def served (desk : Desk) (supply : Supply) (call : Call) : Desk :=
  { desk with
    db := (answer desk.db supply call).1
    used := supply.fresh :: desk.used }

/-- Serve the calls of an `await`. -/
def serveAll (desk : Desk) :
    List Call → List Supply → Option (Desk × List Reply)
  | [], [] => some (desk, [])
  | call :: calls, supply :: supplies =>
      if supply.fresh ∈ desk.used then none
      else
        ((desk.served supply call).serveAll calls supplies).map
          fun (next, replies) =>
            (next, (answer desk.db supply call).2 :: replies)
  | _, _ => none

/-- Await the rest of an operation. -/
def conclude (desk : Desk) : Outcome → List (List Supply) → Option Desk
  | .returns app, [] => some { desk with app := app }
  | .throws app, [] => some { desk with app := app }
  | .awaits flight, supplies :: rounds =>
      match desk.serveAll flight.calls supplies with
      | some (served, replies) =>
          (served.app.resume flight.pending replies).bind fun outcome =>
            served.conclude outcome rounds
      | none => none
  | _, _ => none

/-- The session is listed in the active workspace. -/
def ShowsTab (s : AppState) (id : String) : Prop :=
  ∃ wid ∈ s.activeWorkspaceId, id ∈ sessionIds s.sessions wid

/-- The operations of the page, `init` being the first one. -/
def Permits (desk : Desk) : Operation → Prop
  | .init => desk.history = []
  -- The sidebar does not call it without a name.
  | .createWorkspace name => desk.history ≠ [] ∧ name ≠ ""
  | .deleteWorkspace _ | .pollActive => desk.history ≠ []
  | .setActiveWorkspace id =>
      desk.history ≠ [] ∧ id ∈ ids Workspace.id desk.app.state.workspaces
  | .createSession wid _ =>
      desk.history ≠ [] ∧ desk.app.state.activeWorkspaceId = some wid
  | .deleteSession id | .setActiveSession id =>
      desk.history ≠ [] ∧ ShowsTab desk.app.state id
  | .fetchWorkspaces | .renameWorkspace _ _ | .fetchSessions _
  | .renameSession _ _ => False

instance (s : AppState) (id : String) : Decidable (ShowsTab s id) :=
  inferInstanceAs (Decidable (∃ wid ∈ s.activeWorkspaceId, _))

instance (desk : Desk) : ∀ operation, Decidable (desk.Permits operation)
  | .init => inferInstanceAs (Decidable (desk.history = []))
  | .createWorkspace _ | .setActiveWorkspace _ | .createSession _ _
  | .deleteSession _ | .setActiveSession _ =>
      inferInstanceAs (Decidable (_ ∧ _))
  | .deleteWorkspace _ | .pollActive =>
      inferInstanceAs (Decidable (desk.history ≠ []))
  | .fetchWorkspaces | .renameWorkspace _ _ | .fetchSessions _
  | .renameSession _ _ => isFalse id

/-- Note what is active. -/
def record (desk : Desk) : Desk :=
  { desk with
    history := (desk.app.state.activeWorkspaceId,
      desk.app.state.activeSessionId) :: desk.history }

/-- The step relation: an operation from its call until it has resolved. -/
def step (desk : Desk) (turn : Turn) : Option Desk :=
  if desk.Permits turn.operation then
    (desk.conclude (desk.app.start turn.operation) turn.rounds).map record
  else none

/-- What was active in a workspace when it was the active one last. -/
def lastActive (desk : Desk) (wid : String) : Option (Option String) :=
  (desk.history.find? (·.1 = some wid)).map (·.2)

end Desk

/-! ## What the server lists -/

/-- The sessions that the server lists for a workspace. -/
def tabsOf (db : Database) (wid : String) : List String :=
  (db.listSessions wid).map (·.id)

variable {db next : Database} {wid other id : String}

theorem mem_tabsOf :
    id ∈ tabsOf db wid ↔
      ∃ row ∈ db.sessions, row.workspaceID = wid ∧ row.id = id := by
  simp [tabsOf, Database.mem_listSessions, and_assoc]

/-- The list depends on the rows of the workspace alone. -/
theorem tabsOf_congr
    (same : next.sessions.filter (·.workspaceID = wid) =
      db.sessions.filter (·.workspaceID = wid)) :
    tabsOf next wid = tabsOf db wid := by
  rw [tabsOf, Database.listSessions, same]
  rfl

/-- A session stands in one workspace. -/
theorem tab_unique
    (keyed : db.Keyed)
    (here : id ∈ tabsOf db wid)
    (there : id ∈ tabsOf db other) :
    wid = other := by
  obtain ⟨row, member, rfl, named⟩ := mem_tabsOf.mp here
  obtain ⟨row', member', rfl, same⟩ := mem_tabsOf.mp there
  rw [List.inj_on_of_nodup_map keyed.sessionIds member member'
    (named.trans same.symm)]

/-- A workspace that does not exist has no sessions. -/
theorem tabsOf_eq_nil
    (keyed : db.Keyed)
    (absent : ∀ row ∈ db.workspaces, row.id ≠ wid) :
    tabsOf db wid = [] := by
  apply List.eq_nil_iff_forall_not_mem.mpr
  intro id member
  obtain ⟨row, there, rfl, _⟩ := mem_tabsOf.mp member
  obtain ⟨workspace, listed, same⟩ := keyed.references row there
  exact absent workspace listed same

theorem tabsOf_createSession_of_ne
    {row : Store.Session}
    (different : row.workspaceID ≠ wid) :
    tabsOf { db with sessions := db.sessions ++ [row] } wid =
      tabsOf db wid := by
  apply tabsOf_congr
  simp [List.filter_append, different]

theorem mem_tabsOf_createSession {row : Store.Session} :
    id ∈ tabsOf { db with sessions := db.sessions ++ [row] }
        row.workspaceID ↔
      id ∈ tabsOf db row.workspaceID ∨ row.id = id := by
  simp only [mem_tabsOf, List.mem_append, List.mem_singleton, or_and_right,
    exists_or, exists_eq_left, true_and]

/-- The first session of a workspace. -/
theorem mem_tabsOf_createSession_of_nil
    {row : Store.Session}
    (empty : tabsOf db row.workspaceID = []) :
    id ∈ tabsOf { db with sessions := db.sessions ++ [row] }
        row.workspaceID ↔
      row.id = id := by
  rw [mem_tabsOf_createSession, empty]
  exact or_iff_right List.not_mem_nil

theorem tabsOf_deleteWorkspace_of_ne (different : other ≠ wid) :
    tabsOf (db.deleteWorkspace other) wid = tabsOf db wid := by
  apply tabsOf_congr
  rw [Database.deleteWorkspace, List.filter_filter]
  apply List.filter_congr
  intro row _
  by_cases here : row.workspaceID = wid
  · simp [here, different.symm]
  · simp [here]

theorem tabsOf_deleteSession_of_not_mem (absent : id ∉ tabsOf db wid) :
    tabsOf (db.deleteSession id) wid = tabsOf db wid := by
  apply tabsOf_congr
  rw [Database.deleteSession, List.filter_filter]
  apply List.filter_congr
  intro row member
  by_cases here : row.workspaceID = wid
  · have different : row.id ≠ id := fun same =>
      absent (mem_tabsOf.mpr ⟨row, member, here, same⟩)
    simp [here, different]
  · simp [here]

theorem mem_tabsOf_deleteSession {session : String} :
    session ∈ tabsOf (db.deleteSession id) wid ↔
      session ≠ id ∧ session ∈ tabsOf db wid := by
  simp only [mem_tabsOf, Database.deleteSession, List.mem_filter,
    decide_eq_true_eq]
  constructor
  · rintro ⟨row, ⟨member, kept⟩, here, rfl⟩
    exact ⟨kept, row, member, here, rfl⟩
  · rintro ⟨kept, row, member, here, rfl⟩
    exact ⟨row, ⟨member, kept⟩, here, rfl⟩

end Client
end LociTerm
