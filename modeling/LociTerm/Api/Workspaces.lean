import LociTerm.Api.Sessions
import LociTerm.Store.TreeRefinement

/-!
# The REST handlers of workspaces

The handlers of the other calls on workspaces, and the server's answer to every
call of the client.
-/

namespace LociTerm
namespace Api

open Store Client

/-- A workspace as JSON. -/
def workspaceJSON (row : Store.Workspace) : Client.Workspace :=
  { id := row.id
    name := row.name
    sortOrder := row.sortOrder
    createdAt := toString row.createdAt
    updatedAt := toString row.updatedAt }

/-- `WorkspaceHandler.List`; the ids are a primary key. -/
def listWorkspaces (db : Database) : Response WorkspaceList :=
  if nodup : ((db.listWorkspaces.map workspaceJSON).map (·.id)).Nodup then
    writeJSON 200 ⟨db.listWorkspaces.map workspaceJSON, nodup⟩
  else writeError 500 ""

/-- `WorkspaceHandler.Create`, with the id that the store draws.  The text of a
later error is that of the database driver. -/
def createWorkspace
    (db : Database)
    (name fresh : String)
    (now : Nat) : Database × Response Client.Workspace :=
  if name = "" then (db, writeError 400 "name is required")
  else
    match db.createWorkspace fresh name now with
    | none => (db, writeError 500 "UNIQUE constraint failed: workspaces.id")
    | some next =>
        (next, match next.getWorkspace fresh with
          | some row => writeJSON 201 (workspaceJSON row)
          | none => writeError 500 "")

/-- `WorkspaceHandler.Update` -/
def updateWorkspace
    (db : Database)
    (id name : String)
    (now : Nat) : Database × Response Client.Workspace :=
  if name = "" then (db, writeError 400 "name is required")
  else
    match db.updateWorkspace id name now with
    | (next, none) => (next, writeError 404 "workspace not found")
    | (next, some row) => (next, writeJSON 200 (workspaceJSON row))

/-- What a call brings along: the id that the store draws if it needs one, the
time, and the directories that tmux knows. -/
structure Supply where
  fresh : String
  now : Nat
  getCwd : String → String

/-- The database and the reply after a call. -/
def answer (db : Database) (supply : Supply) : Call → Database × Reply
  | .listWorkspaces => (db, .workspaceList (listWorkspaces db))
  | .createWorkspace name =>
      let (next, response) := createWorkspace db name supply.fresh supply.now
      (next, .workspace response)
  | .updateWorkspace id name =>
      let (next, response) := updateWorkspace db id name supply.now
      (next, .workspace response)
  | .deleteWorkspace id =>
      let (next, response) := deleteWorkspace db id
      (next, .done response)
  | .listSessions wid => (db, .sessionList (list db wid supply.getCwd))
  | .createSession wid title =>
      let (next, response) := create db wid title supply.fresh supply.now
      (next, .session response)
  | .updateSession id title =>
      let (next, response) := update db id title supply.now
      (next, .session response)
  | .deleteSession id =>
      let (next, response) := delete db id
      (next, .done response)

/-- The calls on sessions are served as before. -/
theorem serve_eq_answer
    {db : Database}
    {supply : Supply}
    {call : Call}
    {served : Database × Reply}
    (onSessions : serve db supply.fresh supply.now supply.getCwd call =
      some served) :
    answer db supply call = served := by
  cases call <;> cases onSessions <;> rfl

/-! ## The store call behind a call -/

variable {db : Database} {supply : Supply}

/-- The store call that a handler makes. -/
def storeCall (supply : Supply) : Call → StoreCall
  | .listWorkspaces => .listWorkspaces
  | .createWorkspace name => .createWorkspace supply.fresh name supply.now
  | .updateWorkspace id name => .updateWorkspace id name supply.now
  | .deleteWorkspace id => .deleteWorkspace id
  | .listSessions wid => .listSessions wid
  | .createSession wid title =>
      .createSession supply.fresh wid title supply.now
  | .updateSession id title => .updateSession id title supply.now
  | .deleteSession id => .deleteSession id

/-- A handler changes the database by its store call, or refuses the request. -/
theorem answer_database (call : Call) :
    (answer db supply call).1 = db ∨
      (answer db supply call).1 = (db.serve (storeCall supply call)).1 := by
  cases call with
  | listWorkspaces | listSessions wid => exact .inl rfl
  | createWorkspace name =>
      simp only [answer, createWorkspace, storeCall, Database.serve]
      split
      · exact .inl rfl
      · cases db.createWorkspace supply.fresh name supply.now with
        | none => exact .inl rfl
        | some next => exact .inr rfl
  | updateWorkspace id name =>
      simp only [answer, updateWorkspace, storeCall, Database.serve]
      split
      · exact .inl rfl
      · rcases db.updateWorkspace id name supply.now with ⟨next, found⟩
        cases found <;> exact .inr rfl
  | createSession wid title =>
      simp only [answer, create, storeCall, Database.serve]
      cases db.createSession supply.fresh wid title supply.now with
      | none => exact .inl rfl
      | some next => exact .inr rfl
  | updateSession id title =>
      simp only [answer, update, storeCall, Database.serve]
      rcases db.updateSession id title supply.now with ⟨next, found⟩
      cases found <;> exact .inr rfl
  | deleteWorkspace id | deleteSession id => exact .inr rfl

/-- A call leaves the ids unused that it does not draw. -/
theorem unused_answer
    {id : String}
    (unused : db.Unused id)
    (other : supply.fresh ≠ id)
    (call : Call) :
    (answer db supply call).1.Unused id := by
  have drawn : (storeCall supply call).drawn ≠ some id := by
    cases call <;> simp [storeCall, StoreCall.drawn, other]
  rcases answer_database call with same | served
  · rw [same]
    exact unused
  · rw [served]
    exact Database.unused_serve unused drawn

/-! ## Creates -/

/-- A create of a workspace with a name appends a row. -/
theorem answer_createWorkspace
    {name : String}
    (named : name ≠ "")
    (unused : db.Unused supply.fresh) :
    ∃ row : Store.Workspace, row.id = supply.fresh ∧
      answer db supply (.createWorkspace name) =
        ({ db with workspaces := db.workspaces ++ [row] },
          .workspace (writeJSON 201 (workspaceJSON row))) := by
  have absent : ¬db.workspaces.any (·.id == supply.fresh) = true := by
    simpa using unused.1
  let row : Store.Workspace :=
    { id := supply.fresh
      name := name
      sortOrder := Database.maxOrder (db.workspaces.map (·.sortOrder)) + 1
      createdAt := supply.now
      updatedAt := supply.now }
  have found : (db.workspaces ++ [row]).find? (·.id = supply.fresh) =
      some row := by
    rw [List.find?_append, List.find?_eq_none.mpr (by simpa using unused.1)]
    simp [row]
  refine ⟨row, rfl, ?_⟩
  simp only [answer, createWorkspace, if_neg named, Database.createWorkspace,
    if_neg absent, Database.getWorkspace]
  rw [found]

/-- A create of a session in a workspace that exists appends a row. -/
theorem answer_createSession
    {wid : String}
    (title : String)
    (present : ∃ row ∈ db.workspaces, row.id = wid)
    (unused : db.Unused supply.fresh) :
    ∃ row : Store.Session, row.id = supply.fresh ∧ row.workspaceID = wid ∧
      answer db supply (.createSession wid title) =
        ({ db with sessions := db.sessions ++ [row] },
          .session (writeJSON 201 (sessionJSON "" row))) := by
  have works : ¬(db.sessions.any (·.id == supply.fresh) ||
      !db.workspaces.any (·.id == wid)) = true := by
    simpa using ⟨unused.2, present⟩
  let row : Store.Session :=
    { id := supply.fresh
      workspaceID := wid
      title := if title = "" then "Terminal" else title
      shell := ""
      sortOrder := Database.maxOrder
        ((db.sessions.filter (·.workspaceID = wid)).map (·.sortOrder)) + 1
      createdAt := supply.now
      updatedAt := supply.now }
  have found : (db.sessions ++ [row]).find? (·.id = supply.fresh) =
      some row := by
    rw [List.find?_append, List.find?_eq_none.mpr (by simpa using unused.2)]
    simp [row]
  refine ⟨row, rfl, rfl, ?_⟩
  simp only [answer, create, Database.createSession, if_neg works,
    Database.getSession]
  rw [found]

end Api
end LociTerm
