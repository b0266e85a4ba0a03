import LociTerm.Client.Api
import LociTerm.Store.Sqlite

/-!
# The REST handlers of sessions

The handlers of the calls on sessions, and of the call that deletes a
workspace, on the database.  Each is served as one step.
-/

namespace LociTerm
namespace Api

open Store Client

/-- A text field with `omitempty`. -/
def omitEmpty (text : String) : Option String :=
  if text = "" then none else some text

/-- A session as JSON, with the `cwd` that the handler has filled in. -/
def sessionJSON (cwd : String) (row : Store.Session) : Client.Session :=
  { id := row.id
    workspaceId := row.workspaceID
    title := row.title
    shell := omitEmpty row.shell
    cwd := omitEmpty cwd
    sortOrder := row.sortOrder
    createdAt := toString row.createdAt
    updatedAt := toString row.updatedAt }

/-- `SessionHandler.List` -/
def list
    (db : Database)
    (wid : String)
    (getCwd : String → String) : Response (List Client.Session) :=
  writeJSON 200
    ((db.listSessions wid).map fun row => sessionJSON (getCwd row.id) row)

/-- `SessionHandler.Create`, with the id that the store draws.  The text of an
error is that of the database driver. -/
def create
    (db : Database)
    (wid title fresh : String)
    (now : Nat) : Database × Response Client.Session :=
  match db.createSession fresh wid title now with
  | none => (db, writeError 500 "FOREIGN KEY constraint failed")
  | some next =>
      (next, match next.getSession fresh with
        | some session => writeJSON 201 (sessionJSON "" session)
        | none => writeError 500 "")

/-- `SessionHandler.Update` -/
def update
    (db : Database)
    (id title : String)
    (now : Nat) : Database × Response Client.Session :=
  match db.updateSession id title now with
  | (next, none) => (next, writeError 404 "session not found")
  | (next, some session) => (next, writeJSON 200 (sessionJSON "" session))

/-- `SessionHandler.Delete` -/
def delete (db : Database) (id : String) : Database × Response Unit :=
  (db.deleteSession id, writeJSON 200 ())

/-- `WorkspaceHandler.Delete` -/
def deleteWorkspace (db : Database) (id : String) : Database × Response Unit :=
  (db.deleteWorkspace id, writeJSON 200 ())

/-- The database and the reply after a call.  The store may draw an id, reads
the clock, and the list asks tmux for the directories. -/
def serve
    (db : Database)
    (fresh : String)
    (now : Nat)
    (getCwd : String → String) : Call → Option (Database × Reply)
  | .listSessions wid => some (db, .sessionList (list db wid getCwd))
  | .createSession wid title =>
      let (next, response) := create db wid title fresh now
      some (next, .session response)
  | .updateSession id title =>
      let (next, response) := update db id title now
      some (next, .session response)
  | .deleteSession id =>
      let (next, response) := delete db id
      some (next, .done response)
  | .deleteWorkspace id =>
      let (next, response) := deleteWorkspace db id
      some (next, .done response)
  | .listWorkspaces | .createWorkspace _ | .updateWorkspace _ _ => none

/-! ## What a call can do -/

/-- Every row stays in its workspace; a new one has the fresh id and stands in
a workspace that exists. -/
structure Advances (db next : Database) (fresh : String) : Prop where
  rows : ∃ wid, ∀ row ∈ next.sessions,
    (∃ old ∈ db.sessions, old.id = row.id ∧
      old.workspaceID = row.workspaceID) ∨
    (row.id = fresh ∧ row.workspaceID = wid ∧
      ∃ workspace ∈ db.workspaces, workspace.id = wid)
  workspaces : ∀ workspace ∈ next.workspaces, workspace ∈ db.workspaces

/-- Rows are only changed or taken away. -/
theorem Advances.of_mem
    {db next : Database}
    {fresh : String}
    (rows : ∀ row ∈ next.sessions, ∃ old ∈ db.sessions,
      old.id = row.id ∧ old.workspaceID = row.workspaceID)
    (workspaces : ∀ workspace ∈ next.workspaces, workspace ∈ db.workspaces) :
    Advances db next fresh :=
  ⟨⟨"", fun row member => .inl (rows row member)⟩, workspaces⟩

theorem create_cases
    (db : Database)
    (wid title fresh : String)
    (now : Nat) :
    ((create db wid title fresh now).1 = db ∧
        ∃ status message, (create db wid title fresh now).2 =
          writeError status message) ∨
      ∃ session, (create db wid title fresh now).2 = writeJSON 201 session ∧
        session.id = fresh ∧ session.workspaceId = wid ∧
        (create db wid title fresh now).1.HasTitle wid fresh session.title ∧
        Advances db (create db wid title fresh now).1 fresh := by
  unfold create
  cases created : db.createSession fresh wid title now with
  | none => exact .inl ⟨rfl, 500, _, rfl⟩
  | some next =>
      obtain ⟨place, workspaces, absent, row, here, there, sessions⟩ :=
        Database.createSession_eq_some created
      have new : row ∈ next.sessions := by simp [sessions]
      have found : next.getSession fresh = some row := by
        cases found : next.getSession fresh with
        | none => exact absurd here (Database.getSession_eq_none found row new)
        | some session =>
            obtain ⟨member, same⟩ := Database.getSession_eq_some found
            rw [sessions] at member
            rcases List.mem_append.mp member with old | last
            · exact absurd same (absent session old)
            · rw [List.mem_singleton.mp last]
      refine .inr ⟨sessionJSON "" row, by simp [found], here, there,
        ⟨row, new, there, here, rfl⟩, ⟨wid, fun other member => ?_⟩, ?_⟩
      · rw [sessions] at member
        rcases List.mem_append.mp member with old | last
        · exact .inl ⟨other, old, rfl, rfl⟩
        · rw [List.mem_singleton.mp last]
          exact .inr ⟨here, there, place⟩
      · rw [workspaces]
        exact fun _ member => member

theorem update_cases
    (db : Database)
    (id title fresh : String)
    (now : Nat) :
    Advances db (update db id title now).1 fresh ∧
      ((∃ status message, (update db id title now).2 =
            writeError status message) ∧
          (∀ row ∈ (update db id title now).1.sessions, row.id ≠ id) ∨
        ∃ session, (update db id title now).2 = writeJSON 200 session ∧
          session.id = id ∧
          (update db id title now).1.HasTitle session.workspaceId id
            session.title) := by
  have advances : Advances db (db.updateSession id title now).1 fresh :=
    .of_mem (fun _ member => Database.mem_updateSession member)
      fun _ member => member
  unfold update
  cases updated : db.updateSession id title now with
  | mk next found =>
      rw [updated] at advances
      have read : next.getSession id = found := by
        cases updated
        rfl
      cases found with
      | none =>
          exact ⟨advances, .inl ⟨⟨404, _, rfl⟩,
            Database.getSession_eq_none read⟩⟩
      | some row =>
          obtain ⟨member, same⟩ := Database.getSession_eq_some read
          exact ⟨advances, .inr ⟨sessionJSON "" row, rfl, same, row, member, rfl,
            same, rfl⟩⟩

theorem Advances.list (db : Database) (fresh : String) :
    Advances db db fresh :=
  .of_mem (fun row member => ⟨row, member, rfl, rfl⟩) fun _ member => member

theorem Advances.create
    (db : Database)
    (wid title fresh : String)
    (now : Nat) :
    Advances db (create db wid title fresh now).1 fresh := by
  rcases create_cases db wid title fresh now with
    ⟨same, _⟩ | ⟨_, _, _, _, _, advances⟩
  · rw [same]
    exact .list db fresh
  · exact advances

theorem Advances.delete (db : Database) (id fresh : String) :
    Advances db (delete db id).1 fresh := by
  refine .of_mem (fun row member => ?_) fun _ member => member
  exact ⟨row, (List.mem_filter.mp member).1, rfl, rfl⟩

theorem Advances.deleteWorkspace (db : Database) (id fresh : String) :
    Advances db (deleteWorkspace db id).1 fresh := by
  refine .of_mem (fun row member => ?_) fun workspace member => ?_
  · exact ⟨row, (List.mem_filter.mp member).1, rfl, rfl⟩
  · exact (List.mem_filter.mp member).1

theorem serve_advances
    {db next : Database}
    {fresh : String}
    {now : Nat}
    {getCwd : String → String}
    {call : Call}
    {reply : Reply}
    (served : serve db fresh now getCwd call = some (next, reply)) :
    Advances db next fresh := by
  cases call with
  | listSessions wid =>
      cases served
      exact .list db fresh
  | createSession wid title =>
      cases served
      exact .create db wid title fresh now
  | updateSession id title =>
      cases served
      exact (update_cases db id title fresh now).1
  | deleteSession id =>
      cases served
      exact .delete db id fresh
  | deleteWorkspace id =>
      cases served
      exact .deleteWorkspace db id fresh
  | listWorkspaces | createWorkspace name | updateWorkspace id name =>
      cases served

end Api
end LociTerm
