import Mathlib.Data.List.Sort

/-!
# The SQLite store

The `workspaces`, `sessions` and `auth_config` tables, in insertion order, and
the store calls on them.  Deleting a workspace cascades to its sessions.
Times are natural numbers, and a fresh id is an argument of the call that
draws it.
-/

namespace LociTerm
namespace Store

/-- A row of `workspaces`. -/
structure Workspace where
  id : String
  name : String
  sortOrder : Int
  createdAt : Nat
  updatedAt : Nat
  deriving DecidableEq

/-- A row of `sessions`. -/
structure Session where
  id : String
  workspaceID : String
  title : String
  shell : String
  sortOrder : Int
  createdAt : Nat
  updatedAt : Nat
  deriving DecidableEq

/-- The database behind a `SQLiteStore`. -/
structure Database where
  workspaces : List Workspace
  sessions : List Session
  /-- The single row of `auth_config`. -/
  passwordHash : Option String
  deriving DecidableEq

namespace Database

/-- The database that the schema creates. -/
def empty : Database := ⟨[], [], none⟩

/-- `COALESCE(MAX(sort_order), -1)` -/
def maxOrder (orders : List Int) : Int :=
  orders.max?.getD (-1)

/-- The `ORDER BY` of the session list. -/
def SortedBefore (left right : Session) : Prop :=
  left.sortOrder < right.sortOrder ∨
    left.sortOrder = right.sortOrder ∧ left.createdAt ≤ right.createdAt

instance : DecidableRel SortedBefore :=
  fun _ _ => inferInstanceAs (Decidable (_ ∨ _))

/-- `CreateWorkspace` -/
def createWorkspace
    (db : Database)
    (id name : String)
    (now : Nat) : Option Database :=
  if db.workspaces.any (·.id == id) then none
  else
    some
      { db with
        workspaces := db.workspaces ++
          [{ id := id
             name := name
             sortOrder := maxOrder (db.workspaces.map (·.sortOrder)) + 1
             createdAt := now
             updatedAt := now }] }

/-- The `ORDER BY` of the workspace list. -/
def WorkspaceSortedBefore (left right : Workspace) : Prop :=
  left.sortOrder < right.sortOrder ∨
    left.sortOrder = right.sortOrder ∧ left.createdAt ≤ right.createdAt

instance : DecidableRel WorkspaceSortedBefore :=
  fun _ _ => inferInstanceAs (Decidable (_ ∨ _))

/-- `ListWorkspaces` -/
def listWorkspaces (db : Database) : List Workspace :=
  db.workspaces.insertionSort WorkspaceSortedBefore

/-- `GetWorkspace` -/
def getWorkspace (db : Database) (id : String) : Option Workspace :=
  db.workspaces.find? (·.id = id)

/-- `UpdateWorkspace`; a missing row gives no workspace. -/
def updateWorkspace
    (db : Database)
    (id name : String)
    (now : Nat) : Database × Option Workspace :=
  let next :=
    { db with
      workspaces := db.workspaces.map fun row =>
        if row.id = id then { row with name := name, updatedAt := now }
        else row }
  (next, next.getWorkspace id)

/-- `DeleteWorkspace`; the foreign key of `sessions` cascades. -/
def deleteWorkspace (db : Database) (id : String) : Database :=
  { db with
    workspaces := db.workspaces.filter (·.id ≠ id)
    sessions := db.sessions.filter (·.workspaceID ≠ id) }

/-- `ListSessions` -/
def listSessions (db : Database) (workspaceID : String) : List Session :=
  (db.sessions.filter (·.workspaceID = workspaceID)).insertionSort
    SortedBefore

/-- `CreateSession`; the foreign key demands that the workspace exists. -/
def createSession
    (db : Database)
    (id workspaceID title : String)
    (now : Nat) : Option Database :=
  if db.sessions.any (·.id == id) ||
      !db.workspaces.any (·.id == workspaceID) then
    none
  else
    let siblings := db.sessions.filter (·.workspaceID = workspaceID)
    some
      { db with
        sessions := db.sessions ++
          [{ id := id
             workspaceID := workspaceID
             title := if title = "" then "Terminal" else title
             shell := ""
             sortOrder := maxOrder (siblings.map (·.sortOrder)) + 1
             createdAt := now
             updatedAt := now }] }

/-- `DeleteSession`; a missing row is no error. -/
def deleteSession (db : Database) (id : String) : Database :=
  { db with sessions := db.sessions.filter (·.id ≠ id) }

/-- `GetSession` -/
def getSession (db : Database) (id : String) : Option Session :=
  db.sessions.find? (·.id = id)

/-- `UpdateSession`; a missing row gives no session. -/
def updateSession
    (db : Database)
    (id title : String)
    (now : Nat) : Database × Option Session :=
  let next :=
    { db with
      sessions := db.sessions.map fun row =>
        if row.id = id then { row with title := title, updatedAt := now }
        else row }
  (next, next.getSession id)

/-- `HasPassword` -/
def hasPassword (db : Database) : Bool := db.passwordHash.isSome

/-- `GetPasswordHash`; no row gives the empty string. -/
def getPasswordHash (db : Database) : String := db.passwordHash.getD ""

/-- `SetPasswordHash` inserts the row or replaces its hash. -/
def setPasswordHash (db : Database) (hash : String) : Database :=
  { db with passwordHash := some hash }

/-- The `sessions` table has a row with this id. -/
def HasSession (db : Database) (id : String) : Prop :=
  ∃ row ∈ db.sessions, row.id = id

instance (db : Database) (id : String) : Decidable (db.HasSession id) :=
  inferInstanceAs (Decidable (∃ row ∈ db.sessions, _))

/-- A session of the workspace has this id and this title. -/
def HasTitle (db : Database) (workspaceID id title : String) : Prop :=
  ∃ row ∈ db.sessions, row.workspaceID = workspaceID ∧ row.id = id ∧
    row.title = title

/-- No session of the workspace has this id. -/
def Lacks (db : Database) (workspaceID id : String) : Prop :=
  ∀ row ∈ db.sessions, row.workspaceID = workspaceID → row.id ≠ id

instance (db : Database) (workspaceID id title : String) :
    Decidable (db.HasTitle workspaceID id title) :=
  inferInstanceAs (Decidable (∃ row ∈ db.sessions, _))

instance (db : Database) (workspaceID id : String) :
    Decidable (db.Lacks workspaceID id) :=
  inferInstanceAs (Decidable (∀ row ∈ db.sessions, _))

/-! ## The statements of a create -/

/-- `INSERT INTO workspaces`; the id is a primary key. -/
def insertWorkspace (db : Database) (row : Workspace) : Option Database :=
  if db.workspaces.any (·.id == row.id) then none
  else some { db with workspaces := db.workspaces ++ [row] }

/-- `INSERT INTO sessions`; the id is a primary key, and the workspace must
exist. -/
def insertSession (db : Database) (row : Session) : Option Database :=
  if db.sessions.any (·.id == row.id) ||
      !db.workspaces.any (·.id == row.workspaceID) then
    none
  else some { db with sessions := db.sessions ++ [row] }

/-- `CreateWorkspace` inserts a row with the order after the greatest one. -/
theorem createWorkspace_eq_insert
    (db : Database)
    (id name : String)
    (now : Nat) :
    db.createWorkspace id name now =
      db.insertWorkspace
        { id := id
          name := name
          sortOrder := maxOrder (db.workspaces.map (·.sortOrder)) + 1
          createdAt := now
          updatedAt := now } := rfl

/-- `CreateSession` inserts a row with the order after the greatest one of the
workspace. -/
theorem createSession_eq_insert
    (db : Database)
    (id workspaceID title : String)
    (now : Nat) :
    db.createSession id workspaceID title now =
      db.insertSession
        { id := id
          workspaceID := workspaceID
          title := if title = "" then "Terminal" else title
          shell := ""
          sortOrder := maxOrder
            ((db.sessions.filter (·.workspaceID = workspaceID)).map
              (·.sortOrder)) + 1
          createdAt := now
          updatedAt := now } := rfl

/-! ## Sort orders -/

/-- The next sort order is above all those that are present. -/
theorem lt_maxOrder_add_one
    {orders : List Int}
    {order : Int}
    (member : order ∈ orders) :
    order < maxOrder orders + 1 := by
  unfold maxOrder
  cases greatest : orders.max? with
  | none =>
      rw [List.max?_eq_none_iff] at greatest
      simp [greatest] at member
  | some top =>
      have bound := (List.max?_le_iff greatest (x := top)).mp le_rfl order member
      rw [Option.getD_some]
      omega

/-! ## Keys -/

/-- The ids are primary keys, and every session refers to a workspace. -/
structure Keyed (db : Database) : Prop where
  workspaceIds : (db.workspaces.map (·.id)).Nodup
  sessionIds : (db.sessions.map (·.id)).Nodup
  references : ∀ row ∈ db.sessions, ∃ workspace ∈ db.workspaces,
    workspace.id = row.workspaceID

section Keyed

variable {db : Database}

theorem Keyed.createWorkspace
    {row : Workspace}
    (keyed : db.Keyed)
    (absent : ∀ old ∈ db.workspaces, old.id ≠ row.id) :
    Keyed { db with workspaces := db.workspaces ++ [row] } := by
  constructor
  · rw [List.map_append, List.nodup_append']
    refine ⟨keyed.workspaceIds, List.nodup_singleton _, ?_⟩
    rw [List.map_singleton, List.disjoint_singleton]
    intro member
    obtain ⟨old, listed, same⟩ := List.mem_map.mp member
    exact absent old listed same
  · exact keyed.sessionIds
  · intro session member
    obtain ⟨workspace, listed, same⟩ := keyed.references session member
    exact ⟨workspace, List.mem_append_left _ listed, same⟩

theorem Keyed.createSession
    {row : Session}
    (keyed : db.Keyed)
    (absent : ∀ old ∈ db.sessions, old.id ≠ row.id)
    (present : ∃ workspace ∈ db.workspaces, workspace.id = row.workspaceID) :
    Keyed { db with sessions := db.sessions ++ [row] } := by
  constructor
  · exact keyed.workspaceIds
  · rw [List.map_append, List.nodup_append']
    refine ⟨keyed.sessionIds, List.nodup_singleton _, ?_⟩
    rw [List.map_singleton, List.disjoint_singleton]
    intro member
    obtain ⟨old, listed, same⟩ := List.mem_map.mp member
    exact absent old listed same
  · intro session member
    rcases List.mem_append.mp member with before | last
    · exact keyed.references session before
    · rw [List.mem_singleton.mp last]
      exact present

theorem Keyed.updateWorkspace
    (keyed : db.Keyed)
    (id name : String)
    (now : Nat) :
    (db.updateWorkspace id name now).1.Keyed := by
  have kept (row : Workspace) :
      (if row.id = id then { row with name := name, updatedAt := now }
        else row).id = row.id := by
    split <;> rfl
  constructor
  · simpa [Database.updateWorkspace, Function.comp_def, kept] using
      keyed.workspaceIds
  · exact keyed.sessionIds
  · intro session member
    obtain ⟨workspace, listed, same⟩ := keyed.references session member
    exact ⟨_, List.mem_map_of_mem listed, (kept workspace).trans same⟩

theorem Keyed.updateSession
    (keyed : db.Keyed)
    (id title : String)
    (now : Nat) :
    (db.updateSession id title now).1.Keyed := by
  have kept (row : Session) :
      (if row.id = id then { row with title := title, updatedAt := now }
        else row).id = row.id := by
    split <;> rfl
  constructor
  · exact keyed.workspaceIds
  · simpa [Database.updateSession, Function.comp_def, kept] using
      keyed.sessionIds
  · intro session member
    obtain ⟨old, listed, rfl⟩ := List.mem_map.mp member
    obtain ⟨workspace, there, same⟩ := keyed.references old listed
    refine ⟨workspace, there, same.trans ?_⟩
    split <;> rfl

theorem Keyed.deleteWorkspace (keyed : db.Keyed) (id : String) :
    (db.deleteWorkspace id).Keyed := by
  constructor
  · exact keyed.workspaceIds.sublist (List.filter_sublist.map _)
  · exact keyed.sessionIds.sublist (List.filter_sublist.map _)
  · intro session member
    obtain ⟨before, other⟩ := List.mem_filter.mp member
    obtain ⟨workspace, listed, same⟩ := keyed.references session before
    refine ⟨workspace, List.mem_filter.mpr ⟨listed, ?_⟩, same⟩
    simpa [same] using other

theorem Keyed.deleteSession (keyed : db.Keyed) (id : String) :
    (db.deleteSession id).Keyed := by
  constructor
  · exact keyed.workspaceIds
  · exact keyed.sessionIds.sublist (List.filter_sublist.map _)
  · intro session member
    exact keyed.references session (List.mem_filter.mp member).1

end Keyed

/-! ## Which sessions exist -/

theorem mem_listSessions
    (db : Database)
    (workspaceID : String)
    (row : Session) :
    row ∈ db.listSessions workspaceID ↔
      row ∈ db.sessions ∧ row.workspaceID = workspaceID := by
  simp [listSessions]

theorem hasSession_deleteSession (db : Database) (id other : String) :
    (db.deleteSession id).HasSession other ↔
      other ≠ id ∧ db.HasSession other := by
  simp only [HasSession, deleteSession, List.mem_filter, decide_eq_true_eq]
  constructor
  · rintro ⟨row, ⟨member, different⟩, rfl⟩
    exact ⟨different, row, member, rfl⟩
  · rintro ⟨different, row, member, rfl⟩
    exact ⟨row, ⟨member, different⟩, rfl⟩

theorem hasSession_deleteWorkspace
    (db : Database)
    (workspaceID id : String) :
    (db.deleteWorkspace workspaceID).HasSession id ↔
      ∃ row ∈ db.sessions, row.workspaceID ≠ workspaceID ∧ row.id = id := by
  simp [HasSession, deleteWorkspace, and_assoc]

theorem sessions_createWorkspace
    {db next : Database}
    {id name : String}
    {now : Nat}
    (created : db.createWorkspace id name now = some next) :
    next.sessions = db.sessions := by
  unfold createWorkspace at created
  split at created <;> cases created
  rfl

/-- A session that is created has the fresh id and stands in its workspace. -/
theorem createSession_eq_some
    {db next : Database}
    {id workspaceID title : String}
    {now : Nat}
    (created : db.createSession id workspaceID title now = some next) :
    (∃ workspace ∈ db.workspaces, workspace.id = workspaceID) ∧
      next.workspaces = db.workspaces ∧
      (∀ row ∈ db.sessions, row.id ≠ id) ∧
      ∃ row : Session, row.id = id ∧ row.workspaceID = workspaceID ∧
        next.sessions = db.sessions ++ [row] := by
  unfold createSession at created
  split at created
  · cases created
  · next works =>
      cases created
      simp only [Bool.or_eq_true, List.any_eq_true, beq_iff_eq,
        Bool.not_eq_true', not_or, not_exists, not_and,
        Bool.not_eq_false] at works
      exact ⟨works.2, rfl, works.1, _, rfl, rfl, rfl⟩

/-- The row of an id is one of the rows, and there is one if any has the id. -/
theorem getSession_eq_some
    {db : Database}
    {id : String}
    {row : Session}
    (found : db.getSession id = some row) :
    row ∈ db.sessions ∧ row.id = id :=
  ⟨List.mem_of_find?_eq_some found, by simpa using List.find?_some found⟩

theorem getSession_eq_none
    {db : Database}
    {id : String}
    (missing : db.getSession id = none) :
    ∀ row ∈ db.sessions, row.id ≠ id := by
  simpa [getSession] using missing

/-- An update changes neither the id nor the workspace of a row. -/
theorem mem_updateSession
    {db : Database}
    {id title : String}
    {now : Nat}
    {row : Session}
    (member : row ∈ (db.updateSession id title now).1.sessions) :
    ∃ old ∈ db.sessions, old.id = row.id ∧
      old.workspaceID = row.workspaceID := by
  obtain ⟨old, before, rfl⟩ := List.mem_map.mp member
  refine ⟨old, before, ?_⟩
  split <;> exact ⟨rfl, rfl⟩

theorem hasSession_createSession
    {db next : Database}
    {id workspaceID title : String}
    {now : Nat}
    (created : db.createSession id workspaceID title now = some next)
    (other : String) :
    next.HasSession other ↔ other = id ∨ db.HasSession other := by
  unfold createSession at created
  split at created
  · cases created
  · cases created
    simp only [HasSession, List.mem_append, List.mem_singleton]
    constructor
    · rintro ⟨row, member | rfl, rfl⟩
      · exact Or.inr ⟨row, member, rfl⟩
      · exact Or.inl rfl
    · rintro (rfl | ⟨row, member, rfl⟩)
      · exact ⟨_, Or.inr rfl, rfl⟩
      · exact ⟨row, Or.inl member, rfl⟩

end Database
end Store
end LociTerm
