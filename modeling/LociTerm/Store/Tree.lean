import LociTerm.Library.Run
import LociTerm.Store.Sqlite

/-!
# The store as an ordered tree

What the store is for, without tables and sort orders: a list of workspaces,
each with a list of sessions, both in the order of their creation.  The tables
hold such a tree, and every call on them answers as the tree does.
-/

namespace LociTerm
namespace Store

/-! ## The tree -/

/-- A session in its workspace. -/
structure SessionNode where
  id : String
  title : String
  shell : String
  createdAt : Nat
  updatedAt : Nat
  deriving DecidableEq

/-- A workspace with its sessions. -/
structure WorkspaceNode where
  id : String
  name : String
  createdAt : Nat
  updatedAt : Nat
  sessions : List SessionNode
  deriving DecidableEq

/-- The workspaces, oldest first. -/
abbrev Tree : Type := List WorkspaceNode

/-- What a caller sees of a workspace, its place in the list apart. -/
structure WorkspaceInfo where
  id : String
  name : String
  createdAt : Nat
  updatedAt : Nat
  deriving DecidableEq

/-- What a caller sees of a session, its place in the list apart. -/
structure SessionInfo where
  id : String
  workspaceID : String
  title : String
  shell : String
  createdAt : Nat
  updatedAt : Nat
  deriving DecidableEq

/-- A call on the store.  A create draws a fresh id, and a call that writes
reads the clock. -/
inductive StoreCall
  | listWorkspaces
  | getWorkspace (id : String)
  | createWorkspace (fresh name : String) (now : Nat)
  | updateWorkspace (id name : String) (now : Nat)
  | deleteWorkspace (id : String)
  | listSessions (workspaceID : String)
  | getSession (id : String)
  | createSession (fresh workspaceID title : String) (now : Nat)
  | updateSession (id title : String) (now : Nat)
  | deleteSession (id : String)
  deriving DecidableEq

/-- What a call returns. -/
inductive StoreAnswer
  | workspaces (rows : List WorkspaceInfo)
  | workspace (row : Option WorkspaceInfo)
  | sessions (rows : List SessionInfo)
  | session (row : Option SessionInfo)
  | done
  | failed
  deriving DecidableEq

/-- The id that a call draws. -/
def StoreCall.drawn : StoreCall → Option String
  | .createWorkspace fresh _ _ | .createSession fresh _ _ _ => some fresh
  | _ => none

/-- A node as a caller sees it. -/
def WorkspaceNode.info (node : WorkspaceNode) : WorkspaceInfo :=
  ⟨node.id, node.name, node.createdAt, node.updatedAt⟩

/-- A node as a caller sees it, with the workspace it is in. -/
def SessionNode.info (workspaceID : String) (node : SessionNode) : SessionInfo :=
  ⟨node.id, workspaceID, node.title, node.shell, node.createdAt, node.updatedAt⟩

namespace Tree

/-- The workspaces, in order. -/
def listWorkspaces (tree : Tree) : List WorkspaceInfo :=
  tree.map WorkspaceNode.info

/-- The workspace with an id. -/
def getWorkspace (tree : Tree) (id : String) : Option WorkspaceInfo :=
  tree.listWorkspaces.find? (·.id = id)

/-- A new workspace stands at the end. -/
def createWorkspace (tree : Tree) (id name : String) (now : Nat) : Tree :=
  tree ++ [⟨id, name, now, now, []⟩]

/-- Change the name of a workspace. -/
def updateWorkspace (tree : Tree) (id name : String) (now : Nat) : Tree :=
  tree.map fun node =>
    if node.id = id then { node with name := name, updatedAt := now } else node

/-- Remove a workspace with its sessions. -/
def deleteWorkspace (tree : Tree) (id : String) : Tree :=
  tree.filter (·.id ≠ id)

/-- The sessions of a workspace, in order; none if there is no such
workspace. -/
def listSessions (tree : Tree) (workspaceID : String) : List SessionInfo :=
  match tree.find? (·.id = workspaceID) with
  | none => []
  | some node => node.sessions.map (SessionNode.info workspaceID)

/-- The sessions of all workspaces. -/
def allSessions (tree : Tree) : List SessionInfo :=
  tree.flatMap fun node => node.sessions.map (SessionNode.info node.id)

/-- The session with an id. -/
def getSession (tree : Tree) (id : String) : Option SessionInfo :=
  tree.allSessions.find? (·.id = id)

/-- A new session stands at the end of its workspace. -/
def createSession (tree : Tree) (id workspaceID title : String) (now : Nat) : Tree :=
  tree.map fun node =>
    if node.id = workspaceID then
      { node with sessions := node.sessions ++ [⟨id, title, "", now, now⟩] }
    else node

/-- Change the title of a session. -/
def updateSession (tree : Tree) (id title : String) (now : Nat) : Tree :=
  tree.map fun node =>
    { node with
      sessions := node.sessions.map fun session =>
        if session.id = id then { session with title := title, updatedAt := now }
        else session }

/-- Remove a session. -/
def deleteSession (tree : Tree) (id : String) : Tree :=
  tree.map fun node =>
    { node with sessions := node.sessions.filter (·.id ≠ id) }

/-- A call on the tree. -/
def serve (tree : Tree) : StoreCall → Tree × StoreAnswer
  | .listWorkspaces => (tree, .workspaces tree.listWorkspaces)
  | .getWorkspace id => (tree, .workspace (tree.getWorkspace id))
  | .createWorkspace fresh name now =>
      (tree.createWorkspace fresh name now,
        .workspace (some ⟨fresh, name, now, now⟩))
  | .updateWorkspace id name now =>
      match tree.getWorkspace id with
      | none => (tree, .workspace none)
      | some old =>
          (tree.updateWorkspace id name now,
            .workspace (some { old with name := name, updatedAt := now }))
  | .deleteWorkspace id => (tree.deleteWorkspace id, .done)
  | .listSessions workspaceID => (tree, .sessions (tree.listSessions workspaceID))
  | .getSession id => (tree, .session (tree.getSession id))
  | .createSession fresh workspaceID title now =>
      match tree.getWorkspace workspaceID with
      | none => (tree, .failed)
      | some _ =>
          let title := if title = "" then "Terminal" else title
          (tree.createSession fresh workspaceID title now,
            .session (some ⟨fresh, workspaceID, title, "", now, now⟩))
  | .updateSession id title now =>
      match tree.getSession id with
      | none => (tree, .session none)
      | some old =>
          (tree.updateSession id title now,
            .session (some { old with title := title, updatedAt := now }))
  | .deleteSession id => (tree.deleteSession id, .done)

end Tree

/-! ## The tables -/

/-- A row as a caller sees it. -/
def Workspace.info (row : Workspace) : WorkspaceInfo :=
  ⟨row.id, row.name, row.createdAt, row.updatedAt⟩

/-- A row as a caller sees it. -/
def Session.info (row : Session) : SessionInfo :=
  ⟨row.id, row.workspaceID, row.title, row.shell, row.createdAt, row.updatedAt⟩

/-- The node that a row of `sessions` holds. -/
def Session.node (row : Session) : SessionNode :=
  ⟨row.id, row.title, row.shell, row.createdAt, row.updatedAt⟩

namespace Database

/-- A call on the tables. -/
def serve (db : Database) : StoreCall → Database × StoreAnswer
  | .listWorkspaces => (db, .workspaces (db.listWorkspaces.map Workspace.info))
  | .getWorkspace id => (db, .workspace ((db.getWorkspace id).map Workspace.info))
  | .createWorkspace fresh name now =>
      match db.createWorkspace fresh name now with
      | none => (db, .failed)
      | some next => (next, .workspace (some ⟨fresh, name, now, now⟩))
  | .updateWorkspace id name now =>
      let updated := db.updateWorkspace id name now
      (updated.1, .workspace (updated.2.map Workspace.info))
  | .deleteWorkspace id => (db.deleteWorkspace id, .done)
  | .listSessions workspaceID =>
      (db, .sessions ((db.listSessions workspaceID).map Session.info))
  | .getSession id => (db, .session ((db.getSession id).map Session.info))
  | .createSession fresh workspaceID title now =>
      match db.createSession fresh workspaceID title now with
      | none => (db, .failed)
      | some next =>
          let title := if title = "" then "Terminal" else title
          (next, .session (some ⟨fresh, workspaceID, title, "", now, now⟩))
  | .updateSession id title now =>
      let updated := db.updateSession id title now
      (updated.1, .session (updated.2.map Session.info))
  | .deleteSession id => (db.deleteSession id, .done)

/-- The node that a row of `workspaces` stands for. -/
def node (db : Database) (row : Workspace) : WorkspaceNode :=
  { id := row.id
    name := row.name
    createdAt := row.createdAt
    updatedAt := row.updatedAt
    sessions := (db.sessions.filter (·.workspaceID = row.id)).map Session.node }

/-- The tree that the tables hold. -/
def tree (db : Database) : Tree := db.workspaces.map db.node

/-- The rows of both tables stand in the order of their sort orders, the ids
are unique, and every session refers to a workspace. -/
structure Ordered (db : Database) : Prop where
  workspaceIds : (db.workspaces.map (·.id)).Nodup
  workspaceOrder : db.workspaces.Pairwise fun left right =>
    left.sortOrder < right.sortOrder
  sessionIds : (db.sessions.map (·.id)).Nodup
  sessionOrder : db.sessions.Pairwise fun left right =>
    left.workspaceID = right.workspaceID → left.sortOrder < right.sortOrder
  references : ∀ row ∈ db.sessions, ∃ workspace ∈ db.workspaces,
    workspace.id = row.workspaceID

theorem ordered_empty : empty.Ordered :=
  ⟨List.nodup_nil, .nil, List.nodup_nil, .nil, nofun⟩

/-! ## What the tables list -/

variable {db next : Database}

theorem Ordered.listWorkspaces (ordered : db.Ordered) :
    db.listWorkspaces = db.workspaces :=
  (ordered.workspaceOrder.imp fun less => .inl less).insertionSort_eq

theorem Ordered.listSessions (ordered : db.Ordered) (workspaceID : String) :
    db.listSessions workspaceID =
      db.sessions.filter (·.workspaceID = workspaceID) := by
  refine List.Pairwise.insertionSort_eq ?_
  rw [List.pairwise_filter]
  refine ordered.sessionOrder.imp fun less left right => .inl (less ?_)
  simp only [decide_eq_true_eq] at left right
  exact left.trans right.symm

theorem listWorkspaces_tree (db : Database) :
    db.tree.listWorkspaces = db.workspaces.map Workspace.info := by
  simp [tree, Tree.listWorkspaces, Function.comp_def, node, WorkspaceNode.info,
    Workspace.info]

theorem getWorkspace_tree (db : Database) (id : String) :
    db.tree.getWorkspace id = (db.getWorkspace id).map Workspace.info := by
  rw [Tree.getWorkspace, listWorkspaces_tree, List.find?_map]
  rfl

/-- The rows of one workspace as the tree shows them. -/
theorem sessions_node (db : Database) (row : Workspace) :
    (db.node row).sessions.map (SessionNode.info row.id) =
      (db.sessions.filter (·.workspaceID = row.id)).map Session.info := by
  rw [node, List.map_map]
  refine List.map_congr_left fun session member => ?_
  have here := (List.mem_filter.mp member).2
  simp only [decide_eq_true_eq] at here
  simp [SessionNode.info, Session.node, Session.info, here]

theorem find?_tree (db : Database) (id : String) :
    db.tree.find? (·.id = id) = (db.workspaces.find? (·.id = id)).map db.node := by
  rw [tree, List.find?_map]
  rfl

theorem Ordered.listSessions_tree (ordered : db.Ordered) (workspaceID : String) :
    db.tree.listSessions workspaceID =
      (db.listSessions workspaceID).map Session.info := by
  rw [ordered.listSessions, Tree.listSessions, find?_tree]
  cases found : db.workspaces.find? (·.id = workspaceID) with
  | none =>
      have absent : db.sessions.filter (·.workspaceID = workspaceID) = [] := by
        rw [List.filter_eq_nil_iff]
        intro row member here
        obtain ⟨workspace, there, same⟩ := ordered.references row member
        rw [List.find?_eq_none] at found
        simp only [decide_eq_true_eq] at here found
        exact found workspace there (same.trans here)
      simp [absent]
  | some row =>
      have named : row.id = workspaceID := by simpa using List.find?_some found
      subst named
      exact sessions_node db row

/-- Where an element that satisfies a condition is unique, it is found in every
list of the same elements. -/
theorem find?_congr_of_mem
    {α : Type}
    {p : α → Bool}
    {left right : List α}
    (same : ∀ x, x ∈ left ↔ x ∈ right)
    (unique : ∀ x ∈ left, ∀ y ∈ left, p x = true → p y = true → x = y) :
    left.find? p = right.find? p := by
  cases found : right.find? p with
  | none =>
      rw [List.find?_eq_none] at found ⊢
      exact fun x member => found x ((same x).mp member)
  | some y =>
      have member := (same y).mpr (List.mem_of_find?_eq_some found)
      have holds := List.find?_some found
      cases other : left.find? p with
      | none =>
          rw [List.find?_eq_none] at other
          exact absurd holds (other y member)
      | some x =>
          exact congrArg some (unique x (List.mem_of_find?_eq_some other) y member
            (List.find?_some other) holds)

theorem allSessions_tree (db : Database) :
    db.tree.allSessions = db.workspaces.flatMap fun row =>
      (db.sessions.filter (·.workspaceID = row.id)).map Session.info := by
  rw [Tree.allSessions, tree, List.flatMap_map]
  exact List.flatMap_congr fun row _ => sessions_node db row

theorem Ordered.mem_allSessions_tree
    (ordered : db.Ordered)
    (shown : SessionInfo) :
    shown ∈ db.tree.allSessions ↔ shown ∈ db.sessions.map Session.info := by
  rw [allSessions_tree, List.mem_flatMap]
  constructor
  · rintro ⟨row, -, member⟩
    obtain ⟨session, listed, rfl⟩ := List.mem_map.mp member
    exact List.mem_map_of_mem (List.mem_filter.mp listed).1
  · intro member
    obtain ⟨session, there, rfl⟩ := List.mem_map.mp member
    obtain ⟨row, listed, same⟩ := ordered.references session there
    refine ⟨row, listed, List.mem_map_of_mem (List.mem_filter.mpr ⟨there, ?_⟩)⟩
    simpa using same.symm

theorem Ordered.getSession_tree (ordered : db.Ordered) (id : String) :
    db.tree.getSession id = (db.getSession id).map Session.info := by
  have rows : (db.getSession id).map Session.info =
      (db.sessions.map Session.info).find? (·.id = id) := by
    rw [List.find?_map]
    rfl
  rw [rows, Tree.getSession]
  refine find?_congr_of_mem ordered.mem_allSessions_tree ?_
  intro x left y right here there
  rw [ordered.mem_allSessions_tree] at left right
  obtain ⟨first, listed, rfl⟩ := List.mem_map.mp left
  obtain ⟨second, again, rfl⟩ := List.mem_map.mp right
  have same : first.id = second.id := by
    simp only [decide_eq_true_eq] at here there
    exact here.trans there.symm
  rw [List.inj_on_of_nodup_map ordered.sessionIds listed again same]

end Database
end Store
end LociTerm
