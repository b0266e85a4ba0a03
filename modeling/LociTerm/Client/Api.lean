import Mathlib.Data.List.Basic

/-!
# The API client

The records of the API, the calls of the browser's `api` object, and what the
client makes of a response.  `request` hands on the JSON body whatever the
status, so an error object reaches callers that expect a record or a list.
-/

namespace LociTerm
namespace Client

/-- A workspace as the server sends it. -/
structure Workspace where
  id : String
  name : String
  sortOrder : Int
  createdAt : String
  updatedAt : String
  deriving DecidableEq

/-- A session as the server sends it. -/
structure Session where
  id : String
  workspaceId : String
  title : String
  shell : Option String
  cwd : Option String
  sortOrder : Int
  createdAt : String
  updatedAt : String
  deriving DecidableEq

/-- The list of all workspaces.  The ids are a primary key. -/
structure WorkspaceList where
  rows : List Workspace
  nodup : (rows.map (·.id)).Nodup
  deriving DecidableEq

/-- A JSON body: what the client expects, or the object `{ error }`. -/
inductive Body (α : Type)
  | ok (value : α)
  | error (message : String)
  deriving DecidableEq

/-- A response of the server. -/
structure Response (α : Type) where
  status : Nat
  body : Body α
  deriving DecidableEq

variable {α β : Type}

namespace Body

/-- A property of a record; `none` is the `undefined` of an error object. -/
def field (f : α → β) : Body α → Option β
  | .ok value => some (f value)
  | .error _ => none

/-- A change of the value; an error object stays as it is. -/
def map (f : α → β) : Body α → Body β
  | .ok value => .ok (f value)
  | .error message => .error message

/-- The records of a list. -/
def records (body : Body (List α)) : Body (List (Body α)) :=
  body.map (List.map .ok)

/-- A value of the type that the client expects. -/
def IsOk : Body α → Prop
  | .ok _ => True
  | .error _ => False

instance (body : Body α) : Decidable body.IsOk :=
  match body with
  | .ok _ => isTrue trivial
  | .error _ => isFalse id

@[simp] theorem field_ok (f : α → β) (value : α) :
    (ok value).field f = some (f value) := rfl

@[simp] theorem field_error (f : α → β) (message : String) :
    (error message : Body α).field f = none := rfl

@[simp] theorem isOk_ok (value : α) : (ok value).IsOk := trivial

@[simp] theorem not_isOk_error (message : String) :
    ¬(error message : Body α).IsOk := id

end Body

/-- `writeJSON` -/
def writeJSON (status : Nat) (value : α) : Response α := ⟨status, .ok value⟩

/-- `writeError`, and the answer of `requireAuth` to a request that it turns
away. -/
def writeError (status : Nat) (message : String) : Response α :=
  ⟨status, .error message⟩

/-- `request`: `return res.json()` -/
def request (response : Response α) : Body α := response.body

/-- The server has answered with an error. -/
def Response.Failed (response : Response α) : Prop :=
  ∃ status message, 400 ≤ status ∧ response = writeError status message

/-- The calls of the `api` object. -/
inductive Call
  | listWorkspaces
  | createWorkspace (name : String)
  | updateWorkspace (id name : String)
  | deleteWorkspace (id : String)
  | listSessions (workspaceId : String)
  | createSession (workspaceId title : String)
  | updateSession (id title : String)
  | deleteSession (id : String)
  deriving DecidableEq

/-- The response to a call. -/
inductive Reply
  | workspaceList (response : Response WorkspaceList)
  | workspace (response : Response Workspace)
  | sessionList (response : Response (List Session))
  | session (response : Response Session)
  /-- `{ ok: true }` -/
  | done (response : Response Unit)
  deriving DecidableEq

/-- The server has answered the call with an error. -/
def Reply.Failed : Reply → Prop
  | .workspaceList response => response.Failed
  | .workspace response => response.Failed
  | .sessionList response => response.Failed
  | .session response => response.Failed
  | .done response => response.Failed

/-- An error response carries an error object to the caller. -/
theorem request_of_failed
    {response : Response α}
    (failed : response.Failed) :
    ∃ message, request response = .error message := by
  obtain ⟨status, message, _, rfl⟩ := failed
  exact ⟨message, rfl⟩

end Client
end LociTerm
