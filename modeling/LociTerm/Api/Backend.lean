import LociTerm.Store.Sqlite
import LociTerm.Tmux.Interleaving

/-!
# Sessions on the server

The REST handlers that create and delete sessions and workspaces, beside the
terminal handlers.  A handler that deletes takes one step for each store call
and two for each `KillSession`; requests interleave at these steps.
-/

namespace LociTerm
namespace Api

open Tmux Store

/-- A `DELETE` request between two of its steps.  `gone` are the ids whose
rows the request has deleted. -/
inductive Deletion
  /-- A workspace request has listed the sessions. -/
  | listed (workspaceID : String) (sessions : List Store.Session)
  /-- The rows are gone; `onDeleteFunc` is called for the rest. -/
  | killing (todo gone : List String)
  /-- `KillSession` is between its unlock and its `kill-session`. -/
  | locked (id : String) (todo gone : List String)
  deriving DecidableEq

namespace Deletion

/-- The ids whose tmux session the request has still to kill. -/
def pending : Deletion → List String
  | .listed _ _ => []
  | .killing todo _ => todo
  | .locked id todo _ => id :: todo

/-- The ids whose rows the request has deleted. -/
def gone : Deletion → List String
  | .listed _ _ => []
  | .killing _ gone => gone
  | .locked _ _ gone => gone

end Deletion

/-- The server's database and manager with the requests under way. -/
structure Backend where
  manager : Interleaved
  db : Database
  deletions : Table Nat Deletion
  /-- The session ids that the store has drawn or a request has deleted. -/
  used : List String
  /-- The ids of sessions whose `DELETE`, or that of their workspace, has
  answered ok. -/
  answered : List String
  deriving DecidableEq

/-- One step of a handler, or of the tmux server. -/
inductive BackendAction
  | createWorkspace (id name : String) (now : Nat)
  | createSession (id workspaceID title : String) (now : Nat)
  | deleteSession (request : Nat) (id : String)
  | listSessions (request : Nat) (workspaceID : String)
  | deleteWorkspace (request : Nat)
  | killLock (request : Nat)
  | killTmux (request : Nat)
  | answer (request : Nat)
  | connect (client : Handle) (id : String) (faults : AttachFaults)
  | manager (action : Action)
  deriving DecidableEq

namespace Backend

/-- An empty database and no tmux session. -/
def start : Backend :=
  ⟨Interleaved.start Server.fresh, Database.empty, Table.empty, [], []⟩

/-- The other steps of the terminal handlers and of tmux: the kills belong to
the deletions. -/
def Permits : Action → Prop
  | .attachLock _ | .killLock _ | .killTmux _ => False
  | .attachStep | .detach _ _ | .resize _ _ _ | .shutdown
  | .resizePTY _ _ | .closePTMX _ | .sessionEnds _ => True

instance : ∀ action, Decidable (Permits action)
  | .attachLock _ | .killLock _ | .killTmux _ => isFalse id
  | .attachStep | .detach _ _ | .resize _ _ _ | .shutdown
  | .resizePTY _ _ | .closePTMX _ | .sessionEnds _ => isTrue trivial

/-- The step relation.  Store calls succeed, and an id that the store draws is
new. -/
def step (state : Backend) : BackendAction → Option Backend
  | .createWorkspace id name now =>
      -- An empty name is answered with 400.
      if name = "" then none
      else
        (state.db.createWorkspace id name now).map fun db =>
          { state with db := db }
  | .createSession id workspaceID title now =>
      if id ∈ state.used then none
      else
        (state.db.createSession id workspaceID title now).map fun db =>
          { state with db := db, used := id :: state.used }
  | .deleteSession request id =>
      if (state.deletions.get? request).isSome then none
      else
        some { state with
          db := state.db.deleteSession id
          deletions := state.deletions.set request (.killing [id] [id])
          used := id :: state.used }
  | .listSessions request workspaceID =>
      if (state.deletions.get? request).isSome then none
      else
        some { state with
          deletions := state.deletions.set request
            (.listed workspaceID (state.db.listSessions workspaceID)) }
  | .deleteWorkspace request =>
      match state.deletions.get? request with
      | some (.listed workspaceID sessions) =>
          let gone := (state.db.listSessions workspaceID).map (·.id)
          some { state with
            db := state.db.deleteWorkspace workspaceID
            deletions := state.deletions.set request
              (.killing (sessions.map (·.id)) gone) }
      | _ => none
  | .killLock request =>
      match state.deletions.get? request with
      | some (.killing (id :: todo) gone) =>
          (state.manager.step (.killLock id)).map fun manager =>
            { state with
              manager := manager
              deletions :=
                state.deletions.set request (.locked id todo gone) }
      | _ => none
  | .killTmux request =>
      match state.deletions.get? request with
      | some (.locked id todo gone) =>
          (state.manager.step (.killTmux id)).map fun manager =>
            { state with
              manager := manager
              deletions := state.deletions.set request (.killing todo gone) }
      | _ => none
  | .answer request =>
      match state.deletions.get? request with
      | some (.killing [] gone) =>
          some { state with
            deletions := state.deletions.erase request
            answered := gone ++ state.answered }
      | _ => none
  | .connect client id faults =>
      -- An empty id is answered with 400 before the upgrade.
      if id = "" then none
      else
        (state.manager.step
          (.attachLock ⟨client, id, ⟨120, 40⟩, faults⟩)).map fun manager =>
            { state with manager := manager }
  | .manager action =>
      if Permits action then
        (state.manager.step action).map fun manager =>
          { state with manager := manager }
      else none

end Backend
end Api
end LociTerm
