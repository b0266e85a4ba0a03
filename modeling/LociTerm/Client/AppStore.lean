import LociTerm.Client.Api
import LociTerm.Library.Table

/-!
# The app store

The zustand store of the browser.  An operation runs to its first `await`, and
on from there when the replies to its calls arrive; the state changes only in
its last part.  The state holds what the server has sent, so that a list may
turn out to be an error object.  A step that reads a property of `undefined`,
iterates over an object or calls a method that an object lacks throws a
`TypeError` and leaves the state alone.
-/

namespace LociTerm
namespace Client

/-- What the store knows of the output of a session. -/
structure SessionActivity where
  unread : Bool
  lastOutputAt : Nat
  notifiedAt : Nat
  deriving DecidableEq

/-- A notice that the output of a session has finished. -/
structure Toast where
  id : String
  sessionId : String
  workspaceId : String
  sessionTitle : String
  createdAt : Nat
  deriving DecidableEq

/-- The first and the last byte of the burst of a session. -/
structure BusyTrack where
  startedAt : Nat
  lastByteAt : Nat
  deriving DecidableEq

/-- A list as the store keeps it. -/
abbrev Records (α : Type) : Type := Body (List (Body α))

/-- `AppState`; an id that is `none` is `null` or `undefined`. -/
structure AppState where
  workspaces : Records Workspace
  sessions : Table String (Records Session)
  activeWorkspaceId : Option String
  activeSessionId : Option String
  activeSessionByWorkspace : Table String (Option String)
  sessionActivity : Table String SessionActivity
  toasts : List Toast
  initialized : Bool
  deriving DecidableEq

/-- The store with the maps of its module.  A timer is the time it is due. -/
structure App where
  state : AppState
  busyTrack : Table String BusyTrack
  idleTimers : Table String Nat
  deriving DecidableEq

/-- The operations of the store that this model covers. -/
inductive Operation
  | init
  | fetchWorkspaces
  | createWorkspace (name : String)
  | deleteWorkspace (id : String)
  | renameWorkspace (id name : String)
  | setActiveWorkspace (id : String)
  | fetchSessions (workspaceId : String)
  | pollActive
  | createSession (workspaceId : String) (title : Option String)
  | deleteSession (id : String)
  | renameSession (id title : String)
  | setActiveSession (id : String)
  deriving DecidableEq

/-- The `await` at which an operation stands, with what it still needs. -/
inductive Pending
  | initWorkspaces
  | initDefault
  | initSessions (workspaces : List (Body Workspace))
  | initSession
      (workspaces : List (Body Workspace))
      (sessions : Table String (Records Session))
      (activeSessionByWorkspace : Table String (Option String))
      (wid : Option String)
  | fetchWorkspaces
  | createWorkspace
  | createWorkspaceSession (ws : Body Workspace)
  | deleteWorkspace (id : String)
  | renameWorkspace (id : String)
  | setActiveWorkspace (id : String)
  | fetchSessions (workspaceId : String)
  | pollActive (wid : String)
  | createSession (workspaceId : String)
  | deleteSession (id : String)
  | renameSession (id : String)
  deriving DecidableEq

/-- An operation that waits for the replies to some calls. -/
structure Flight where
  calls : List Call
  pending : Pending
  deriving DecidableEq

/-- How far an operation comes before it waits again. -/
inductive Outcome
  | awaits (flight : Flight)
  | returns (app : App)
  /-- A `TypeError`. -/
  | throws (app : App)
  deriving DecidableEq

/-- Whether a string or `null` or `undefined` counts as true. -/
def truthy (id : Option String) : Bool := id.getD "" ≠ ""

/-- The property name that an id becomes. -/
def key (id : Option String) : String := id.getD "undefined"

/-- `list[0]?.id` -/
def firstId {α : Type} (f : α → String) : Records α → Option String
  | .ok (first :: _) => first.field f
  | _ => none

/-- `sessionsEqual`.  The array of a response is never the one in the store,
and two error objects have the same (missing) length. -/
def sessionsEqual : Records Session → Records Session → Bool
  | .ok a, .ok b =>
      a.length = b.length &&
        (a.zip b).all fun (ai, bi) =>
          ai.field (·.id) = bi.field (·.id) &&
            ai.field (·.title) = bi.field (·.title) &&
            ai.field (·.cwd) = bi.field (·.cwd) &&
            ai.field (·.updatedAt) = bi.field (·.updatedAt)
  | .error _, .error _ => true
  | _, _ => false

namespace AppState

/-- The state before `init`. -/
def initial : AppState :=
  { workspaces := .ok []
    sessions := Table.empty
    activeWorkspaceId := none
    activeSessionId := none
    activeSessionByWorkspace := Table.empty
    sessionActivity := Table.empty
    toasts := []
    initialized := false }

/-- `s.sessions[wid] ?? []`, and `s.sessions[wid] || []` -/
def sessionsOf (s : AppState) (wid : String) : Records Session :=
  (s.sessions.get? wid).getD (.ok [])

/-- `sessionsEqual(existing, sessions)`: what is stored for a workspace, where an
absent list is an empty one, equals the fetched list. -/
def holds (s : AppState) (wid : String) (sessions : Records Session) : Bool :=
  sessionsEqual (s.sessionsOf wid) sessions

/-- `s.activeSessionByWorkspace[wid]` -/
def remembered (s : AppState) (wid : String) : Option String :=
  (s.activeSessionByWorkspace.get? wid).join

/-- The toasts without those of some sessions. -/
def toastsWithout (s : AppState) (removed : String → Bool) : List Toast :=
  if s.toasts.any fun t => removed t.sessionId then
    s.toasts.filter fun t => !removed t.sessionId
  else s.toasts

/-- The session is being looked at: no unread mark, no toast. -/
def seen (s : AppState) (id : String) : AppState :=
  { s with
    sessionActivity :=
      match s.sessionActivity.get? id with
      | some prev =>
          if prev.unread then
            s.sessionActivity.set id { prev with unread := false }
          else s.sessionActivity
      | none => s.sessionActivity
    toasts := s.toastsWithout (· = id) }

/-- The workspace that is active after a deletion, and its session. -/
def nextActive
    (workspaces : List (Body Workspace))
    (sessions : Table String (Records Session))
    (activeSessionByWorkspace : Table String (Option String)) :
    Option String × Option String :=
  let nextWid := firstId Workspace.id (.ok workspaces)
  let nextActive :=
    if truthy nextWid then
      (activeSessionByWorkspace.get? (key nextWid)).join.or
        ((sessions.get? (key nextWid)).bind (firstId Session.id))
    else none
  (nextWid, nextActive)

/-- The updater of `deleteSession`. -/
def withoutSession
    (s : AppState)
    (wid id : String)
    (list : List (Body Session)) : AppState :=
  let sessions := list.filter (·.field (·.id) ≠ some id)
  let nextActive :=
    if s.activeSessionId = some id then firstId Session.id (.ok sessions)
    else s.activeSessionId
  { s with
    sessions := s.sessions.set wid (.ok sessions)
    activeSessionId := nextActive
    activeSessionByWorkspace :=
      if s.remembered wid = some id then
        if truthy nextActive then
          s.activeSessionByWorkspace.set wid nextActive
        else s.activeSessionByWorkspace.erase wid
      else s.activeSessionByWorkspace
    sessionActivity := s.sessionActivity.erase id
    toasts := s.toastsWithout (· = id) }

end AppState

namespace App

/-- The page as it loads. -/
def initial : App := ⟨AppState.initial, Table.empty, Table.empty⟩

/-- `cancelIdleTracking` -/
def cancelIdleTracking (app : App) (sessionId : String) : App :=
  { app with
    busyTrack := app.busyTrack.erase sessionId
    idleTimers := app.idleTimers.erase sessionId }

/-! ## The last part of each operation -/

/-- The `set` of `init`. -/
def finishInit
    (app : App)
    (workspaces : List (Body Workspace))
    (sessions : Table String (Records Session))
    (activeSessionByWorkspace : Table String (Option String))
    (wid : Option String) : Outcome :=
  .returns { app with
    state := { app.state with
      workspaces := .ok workspaces
      sessions := sessions
      activeWorkspaceId := wid
      activeSessionId := (activeSessionByWorkspace.get? (key wid)).join
      activeSessionByWorkspace := activeSessionByWorkspace
      initialized := true } }

/-- The `set` of `createWorkspace`; `[...s.workspaces]` throws on an error
object. -/
def finishCreateWorkspace
    (app : App)
    (ws : Body Workspace)
    (sess : Body Session) : Outcome :=
  let s := app.state
  let wid := ws.field (·.id)
  let sid := sess.field (·.id)
  match s.workspaces with
  | .error _ => .throws app
  | .ok workspaces =>
      .returns { app with
        state := { s with
          workspaces := .ok (workspaces ++ [ws])
          sessions := s.sessions.set (key wid) (.ok [sess])
          activeWorkspaceId := wid
          activeSessionId := sid
          activeSessionByWorkspace :=
            s.activeSessionByWorkspace.set (key wid) sid } }

/-- What `deleteWorkspace` does once the server has answered: the bursts of the
sessions are cancelled, and another workspace may become active. -/
def finishDeleteWorkspace (app : App) (id : String) : Outcome :=
  let s := app.state
  match s.workspaces, s.sessionsOf id with
  | .ok workspaces, .ok removedSessions =>
      let workspaces := workspaces.filter (·.field (·.id) ≠ some id)
      let sessions := s.sessions.erase id
      let activeSessionByWorkspace := s.activeSessionByWorkspace.erase id
      let (nextWid, nextActive) :=
        AppState.nextActive workspaces sessions activeSessionByWorkspace
      let removedIds := removedSessions.map (·.field (·.id))
      let app := removedIds.reduceOption.foldl cancelIdleTracking app
      .returns { app with
        state := { s with
          workspaces := .ok workspaces
          sessions := sessions
          activeWorkspaceId := nextWid
          activeSessionId := nextActive
          activeSessionByWorkspace := activeSessionByWorkspace
          sessionActivity :=
            removedIds.foldl (fun activity id => activity.erase (key id))
              s.sessionActivity
          toasts := s.toastsWithout (some · ∈ removedIds) } }
  | _, _ => .throws app

/-- The `set` of `renameWorkspace`; whatever was answered replaces the record. -/
def finishRenameWorkspace
    (app : App)
    (id : String)
    (updated : Body Workspace) : Outcome :=
  match app.state.workspaces with
  | .error _ => .throws app
  | .ok workspaces =>
      .returns { app with
        state := { app.state with
          workspaces := .ok (workspaces.map fun w =>
            if w.field (·.id) = some id then updated else w) } }

/-- The `set` of `setActiveWorkspace`. -/
def finishSetActiveWorkspace
    (app : App)
    (id : String)
    (sessions : Records Session) : Outcome :=
  let s := app.state
  let remembered := s.remembered id
  let stillExists : Option Bool :=
    if truthy remembered then
      match sessions with
      | .ok list => some (list.any (·.field (·.id) = remembered))
      | .error _ => none
    else some false
  match stillExists with
  | none => .throws app
  | some stillExists =>
      let nextActive :=
        if stillExists then remembered else firstId Session.id sessions
      let placed : AppState :=
        { s with
          sessions := s.sessions.set id sessions
          activeWorkspaceId := some id
          activeSessionId := nextActive }
      match nextActive with
      | none => .returns { app with state := placed }
      | some next =>
          if next = "" then .returns { app with state := placed }
          else
            .returns { app.cancelIdleTracking next with
              state := { placed.seen next with
                activeSessionByWorkspace :=
                  s.activeSessionByWorkspace.set id (some next) } }

/-- The `set` of `fetchSessions`. -/
def finishFetchSessions
    (app : App)
    (workspaceId : String)
    (sessions : Records Session) : Outcome :=
  .returns { app with
    state := { app.state with
      sessions := app.state.sessions.set workspaceId sessions } }

/-- `pollActive` with the response: an equal list is dropped. -/
def finishPollActive
    (app : App)
    (wid : String)
    (sessions : Records Session) : Outcome :=
  if app.state.holds wid sessions then .returns app
  else app.finishFetchSessions wid sessions

/-- The `set` of `createSession`; the new session becomes active, whichever
workspace is. -/
def finishCreateSession
    (app : App)
    (workspaceId : String)
    (sess : Body Session) : Outcome :=
  let s := app.state
  let sid := sess.field (·.id)
  match s.sessionsOf workspaceId with
  | .error _ => .throws app
  | .ok list =>
      .returns { app with
        state := { s with
          sessions := s.sessions.set workspaceId (.ok (list ++ [sess]))
          activeSessionId := sid
          activeSessionByWorkspace :=
            s.activeSessionByWorkspace.set workspaceId sid } }

/-- What `deleteSession` does once the server has answered, in the workspace that
is active by then. -/
def finishDeleteSession (app : App) (id : String) : Outcome :=
  let app := app.cancelIdleTracking id
  let s := app.state
  if truthy s.activeWorkspaceId then
    let wid := key s.activeWorkspaceId
    match s.sessionsOf wid with
    | .error _ => .throws app
    | .ok list => .returns { app with state := s.withoutSession wid id list }
  else .returns app

/-- What `renameSession` does once the server has answered, in the workspace that
is active by then. -/
def finishRenameSession
    (app : App)
    (id : String)
    (updated : Body Session) : Outcome :=
  let s := app.state
  if truthy s.activeWorkspaceId then
    let wid := key s.activeWorkspaceId
    match s.sessionsOf wid with
    | .error _ => .throws app
    | .ok list =>
        .returns { app with
          state := { s with
            sessions := s.sessions.set wid (.ok (list.map fun sess =>
              if sess.field (·.id) = some id then updated else sess)) } }
  else .returns app

/-- `setActiveSession` -/
def setActiveSession (app : App) (id : String) : Outcome :=
  let app := app.cancelIdleTracking id
  let s := app.state
  .returns { app with
    state := { s.seen id with
      activeSessionId := some id
      activeSessionByWorkspace :=
        if truthy s.activeWorkspaceId then
          s.activeSessionByWorkspace.set (key s.activeWorkspaceId) (some id)
        else s.activeSessionByWorkspace } }

/-! ## From one `await` to the next -/

/-- `Promise.all(workspaces.map((w) => api.listSessions(w.id)))` -/
def listAll (workspaces : List (Body Workspace)) : Outcome :=
  .awaits
    ⟨workspaces.map fun w => .listSessions (key (w.field (·.id))),
      .initSessions workspaces⟩

/-- The tables that `init` builds from the lists. -/
def tabulate :
    List (Body Workspace × Records Session) →
    Table String (Records Session) × Table String (Option String) →
    Table String (Records Session) × Table String (Option String)
  | [], tables => tables
  | (w, list) :: rest, (sessions, activeSessionByWorkspace) =>
      let wid := key (w.field (·.id))
      tabulate rest
        (sessions.set wid list,
          match list with
          | .ok (first :: _) =>
              activeSessionByWorkspace.set wid (first.field (·.id))
          | _ => activeSessionByWorkspace)

/-- `init` with all session lists. -/
def initSessions
    (app : App)
    (workspaces : List (Body Workspace))
    (lists : List (Records Session)) : Outcome :=
  let (sessions, activeSessionByWorkspace) :=
    tabulate (workspaces.zip lists) (Table.empty, Table.empty)
  let wid := firstId Workspace.id (.ok workspaces)
  match sessions.get? (key wid) with
  | none => .throws app
  | some (.ok []) =>
      .awaits ⟨[.createSession (key wid) "Terminal"],
        .initSession workspaces sessions activeSessionByWorkspace wid⟩
  | some _ =>
      app.finishInit workspaces sessions activeSessionByWorkspace wid

/-- `title || 'Terminal'` -/
def titleOrDefault (title : Option String) : String :=
  if truthy title then title.getD "" else "Terminal"

/-- An operation up to its first `await`. -/
def start (app : App) : Operation → Outcome
  | .init => .awaits ⟨[.listWorkspaces], .initWorkspaces⟩
  | .fetchWorkspaces => .awaits ⟨[.listWorkspaces], .fetchWorkspaces⟩
  | .createWorkspace name =>
      .awaits ⟨[.createWorkspace name], .createWorkspace⟩
  | .deleteWorkspace id => .awaits ⟨[.deleteWorkspace id], .deleteWorkspace id⟩
  | .renameWorkspace id name =>
      .awaits ⟨[.updateWorkspace id name], .renameWorkspace id⟩
  | .setActiveWorkspace id =>
      match app.state.sessions.get? id with
      | some sessions => app.finishSetActiveWorkspace id sessions
      | none => .awaits ⟨[.listSessions id], .setActiveWorkspace id⟩
  | .fetchSessions workspaceId =>
      .awaits ⟨[.listSessions workspaceId], .fetchSessions workspaceId⟩
  | .pollActive =>
      if truthy app.state.activeWorkspaceId then
        let wid := key app.state.activeWorkspaceId
        .awaits ⟨[.listSessions wid], .pollActive wid⟩
      else .returns app
  | .createSession workspaceId title =>
      .awaits ⟨[.createSession workspaceId (titleOrDefault title)],
        .createSession workspaceId⟩
  | .deleteSession id => .awaits ⟨[.deleteSession id], .deleteSession id⟩
  | .renameSession id title =>
      .awaits ⟨[.updateSession id title], .renameSession id⟩
  | .setActiveSession id => app.setActiveSession id

/-- The list of a reply to `listSessions`. -/
def sessionList : Reply → Option (Records Session)
  | .sessionList response => some (request response).records
  | _ => none

/-- An operation from an `await` on, with the replies to its calls. -/
def resume (app : App) : Pending → List Reply → Option Outcome
  | .initWorkspaces, [.workspaceList response] =>
      match request response with
      | .error _ => some (.throws app)
      | .ok ⟨[], _⟩ =>
          some (.awaits ⟨[.createWorkspace "Default"], .initDefault⟩)
      | .ok list => some (listAll (list.rows.map .ok))
  | .initDefault, [.workspace response] =>
      some (listAll [request response])
  | .initSessions workspaces, replies =>
      match replies.mapM sessionList with
      | some lists =>
          if lists.length = workspaces.length then
            some (app.initSessions workspaces lists)
          else none
      | none => none
  | .initSession workspaces sessions activeSessionByWorkspace wid,
      [.session response] =>
      let sess := request response
      some (app.finishInit workspaces (sessions.set (key wid) (.ok [sess]))
        (activeSessionByWorkspace.set (key wid) (sess.field (·.id))) wid)
  | .fetchWorkspaces, [.workspaceList response] =>
      some (.returns { app with
        state := { app.state with
          workspaces := ((request response).map (·.rows)).records } })
  | .createWorkspace, [.workspace response] =>
      let ws := request response
      some (.awaits
        ⟨[.createSession (key (ws.field (·.id))) "Terminal"],
          .createWorkspaceSession ws⟩)
  | .createWorkspaceSession ws, [.session response] =>
      some (app.finishCreateWorkspace ws (request response))
  | .deleteWorkspace id, [.done _] => some (app.finishDeleteWorkspace id)
  | .renameWorkspace id, [.workspace response] =>
      some (app.finishRenameWorkspace id (request response))
  | .setActiveWorkspace id, [.sessionList response] =>
      some (app.finishSetActiveWorkspace id (request response).records)
  | .fetchSessions workspaceId, [.sessionList response] =>
      some (app.finishFetchSessions workspaceId (request response).records)
  | .pollActive wid, [.sessionList response] =>
      some (app.finishPollActive wid (request response).records)
  | .createSession workspaceId, [.session response] =>
      some (app.finishCreateSession workspaceId (request response))
  | .deleteSession id, [.done _] => some (app.finishDeleteSession id)
  | .renameSession id, [.session response] =>
      some (app.finishRenameSession id (request response))
  | _, _ => none

/-- What an operation does with the replies that it awaits. -/
def Continues (app : App) (replies : List Reply) (outcome : Outcome) :
    Pending → Prop
  | .initWorkspaces => ∃ response, replies = [.workspaceList response] ∧
      ((∃ message, request response = .error message) ∧
          outcome = .throws app ∨
        (∃ nodup, request response = .ok ⟨[], nodup⟩) ∧
          outcome = .awaits ⟨[.createWorkspace "Default"], .initDefault⟩ ∨
        ∃ list, request response = .ok list ∧ list.rows ≠ [] ∧
          outcome = listAll (list.rows.map .ok))
  | .initDefault => ∃ response, replies = [.workspace response] ∧
      outcome = listAll [request response]
  | .initSessions workspaces => ∃ lists,
      replies.mapM sessionList = some lists ∧
        lists.length = workspaces.length ∧
        outcome = app.initSessions workspaces lists
  | .initSession workspaces sessions tabs wid => ∃ response,
      replies = [.session response] ∧
        outcome = app.finishInit workspaces
          (sessions.set (key wid) (.ok [request response]))
          (tabs.set (key wid) ((request response).field (·.id))) wid
  | .fetchWorkspaces => ∃ response, replies = [.workspaceList response] ∧
      outcome = .returns { app with
        state := { app.state with
          workspaces := ((request response).map (·.rows)).records } }
  | .createWorkspace => ∃ response, replies = [.workspace response] ∧
      outcome = .awaits
        ⟨[.createSession (key ((request response).field (·.id))) "Terminal"],
          .createWorkspaceSession (request response)⟩
  | .createWorkspaceSession ws => ∃ response, replies = [.session response] ∧
      outcome = app.finishCreateWorkspace ws (request response)
  | .deleteWorkspace id => ∃ response, replies = [.done response] ∧
      outcome = app.finishDeleteWorkspace id
  | .renameWorkspace id => ∃ response, replies = [.workspace response] ∧
      outcome = app.finishRenameWorkspace id (request response)
  | .setActiveWorkspace id => ∃ response, replies = [.sessionList response] ∧
      outcome = app.finishSetActiveWorkspace id (request response).records
  | .fetchSessions wid => ∃ response, replies = [.sessionList response] ∧
      outcome = app.finishFetchSessions wid (request response).records
  | .pollActive wid => ∃ response, replies = [.sessionList response] ∧
      outcome = app.finishPollActive wid (request response).records
  | .createSession wid => ∃ response, replies = [.session response] ∧
      outcome = app.finishCreateSession wid (request response)
  | .deleteSession id => ∃ response, replies = [.done response] ∧
      outcome = app.finishDeleteSession id
  | .renameSession id => ∃ response, replies = [.session response] ∧
      outcome = app.finishRenameSession id (request response)

theorem resume_continues
    {app : App}
    {pending : Pending}
    {replies : List Reply}
    {outcome : Outcome}
    (resumed : app.resume pending replies = some outcome) :
    app.Continues replies outcome pending := by
  unfold resume at resumed
  split at resumed
  -- `init` with the workspaces, and with the session lists.
  case h_1 response =>
      refine ⟨response, rfl, ?_⟩
      split at resumed <;> cases resumed
      · next message body => exact Or.inl ⟨⟨message, body⟩, rfl⟩
      · next nodup body => exact Or.inr (Or.inl ⟨⟨nodup, body⟩, rfl⟩)
      · next list nonempty body =>
          refine Or.inr (Or.inr ⟨list, body, fun empty => ?_, rfl⟩)
          obtain ⟨rows, nodup⟩ := list
          subst empty
          exact nonempty nodup rfl
  case h_3 workspaces replies =>
      split at resumed
      · next lists listed =>
          split at resumed <;> cases resumed
          next lengths => exact ⟨lists, listed, lengths, rfl⟩
      · cases resumed
  case h_16 => cases resumed
  all_goals
    cases resumed
    exact ⟨_, rfl, rfl⟩

end App
end Client
end LociTerm
