import LociTerm.Api.Sessions
import LociTerm.Client.Listing
import LociTerm.Library.History

/-!
# A page and its server

One page has loaded and no other client uses the server.  The page calls the
operations on sessions; the server serves each request at one moment between
the request and its response, and the responses arrive in any order.  Every
moment has its database.  Beside the state the site keeps the mutations whose
promises have resolved.
-/

namespace LociTerm
namespace Client

open Store

/-- A request of an operation that stands at its `await`. -/
structure Request where
  pending : Pending
  call : Call
  /-- The moment at which the server has served the request, and the reply. -/
  served : Option (Nat × Reply)
  deriving DecidableEq

/-- A mutation of a session that was applied at a moment. -/
structure Mutation where
  id : String
  moment : Nat
  deriving DecidableEq

/-- A page and its server. -/
structure Site where
  app : App
  requests : Table Nat Request
  /-- The databases that the server has had, oldest first. -/
  moments : List Database
  /-- The session ids that the server has met. -/
  used : List String
  /-- The mutations of sessions whose promises have resolved. -/
  resolved : List Mutation
  /-- The workspaces whose `deleteWorkspace` has resolved. -/
  removed : List String
  deriving DecidableEq

/-- A step of the page, of the server, or of the network between them. -/
inductive SiteAction
  | call (id : Nat) (operation : Operation)
  /-- The server serves a request.  The store draws the id if it needs one. -/
  | serve (id : Nat) (fresh : String) (now : Nat) (getCwd : String → String)
  | reply (id : Nat)
  /-- `fetch` rejects. -/
  | reject (id : Nat)

/-- The operations on sessions, and `deleteWorkspace`. -/
def Operation.onSessions : Operation → Bool
  | .pollActive | .fetchSessions _ | .setActiveWorkspace _ | .createSession _ _
  | .deleteSession _ | .renameSession _ _ | .setActiveSession _
  | .deleteWorkspace _ => true
  | .init | .fetchWorkspaces | .createWorkspace _ | .renameWorkspace _ _ =>
      false

/-- The session id that a call names. -/
def Call.target : Call → List String
  | .updateSession id _ | .deleteSession id => [id]
  | .listWorkspaces | .createWorkspace _ | .updateWorkspace _ _
  | .deleteWorkspace _ | .listSessions _ | .createSession _ _ => []

/-- The session of a reply. -/
def Reply.sessionOf : Reply → Option Session
  | .session ⟨_, .ok sess⟩ => some sess
  | _ => none

/-- The mutation that a reply confirms. -/
def mutationOf (moment : Nat) (reply : Reply) : Pending → Option Mutation
  | .createSession _ =>
      reply.sessionOf.map fun session => ⟨session.id, moment⟩
  | .renameSession id => reply.sessionOf.map fun _ => ⟨id, moment⟩
  | .deleteSession id => some ⟨id, moment⟩
  | _ => none

/-- The workspace whose deletion a reply confirms. -/
def removalOf : Pending → Option String
  | .deleteWorkspace id => some id
  | _ => none

namespace Site

/-- The step relation. -/
def step (site : Site) : SiteAction → Option Site
  | .call id operation =>
      if (site.requests.get? id).isSome || !operation.onSessions then none
      else
        match site.app.start operation with
        | .awaits ⟨[call], pending⟩ =>
            some { site with
              requests := site.requests.set id ⟨pending, call, none⟩ }
        | .awaits _ => none
        | .returns app => some { site with app := app }
        | .throws app => some { site with app := app }
  | .serve id fresh now getCwd =>
      match site.requests.get? id, site.moments.getLast? with
      | some ⟨pending, call, none⟩, some db =>
          if fresh ∈ site.used then none
          else
            (Api.serve db fresh now getCwd call).map fun (next, reply) =>
              { site with
                requests := site.requests.set id
                  ⟨pending, call, some (site.moments.length, reply)⟩
                moments := site.moments ++ [next]
                used := fresh :: (call.target ++ site.used) }
      | _, _ => none
  | .reply id =>
      match site.requests.get? id with
      | some ⟨pending, _, some (moment, reply)⟩ =>
          match site.app.resume pending [reply] with
          | some (.returns app) =>
              some { site with
                app := app
                requests := site.requests.erase id
                resolved :=
                  (mutationOf moment reply pending).toList ++ site.resolved
                removed := (removalOf pending).toList ++ site.removed }
          | some (.throws app) =>
              some { site with
                app := app
                requests := site.requests.erase id }
          | _ => none
      | _ => none
  | .reject id =>
      if (site.requests.get? id).isSome then
        some { site with requests := site.requests.erase id }
      else none

end Site

/-! ## What the page has cached -/

/-- The sessions of a list. -/
def values : Records Session → List Session
  | .ok list => list.filterMap fun
      | .ok session => some session
      | .error _ => none
  | .error _ => []

/-- `sessions[wid] ?? []` -/
def cached
    (sessions : Table String (Records Session))
    (wid : String) : List Session :=
  ((sessions.get? wid).map values).getD []

/-- A page that has loaded its lists from the server. -/
structure LoadedPage where
  app : App
  db : Database
  /-- The ids are a primary key. -/
  nodup : (db.sessions.map (·.id)).Nodup
  /-- No list is an error object. -/
  lists : ∀ wid list, app.state.sessions.get? wid = some list → list.IsOk
  /-- What is cached for a workspace are sessions of it. -/
  rows : ∀ wid, ∀ session ∈ cached app.state.sessions wid,
    db.HasTitle wid session.id session.title

/-- No request is under way. -/
def LoadedPage.start (page : LoadedPage) : Site :=
  { app := page.app
    requests := Table.empty
    moments := [page.db]
    used := page.db.sessions.map (·.id)
    resolved := []
    removed := [] }

/-! ## Lists that reflect the mutations -/

/-- A list of the workspace reflects a mutation: what it shows of the session
is what the server has held at some moment since. -/
def Mutation.ShownBy
    (mutation : Mutation)
    (moments : List Database)
    (wid : String)
    (sessions : List Session) : Prop :=
  (∀ session ∈ sessions, session.id = mutation.id →
      SomeSince moments mutation.moment
        (·.HasTitle wid mutation.id session.title)) ∧
    ((∀ session ∈ sessions, session.id ≠ mutation.id) →
      SomeSince moments mutation.moment (·.Lacks wid mutation.id))

instance
    (mutation : Mutation)
    (moments : List Database)
    (wid : String)
    (sessions : List Session) :
    Decidable (mutation.ShownBy moments wid sessions) :=
  inferInstanceAs (Decidable (_ ∧ _))

/-- Every list reflects the mutations that have resolved, and there is none of
a workspace whose deletion has resolved. -/
structure Reflected
    (moments : List Database)
    (resolved : List Mutation)
    (removed : List String)
    (sessions : Table String (Records Session)) : Prop where
  lists : ∀ mutation ∈ resolved, ∀ wid,
    mutation.ShownBy moments wid (cached sessions wid)
  removed : ∀ wid ∈ removed, sessions.get? wid = none

namespace Site

/-- The lists of the page reflect what has resolved. -/
def Reflects (site : Site) : Prop :=
  Reflected site.moments site.resolved site.removed site.app.state.sessions

/-- The workspace whose list `deleteSession` and `renameSession` change. -/
def active (site : Site) : Option String :=
  if truthy site.app.state.activeWorkspaceId then
    site.app.state.activeWorkspaceId
  else none

/-- What a list that was read at a moment says about the mutated sessions is
what the server has held since. -/
def ListInTime (site : Site) (moment : Nat) (wid : String) : Prop :=
  wid ∉ site.removed ∧
    ∀ mutation ∈ site.resolved, ∀ db ∈ site.moments[moment]?,
      (∀ row ∈ db.sessions, row.workspaceID = wid → row.id = mutation.id →
          SomeSince site.moments mutation.moment
            (·.HasTitle wid mutation.id row.title)) ∧
        (db.Lacks wid mutation.id →
          SomeSince site.moments mutation.moment (·.Lacks wid mutation.id))

/-- What a session record says is what the server has held since the mutations
of the session. -/
def RecordInTime (site : Site) (wid : String) (session : Session) : Prop :=
  ∀ mutation ∈ site.resolved, session.id = mutation.id →
    SomeSince site.moments mutation.moment
      (·.HasTitle wid mutation.id session.title)

/-- A reply arrives in time. -/
def Arrives (site : Site) (moment : Nat) (reply : Reply) : Pending → Prop
  | .setActiveWorkspace wid | .fetchSessions wid => site.ListInTime moment wid
  | .pollActive wid =>
      (∃ list ∈ App.sessionList reply,
          site.app.state.holds wid list = true) ∨
        site.ListInTime moment wid
  | .createSession wid =>
      wid ∉ site.removed ∧
        ∀ session ∈ reply.sessionOf, site.RecordInTime wid session
  | .deleteSession id =>
      (∀ wid ∈ site.active, wid ∉ site.removed) ∧
        ∀ wid ∈ site.app.state.sessions.keys, wid ∉ site.active →
          ∀ session ∈ cached site.app.state.sessions wid, session.id ≠ id
  | .renameSession id =>
      (∀ wid ∈ site.active, wid ∉ site.removed) ∧
        ∀ updated ∈ reply.sessionOf,
          if updated.workspaceId ∈ site.active ∧
              ∃ session ∈
                cached site.app.state.sessions updated.workspaceId,
                session.id = id then
            site.RecordInTime updated.workspaceId updated
          else
            Mutation.ShownBy ⟨id, moment⟩ site.moments updated.workspaceId
              (cached site.app.state.sessions updated.workspaceId)
  | _ => True

/-- Every reply arrives in time. -/
def InTime (site : Site) : SiteAction → Prop
  | .reply id =>
      ∀ request ∈ site.requests.get? id, ∀ served ∈ request.served,
        site.Arrives served.1 served.2 request.pending
  | .call _ _ | .serve _ _ _ _ | .reject _ => True

instance (site : Site) (moment : Nat) (wid : String) :
    Decidable (site.ListInTime moment wid) :=
  inferInstanceAs (Decidable (_ ∧ _))

instance (site : Site) (wid : String) (session : Session) :
    Decidable (site.RecordInTime wid session) :=
  inferInstanceAs (Decidable (∀ mutation ∈ site.resolved, _))

instance (site : Site) (moment : Nat) (reply : Reply) :
    DecidablePred (site.Arrives moment reply)
  | .setActiveWorkspace wid | .fetchSessions wid =>
      inferInstanceAs (Decidable (site.ListInTime moment wid))
  | .pollActive _ => inferInstanceAs (Decidable (_ ∨ _))
  | .createSession _ | .deleteSession _ | .renameSession _ =>
      inferInstanceAs (Decidable (_ ∧ _))
  | .initWorkspaces | .initDefault | .initSessions _ | .initSession _ _ _ _
  | .fetchWorkspaces | .createWorkspace | .createWorkspaceSession _
  | .deleteWorkspace _ | .renameWorkspace _ => inferInstanceAs (Decidable True)

instance (site : Site) : DecidablePred site.InTime
  | .reply id =>
      inferInstanceAs (Decidable (∀ request ∈ site.requests.get? id,
        ∀ served ∈ request.served, _))
  | .call _ _ | .serve _ _ _ _ | .reject _ => inferInstanceAs (Decidable True)

end Site
end Client
end LociTerm
