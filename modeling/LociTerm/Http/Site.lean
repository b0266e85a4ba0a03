import LociTerm.Auth.Authority
import LociTerm.Http.Bodies
import LociTerm.Http.Routes
import LociTerm.Store.Creates

/-!
# The server behind its routes

A request is routed, passes `requireAuth` if its handler is wrapped in it, and
is answered.  The database and the auth manager are those of the server; what
the handlers do to tmux and to the disk is a parameter, a machine.  Requests are
served one after another.
-/

namespace LociTerm
namespace Http

open Store Client Auth

/-- A request, as far as the server looks at it. -/
structure HttpRequest where
  method : String
  /-- The segments of the cleaned path; the last one is empty if the path ends
  with a slash. -/
  path : List String
  /-- The cookies, the headers of an upgrade and the query. -/
  credentials : Auth.Request
  body : Bytes

/-- The `Set-Cookie` header. -/
inductive Cookie
  | session (token : String)
  | cleared
  deriving DecidableEq

/-- A response, as far as the client looks at it. -/
structure HttpResponse where
  status : Nat
  cookie : Option Cookie
  body : Bytes
  deriving DecidableEq

/-- tmux and the disk, as far as the handlers reach them. -/
structure Machine (ω : Type) where
  getCwd : ω → String → String
  killSession : ω → String → ω
  upload : Database → ω → String → HttpRequest → ω × HttpResponse
  terminal : ω → String → HttpRequest → ω × HttpResponse
  /-- The files of the frontend. -/
  frontend : HttpRequest → HttpResponse
  /-- `bcrypt.CompareHashAndPassword` -/
  compareHash : String → String → Bool

/-- What a request finds when it asks the clock, the random source, the
database driver and the operating system. -/
structure Draws where
  now : Nat
  /-- The id of a new row. -/
  fresh : String
  token : String
  ticket : String
  /-- `bcrypt.GenerateFromPassword` -/
  hash : Option String
  hasPasswordFails : Bool
  /-- The store call fails before it has changed anything. -/
  storeFails : Option String
  /-- `SELECT MAX(sort_order)` fails. -/
  maxOrderFails : Bool
  /-- The row that has been updated cannot be read. -/
  rereadFails : Option String
  /-- How many rows `ListSessions` has read when it fails. -/
  listingFails : Option Nat
  /-- A directory that needs Full Disk Access cannot be read. -/
  permissionDenied : Bool

/-- The server with its machine. -/
structure Site (ω : Type) where
  db : Database
  auth : Manager
  world : ω

/-! ## Answers -/

/-- `writeJSON` -/
def send (status : Nat) (document : Json.Document String) : HttpResponse :=
  ⟨status, none, encode document⟩

/-- `writeError` -/
def sendError (status : Nat) (message : String) : HttpResponse :=
  send status (errorDocument message)

/-- The answer of `requireAuth`. -/
def unauthorized : HttpResponse :=
  ⟨401, none, ascii "\x7b\"error\":\"unauthorized\"\x7d"⟩

/-- A response of a REST handler. -/
def respond {α : Type} (write : α → Json.Document String) :
    Response α → HttpResponse
  | ⟨status, .ok value⟩ => send status (write value)
  | ⟨status, .error message⟩ => sendError status message

/-- A reply to a call, with its body as JSON. -/
def respondReply : Reply → HttpResponse
  | .workspaceList response =>
      respond (fun list => .array (list.rows.map workspaceDocument)) response
  | .workspace response => respond workspaceDocument response
  | .sessionList response =>
      respond (fun rows => .array (rows.map sessionDocument)) response
  | .session response => respond sessionDocument response
  | .done response => respond (fun _ => okDocument) response

/-- A reply to the call that is an error. -/
def failure (status : Nat) (message : String) : Call → Reply
  | .listWorkspaces => .workspaceList (writeError status message)
  | .createWorkspace _ | .updateWorkspace _ _ =>
      .workspace (writeError status message)
  | .listSessions _ => .sessionList (writeError status message)
  | .createSession _ _ | .updateSession _ _ =>
      .session (writeError status message)
  | .deleteWorkspace _ | .deleteSession _ => .done (writeError status message)

/-- An answer after its store call. -/
def Succeeds : Reply → Prop
  | .workspaceList response => response.status < 400
  | .workspace response => response.status < 400
  | .sessionList response => response.status < 400
  | .session response => response.status < 400
  | .done response => response.status < 400

instance : DecidablePred Succeeds
  | .workspaceList _ | .workspace _ | .sessionList _ | .session _ | .done _ =>
      inferInstanceAs (Decidable (_ < _))

/-- The handler has an empty name before it, and answers at once. -/
def Call.Unnamed : Call → Prop
  | .createWorkspace name | .updateWorkspace _ name => name = ""
  | _ => False

instance : DecidablePred Call.Unnamed
  | .createWorkspace _ | .updateWorkspace _ _ =>
      inferInstanceAs (Decidable (_ = _))
  | .listWorkspaces | .deleteWorkspace _ | .listSessions _
  | .createSession _ _ | .updateSession _ _ | .deleteSession _ => isFalse id

/-- The handler reads back the row that it has updated. -/
def Call.Rereads : Call → Prop
  | .updateWorkspace _ _ | .updateSession _ _ => True
  | _ => False

instance : DecidablePred Call.Rereads
  | .updateWorkspace _ _ | .updateSession _ _ => isTrue trivial
  | .listWorkspaces | .createWorkspace _ | .deleteWorkspace _
  | .listSessions _ | .createSession _ _ | .deleteSession _ => isFalse id

/-- `WorkspaceHandler.Create` from the `INSERT` of its row on. -/
def insertedWorkspace (db : Database) (row : Store.Workspace) :
    Database × Reply :=
  match db.insertWorkspace row with
  | none =>
      (db, .workspace
        (writeError 500 "UNIQUE constraint failed: workspaces.id"))
  | some next => (next, .workspace (writeJSON 201 (Api.workspaceJSON row)))

/-- `SessionHandler.Create` from the `INSERT` of its row on. -/
def insertedSession (db : Database) (row : Store.Session) : Database × Reply :=
  match db.insertSession row with
  | none => (db, .session (writeError 500 "FOREIGN KEY constraint failed"))
  | some next => (next, .session (writeJSON 201 (Api.sessionJSON "" row)))

/-- The answer to a call when `SELECT MAX(sort_order)` fails.  The creates
ignore the error and go on with the order that they then have. -/
def answerUnordered (db : Database) (supply : Api.Supply) :
    Call → Database × Reply
  | .createWorkspace name =>
      if name = "" then (db, .workspace (writeError 400 "name is required"))
      else
        insertedWorkspace db
          { id := supply.fresh
            name := name
            sortOrder := db.readMaxOrder (.workspace name) true + 1
            createdAt := supply.now
            updatedAt := supply.now }
  | .createSession wid title =>
      insertedSession db
        { id := supply.fresh
          workspaceID := wid
          title := if title = "" then "Terminal" else title
          shell := ""
          sortOrder := db.readMaxOrder (.session wid title) true + 1
          createdAt := supply.now
          updatedAt := supply.now }
  | call => Api.answer db supply call

variable {ω : Type} (machine : Machine ω)

namespace Site

/-- What the store calls of a handler draw. -/
def supply (site : Site ω) (draws : Draws) : Api.Supply :=
  ⟨draws.fresh, draws.now, machine.getCwd site.world⟩

/-- The database and the reply after a call when nothing else fails than the
query for the greatest sort order. -/
def served (site : Site ω) (draws : Draws) (call : Call) : Database × Reply :=
  if draws.maxOrderFails then
    answerUnordered site.db (site.supply machine draws) call
  else Api.answer site.db (site.supply machine draws) call

/-- The database and the reply after a call, when the store may fail. -/
def answer (site : Site ω) (draws : Draws) (call : Call) : Database × Reply :=
  let served := site.served machine draws call
  if Call.Unnamed call then served
  else
    match draws.storeFails with
    | some message => (site.db, failure 500 message call)
    | none =>
        match draws.rereadFails with
        | none => served
        | some message =>
            if Call.Rereads call ∧ Succeeds served.2 then
              (served.1, failure 500 message call)
            else served

/-- The sessions for which `onDeleteFunc` is called. -/
def killed (site : Site ω) (draws : Draws) : Call → List String
  | .deleteSession id => [id]
  | .deleteWorkspace id =>
      let listed := (site.db.listSessions id).map (·.id)
      match draws.listingFails with
      | none => listed
      | some count => listed.take count
  | _ => []

/-- A REST handler with its call. -/
def serveCall (site : Site ω) (draws : Draws) (call : Call) :
    Site ω × HttpResponse :=
  let (db, reply) := site.answer machine draws call
  let world :=
    if Succeeds reply then
      (site.killed draws call).foldl machine.killSession site.world
    else site.world
  ({ site with db := db, world := world }, respondReply reply)

/-- The call that a request makes, unless its body is refused.
`SessionHandler.Create` ignores the error of `Decode`. -/
def callOf
    (endpoint : Endpoint)
    (values : List (String × String))
    (body : Bytes) : Option (Except HttpResponse Call) :=
  let id := (values.lookup "id").getD ""
  let wid := (values.lookup "wid").getD ""
  let decoded (field : String) (call : String → Call) :
      Except HttpResponse Call :=
    let found := decodeField field body
    if found.failed then .error (sendError 400 "invalid request body")
    else .ok (call found.value)
  match endpoint with
  | .listWorkspaces => some (.ok .listWorkspaces)
  | .createWorkspace => some (decoded "name" .createWorkspace)
  | .updateWorkspace => some (decoded "name" (.updateWorkspace id))
  | .deleteWorkspace => some (.ok (.deleteWorkspace id))
  | .listSessions => some (.ok (.listSessions wid))
  | .createSession =>
      some (.ok (.createSession wid (decodeField "title" body).value))
  | .updateSession => some (decoded "title" (.updateSession id))
  | .deleteSession => some (.ok (.deleteSession id))
  | _ => none

/-- `hasPass, _ := s.store.HasPassword()` -/
def readsPassword (site : Site ω) (draws : Draws) : Bool :=
  !draws.hasPasswordFails && site.db.hasPassword

/-- A new session with its cookie. -/
def issue (site : Site ω) (draws : Draws) : Site ω × HttpResponse :=
  ({ site with auth := site.auth.createSession draws.token draws.now },
    ⟨200, some (.session draws.token), encode okDocument⟩)

/-- `AuthHandler.Setup` -/
def setup (site : Site ω) (draws : Draws) (body : Bytes) :
    Site ω × HttpResponse :=
  if site.readsPassword draws then
    (site, sendError 400 "password already configured")
  else
    let request := decodeField "password" body
    if request.failed || request.value = "" then
      (site, sendError 400 "password is required")
    else
      match draws.hash with
      | none => (site, sendError 500 "failed to hash password")
      | some hash =>
          if draws.storeFails.isSome then
            (site, sendError 500 "failed to save password")
          else
            { site with db := site.db.setPasswordHash hash }.issue draws

/-- `AuthHandler.Login` -/
def login (site : Site ω) (draws : Draws) (body : Bytes) :
    Site ω × HttpResponse :=
  let request := decodeField "password" body
  if request.failed || request.value = "" then
    (site, sendError 400 "password is required")
  else if draws.storeFails.isSome || site.db.getPasswordHash = "" then
    (site, sendError 401 "invalid credentials")
  else if machine.compareHash site.db.getPasswordHash request.value then
    site.issue draws
  else (site, sendError 401 "invalid credentials")

/-- `AuthHandler.Logout` -/
def logout (site : Site ω) (request : Auth.Request) : Site ω × HttpResponse :=
  let token := getTokenFromRequest request
  ({ site with
      auth := if token = "" then site.auth else site.auth.deleteSession token },
    ⟨200, some .cleared, encode okDocument⟩)

/-- `handleHealth` -/
def health (draws : Draws) : HttpResponse :=
  send 200 (.object
    ((if draws.permissionDenied then
        [("permissionMessage", .string ("Full Disk Access required. Go to " ++
          "System Settings > Privacy & Security > Full Disk Access and add " ++
          "lociterm (/usr/local/bin/lociterm)."))]
      else []) ++
      [("permissions", .bool !draws.permissionDenied), ("status", .string "ok")]))

/-- `AuthHandler.Check` -/
def check (site : Site ω) (draws : Draws) : HttpResponse :=
  send 200 (.object
    [("authenticated", .bool true),
      ("needsSetup", .bool !site.readsPassword draws)])

/-- A handler, behind `requireAuth` if it is wrapped in it. -/
def serve
    (site : Site ω)
    (draws : Draws)
    (endpoint : Endpoint)
    (values : List (String × String))
    (request : HttpRequest) : Site ω × HttpResponse :=
  match callOf endpoint values request.body with
  | some (.error response) => (site, response)
  | some (.ok call) => site.serveCall machine draws call
  | none =>
      match endpoint with
      | .health => (site, health draws)
      | .authCheck => (site, site.check draws)
      | .authSetup => site.setup draws request.body
      | .authLogin => site.login machine draws request.body
      | .authLogout => site.logout request.credentials
      | .webSocketTicket =>
          ({ site with
              auth := site.auth.createWebSocketTicket draws.ticket draws.now },
            send 200 (.object [("ticket", .string draws.ticket)]))
      | .upload =>
          let (world, response) := machine.upload site.db site.world
            ((values.lookup "id").getD "") request
          ({ site with world := world }, response)
      | .terminal =>
          let (world, response) := machine.terminal site.world
            ((values.lookup "sessionId").getD "") request
          ({ site with world := world }, response)
      | _ => (site, machine.frontend request)

/-- One request. -/
def handle (site : Site ω) (draws : Draws) (request : HttpRequest) :
    Site ω × HttpResponse :=
  let (endpoint, values) := route request.method request.path
  if endpoint.RequiresAuth then
    let (auth, passed) := Auth.requireAuth (site.readsPassword draws) site.auth
      request.credentials draws.now
    if passed then
      { site with auth := auth }.serve machine draws endpoint values request
    else ({ site with auth := auth }, unauthorized)
  else site.serve machine draws endpoint values request

end Site

/-- A machine on which nothing happens. -/
def idleMachine : Machine Unit where
  getCwd := fun _ _ => ""
  killSession := fun _ _ => ()
  upload := fun _ _ _ _ => ((), sendError 404 "session not found")
  terminal := fun _ _ _ => ((), ⟨400, none, []⟩)
  frontend := fun _ => ⟨200, none, []⟩
  compareHash := fun hash password => hash = "hash of " ++ password

/-- A moment at which everything works. -/
def calm (now : Nat) : Draws where
  now := now
  fresh := "id"
  token := "token"
  ticket := "ticket"
  hash := some "hash"
  hasPasswordFails := false
  storeFails := none
  maxOrderFails := false
  rereadFails := none
  listingFails := none
  permissionDenied := false

end Http
end LociTerm
