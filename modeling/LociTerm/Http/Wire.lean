import LociTerm.Http.Site
import LociTerm.Library.Run

/-!
# The API over HTTP

What the `api` object of the client sends, and what it reads of the answer.
Behind a live cookie, a conversation over HTTP is the conversation of the
records: what has been typed reaches the store, and what the store holds is what
the client finds.
-/

namespace LociTerm
namespace Http

open Json Store Client Auth

/-! ## What the client sends -/

/-- The calls of `api`, with texts as JavaScript has them. -/
inductive ApiCall
  | listWorkspaces
  | createWorkspace (name : List UInt16)
  | updateWorkspace (id : String) (name : List UInt16)
  | deleteWorkspace (id : String)
  | listSessions (workspaceId : String)
  | createSession (workspaceId : String) (title : Option (List UInt16))
  | updateSession (id : String) (title : List UInt16)
  | deleteSession (id : String)

/-- A JavaScript string as it reaches a reader without lone surrogates. -/
def received (units : List UInt16) : String :=
  String.ofList (Unicode.fromUtf16 units)

/-- `title || 'Terminal'` -/
def titleOr (title : Option (List UInt16)) : List UInt16 :=
  match title with
  | some (unit :: units) => unit :: units
  | some [] | none => Unicode.utf16 "Terminal".toList

namespace ApiCall

/-- The call on records. -/
def call : ApiCall → Call
  | .listWorkspaces => .listWorkspaces
  | .createWorkspace name => .createWorkspace (received name)
  | .updateWorkspace id name => .updateWorkspace id (received name)
  | .deleteWorkspace id => .deleteWorkspace id
  | .listSessions wid => .listSessions wid
  | .createSession wid title => .createSession wid (received (titleOr title))
  | .updateSession id title => .updateSession id (received title)
  | .deleteSession id => .deleteSession id

/-- `options.method`, with the default of `fetch`. -/
def method : ApiCall → String
  | .listWorkspaces | .listSessions _ => "GET"
  | .createWorkspace _ | .createSession _ _ => "POST"
  | .updateWorkspace _ _ | .updateSession _ _ => "PATCH"
  | .deleteWorkspace _ | .deleteSession _ => "DELETE"

/-- `${BASE}${path}` -/
def target : ApiCall → String
  | .listWorkspaces | .createWorkspace _ => "/api/v1/workspaces"
  | .updateWorkspace id _ | .deleteWorkspace id => "/api/v1/workspaces/" ++ id
  | .listSessions wid | .createSession wid _ =>
      "/api/v1/workspaces/" ++ wid ++ "/sessions"
  | .updateSession id _ | .deleteSession id => "/api/v1/sessions/" ++ id

/-- `options.body` -/
def body : ApiCall → Bytes
  | .createWorkspace name | .updateWorkspace _ name => fieldBody "name" name
  | .createSession _ title => fieldBody "title" (titleOr title)
  | .updateSession _ title => fieldBody "title" title
  | .listWorkspaces | .deleteWorkspace _ | .listSessions _
  | .deleteSession _ => []

end ApiCall

/-- The segments of a path. -/
def segments (path : String) : List String :=
  ((path.toList.splitOn '/').drop 1).map String.ofList

/-- The id is of letters, digits and hyphens, as `uuid` writes them, so that it
stands in a path as it is. -/
def PlainId (id : String) : Prop :=
  id ≠ "" ∧ ∀ c ∈ id.toList, c.isAlphanum = true ∨ c = '-'

instance (id : String) : Decidable (PlainId id) :=
  inferInstanceAs (Decidable (_ ∧ _))

/-- The ids that the call names are plain. -/
def ApiCall.Plain : ApiCall → Prop
  | .listWorkspaces | .createWorkspace _ => True
  | .updateWorkspace id _ | .deleteWorkspace id | .listSessions id
  | .createSession id _ | .updateSession id _ | .deleteSession id => PlainId id

/-- `fetch`, with the cookie of the browser. -/
def ApiCall.request (call : ApiCall) (credentials : Auth.Request) :
    HttpRequest :=
  ⟨call.method, segments call.target, credentials, call.body⟩

theorem segments_of_intercalate
    {path : String}
    {parts : List String}
    (written : path.toList = ['/'].intercalate ([] :: parts.map String.toList))
    (plain : ∀ part ∈ parts, '/' ∉ part.toList) :
    segments path = parts := by
  have split : path.toList.splitOn '/' = [] :: parts.map String.toList := by
    rw [written]
    refine List.splitOn_intercalate _ ?_ (by simp)
    intro part member
    rcases List.mem_cons.mp member with rfl | inside
    · simp
    · obtain ⟨text, known, rfl⟩ := List.mem_map.mp inside
      exact plain text known
  rw [segments, split, List.drop_succ_cons, List.drop_zero, List.map_map]
  have same : String.ofList ∘ String.toList = id := by
    funext text
    exact String.ofList_toList
  rw [same, List.map_id]

theorem PlainId.not_mem {id : String} (plain : PlainId id) :
    '/' ∉ id.toList := by
  intro member
  rcases plain.2 '/' member with letter | hyphen
  · exact absurd letter (by decide)
  · exact absurd hyphen (by decide)

theorem segments_workspaces :
    segments "/api/v1/workspaces" = ["api", "v1", "workspaces"] :=
  segments_of_intercalate (by simp [List.intercalate]) (by simp)

theorem segments_workspace {id : String} (plain : PlainId id) :
    segments ("/api/v1/workspaces/" ++ id) = ["api", "v1", "workspaces", id] :=
  segments_of_intercalate (by simp [List.intercalate])
    (by simp [plain.not_mem])

theorem segments_sessions {wid : String} (plain : PlainId wid) :
    segments ("/api/v1/workspaces/" ++ wid ++ "/sessions") =
      ["api", "v1", "workspaces", wid, "sessions"] :=
  segments_of_intercalate (by simp [List.intercalate])
    (by simp [plain.not_mem])

theorem segments_session {id : String} (plain : PlainId id) :
    segments ("/api/v1/sessions/" ++ id) = ["api", "v1", "sessions", id] :=
  segments_of_intercalate (by simp [List.intercalate])
    (by simp [plain.not_mem])

/-! ## How the server takes it -/

namespace ApiCall

/-- The handler of a call. -/
def endpoint : ApiCall → Endpoint
  | .listWorkspaces => .listWorkspaces
  | .createWorkspace _ => .createWorkspace
  | .updateWorkspace _ _ => .updateWorkspace
  | .deleteWorkspace _ => .deleteWorkspace
  | .listSessions _ => .listSessions
  | .createSession _ _ => .createSession
  | .updateSession _ _ => .updateSession
  | .deleteSession _ => .deleteSession

/-- `r.PathValue` for a call. -/
def values : ApiCall → List (String × String)
  | .listWorkspaces | .createWorkspace _ => []
  | .updateWorkspace id _ | .deleteWorkspace id | .updateSession id _
  | .deleteSession id => [("id", id)]
  | .listSessions wid | .createSession wid _ => [("wid", wid)]

/-- The path of a call, below `/api/v1`. -/
def path : ApiCall → List String
  | .listWorkspaces | .createWorkspace _ => ["workspaces"]
  | .updateWorkspace id _ | .deleteWorkspace id => ["workspaces", id]
  | .listSessions wid | .createSession wid _ => ["workspaces", wid, "sessions"]
  | .updateSession id _ | .deleteSession id => ["sessions", id]

/-- The pattern of the handler of a call. -/
def pattern : ApiCall → List Mux.Segment
  | .listWorkspaces | .createWorkspace _ => [.literal "workspaces"]
  | .updateWorkspace _ _ | .deleteWorkspace _ =>
      [.literal "workspaces", .wildcard "id"]
  | .listSessions _ | .createSession _ _ =>
      [.literal "workspaces", .wildcard "wid", .literal "sessions"]
  | .updateSession _ _ | .deleteSession _ =>
      [.literal "sessions", .wildcard "id"]

theorem requiresAuth (call : ApiCall) : call.endpoint.RequiresAuth := by
  cases call <;> trivial

theorem segments_target {call : ApiCall} (plain : call.Plain) :
    segments call.target = "api" :: "v1" :: call.path := by
  cases call with
  | listWorkspaces | createWorkspace name => exact segments_workspaces
  | updateWorkspace id name | deleteWorkspace id =>
      exact segments_workspace plain
  | listSessions wid | createSession wid title => exact segments_sessions plain
  | updateSession id title | deleteSession id => exact segments_session plain

theorem registered (call : ApiCall) :
    (api (some call.method) call.pattern, call.endpoint) ∈ table := by
  cases call <;> simp only [method, pattern, endpoint] <;> decide +kernel

theorem matchPath_path {call : ApiCall} (plain : call.Plain) :
    Mux.matchPath false call.pattern call.path = some call.values := by
  cases call with
  | listWorkspaces | createWorkspace name => rfl
  | updateWorkspace id name | deleteWorkspace id | listSessions id
  | createSession id title | updateSession id title | deleteSession id =>
      simp [pattern, path, values, Mux.matchPath, plain.1]

end ApiCall

/-- A call reaches its handler. -/
theorem route_request
    {call : ApiCall}
    (plain : call.Plain)
    (credentials : Auth.Request) :
    route (call.request credentials).method (call.request credentials).path =
      (call.endpoint, call.values) := by
  simp only [ApiCall.request, ApiCall.segments_target plain]
  have own : call.endpoint ≠ .frontend := by
    cases call <;> simp [ApiCall.endpoint]
  refine route_of_matches call.registered own ?_
  simp [api, Mux.Pattern.values, Mux.acceptsMethod, Mux.matchPath,
    ApiCall.matchPath_path plain]

/-- The handler decodes what has been called. -/
theorem callOf_request (call : ApiCall) (credentials : Auth.Request) :
    Site.callOf call.endpoint call.values (call.request credentials).body =
      some (.ok call.call) := by
  have decoded (field : String) (text : List UInt16) :
      decodeField field (fieldBody field text) = ⟨received text, false⟩ := by
    have read := decodeField_fieldBody field text []
    rwa [List.append_nil] at read
  cases call <;>
    simp [ApiCall.request, ApiCall.body, ApiCall.endpoint, ApiCall.values,
      Site.callOf, decoded, ApiCall.call]

/-! ## What the client reads -/

/-- `res.json()`, as the callers of `api` take it: an object with an `error` or
what they expect. -/
def readResponse {α : Type} (read : Value → Option α) (response : HttpResponse) :
    Option (Response α) :=
  (parseJSON response.body).bind fun value =>
    match textProperty "error" value with
    | some message => some (writeError response.status message)
    | none => (read value).map (writeJSON response.status)

/-- What the client finds in an array. -/
def readList {α : Type} (read : Value → Option α) : Value → Option (List α)
  | .array elements => elements.mapM read
  | _ => none

/-- What the client finds in the list of workspaces; the ids are a primary
key. -/
def readWorkspaceList (value : Value) : Option WorkspaceList :=
  (readList readWorkspace value).bind fun rows =>
    if nodup : (rows.map (·.id)).Nodup then some ⟨rows, nodup⟩ else none

/-- Nobody looks at the object. -/
def readDone : Value → Option Unit
  | .object _ => some ()
  | _ => none

/-- What the client makes of the answer to a call. -/
def readReply (response : HttpResponse) : Call → Option Reply
  | .listWorkspaces =>
      (readResponse readWorkspaceList response).map .workspaceList
  | .createWorkspace _ | .updateWorkspace _ _ =>
      (readResponse readWorkspace response).map .workspace
  | .listSessions _ =>
      (readResponse (readList readSession) response).map .sessionList
  | .createSession _ _ | .updateSession _ _ =>
      (readResponse readSession response).map .session
  | .deleteWorkspace _ | .deleteSession _ =>
      (readResponse readDone response).map .done

/-- The reply is of the kind that the call expects. -/
def Answers : Call → Reply → Prop
  | .listWorkspaces, .workspaceList _ => True
  | .createWorkspace _, .workspace _ | .updateWorkspace _ _, .workspace _ =>
      True
  | .listSessions _, .sessionList _ => True
  | .createSession _ _, .session _ | .updateSession _ _, .session _ => True
  | .deleteWorkspace _, .done _ | .deleteSession _, .done _ => True
  | _, _ => False

/-- What has been written is read. -/
theorem readResponse_respond
    {α : Type}
    {write : α → Document String}
    {read : Value → Option α}
    (shallow : ∀ value, (write value).depth ≤ 2)
    (noError : ∀ value,
      textProperty "error" ((write value).value goQuoting) = none)
    (reads : ∀ value, read ((write value).value goQuoting) = some value)
    (response : Response α) :
    readResponse read (respond write response) = some response := by
  obtain ⟨status, body⟩ := response
  cases body with
  | ok value =>
      simp [readResponse, respond, send, parseJSON_encode (shallow value),
        noError, reads, writeJSON]
  | error message =>
      have parsed : parseJSON (encode (errorDocument message)) = _ :=
        parseJSON_encode (by
          simp [errorDocument, Document.depth, Document.depthMembers])
      have found : textProperty "error"
          ((errorDocument message).value goQuoting) = some message := by
        simp [errorDocument, Document.value, Document.valueMembers, goQuoting,
          textProperty, property]
      simp [readResponse, respond, sendError, send, parsed, found, writeError]

theorem depth_workspaceDocument (workspace : Client.Workspace) :
    (workspaceDocument workspace).depth = 1 := by
  simp [workspaceDocument, Document.depth, Document.depthMembers]

theorem depth_sessionDocument (session : Client.Session) :
    (sessionDocument session).depth = 1 := by
  obtain ⟨id, workspaceId, title, shell, cwd, sortOrder, createdAt,
    updatedAt⟩ := session
  cases shell <;> cases cwd <;>
    simp [sessionDocument, omitted, Document.depth, Document.depthMembers]

theorem depth_array_map
    {α : Type}
    {write : α → Document String}
    (flat : ∀ value, (write value).depth = 1)
    (values : List α) :
    (Document.array (values.map write)).depth ≤ 2 := by
  have inside : Document.depthElements (values.map write) ≤ 1 := by
    induction values with
    | nil => simp [Document.depthElements]
    | cons value values inductionHypothesis =>
        simp [Document.depthElements, flat value, inductionHypothesis]
  rw [Document.depth]
  omega

theorem value_array_map
    {α : Type}
    (write : α → Document String)
    (values : List α) :
    (Document.array (values.map write)).value goQuoting =
      .array (values.map fun value => (write value).value goQuoting) := by
  have elements : Document.valueElements goQuoting (values.map write) =
      values.map fun value => (write value).value goQuoting := by
    induction values with
    | nil => rfl
    | cons value values inductionHypothesis =>
        simp [Document.valueElements, inductionHypothesis]
  rw [Document.value, elements]

theorem readList_map
    {α : Type}
    {write : α → Document String}
    {read : Value → Option α}
    (reads : ∀ value, read ((write value).value goQuoting) = some value)
    (values : List α) :
    readList read ((Document.array (values.map write)).value goQuoting) =
      some values := by
  rw [value_array_map, readList]
  induction values with
  | nil => rfl
  | cons value values inductionHypothesis =>
      simp [List.mapM_cons, reads, inductionHypothesis]

/-- Every reply is read as it was meant. -/
theorem readReply_respondReply
    {call : Call}
    {reply : Reply}
    (answers : Answers call reply) :
    readReply (respondReply reply) call = some reply := by
  have noErrorArray {α : Type} (write : α → Document String)
      (values : List α) : textProperty "error"
        ((Document.array (values.map write)).value goQuoting) = none := by
    rw [value_array_map]
    rfl
  have noErrorWorkspace (workspace : Client.Workspace) :
      textProperty "error"
        ((workspaceDocument workspace).value goQuoting) = none := by
    simp [workspaceDocument, Document.value, Document.valueMembers, goQuoting,
      textProperty, property]
  have noErrorSession (session : Client.Session) :
      textProperty "error"
        ((sessionDocument session).value goQuoting) = none := by
    obtain ⟨id, workspaceId, title, shell, cwd, sortOrder, createdAt,
      updatedAt⟩ := session
    cases shell <;> cases cwd <;>
      simp [sessionDocument, omitted, Document.value, Document.valueMembers,
        goQuoting, textProperty, property]
  have workspaceList (response : Response WorkspaceList) :
      readResponse readWorkspaceList (respondReply (.workspaceList response)) =
        some response := by
    refine readResponse_respond
      (fun list => depth_array_map depth_workspaceDocument list.rows)
      (fun list => noErrorArray workspaceDocument list.rows)
      (fun list => ?_) response
    rw [readWorkspaceList, readList_map readWorkspace_document,
      Option.bind_some, dif_pos list.nodup]
  have workspace (response : Response Client.Workspace) :
      readResponse readWorkspace (respondReply (.workspace response)) =
        some response :=
    readResponse_respond
      (fun row => by rw [depth_workspaceDocument]; decide)
      noErrorWorkspace readWorkspace_document response
  have sessionList (response : Response (List Client.Session)) :
      readResponse (readList readSession)
        (respondReply (.sessionList response)) = some response :=
    readResponse_respond (depth_array_map depth_sessionDocument)
      (noErrorArray sessionDocument) (readList_map readSession_document)
      response
  have session (response : Response Client.Session) :
      readResponse readSession (respondReply (.session response)) =
        some response :=
    readResponse_respond (fun row => by rw [depth_sessionDocument]; decide)
      noErrorSession readSession_document response
  have done (response : Response Unit) :
      readResponse readDone (respondReply (.done response)) =
        some response :=
    readResponse_respond
      (fun _ => by simp [okDocument, Document.depth, Document.depthMembers])
      (fun _ => by
        simp [okDocument, Document.value, Document.valueMembers, goQuoting,
          textProperty, property])
      (fun _ => rfl) response
  cases call <;> cases reply <;>
    first
      | exact absurd answers id
      | simp [readReply, workspaceList, workspace, sessionList, session, done]

/-! ## A conversation -/

variable {ω : Type} (machine : Machine ω)

namespace Site

theorem answers_served (site : Site ω) (draws : Draws) (call : Call) :
    Answers call (site.served machine draws call).2 := by
  unfold served
  cases draws.maxOrderFails with
  | false => cases call <;> trivial
  | true =>
      rw [if_pos rfl]
      cases call with
      | createWorkspace name =>
          simp only [answerUnordered]
          split
          · trivial
          · unfold insertedWorkspace
            split <;> trivial
      | createSession wid title =>
          simp only [answerUnordered, insertedSession]
          split <;> trivial
      | listWorkspaces | updateWorkspace _ _ | deleteWorkspace _
      | listSessions _ | updateSession _ _ | deleteSession _ => trivial

theorem answers_answer (site : Site ω) (draws : Draws) (call : Call) :
    Answers call (site.answer machine draws call).2 := by
  have failed (status : Nat) (message : String) :
      Answers call (failure status message call) := by
    cases call <;> trivial
  have served := site.answers_served machine draws call
  unfold answer
  dsimp only
  split
  · exact served
  · split
    · exact failed 500 _
    · split
      · exact served
      · split
        · exact failed 500 _
        · exact served

/-- A call on the records. -/
def converse (site : Site ω) (exchange : Draws × ApiCall) :
    Site ω × Option Reply :=
  ((site.serveCall machine exchange.1 exchange.2.call).1,
    some (site.answer machine exchange.1 exchange.2.call).2)

/-- The same call over HTTP. -/
def talk
    (credentials : Auth.Request)
    (site : Site ω)
    (exchange : Draws × ApiCall) : Site ω × Option Reply :=
  let (next, response) :=
    site.handle machine exchange.1 (exchange.2.request credentials)
  (next, readReply response exchange.2.call)

/-- A token that has not expired opens the gate, and nothing changes there. -/
theorem requireAuth_of_live
    {site : Site ω}
    {credentials : Auth.Request}
    {expiry : Nat}
    (nonempty : getTokenFromRequest credentials ≠ "")
    (entry : site.auth.sessions.get? (getTokenFromRequest credentials) =
      some expiry)
    {draws : Draws}
    (young : draws.now ≤ expiry) :
    requireAuth (site.readsPassword draws) site.auth credentials draws.now =
      (site.auth, true) := by
  have fresh : Manager.after draws.now expiry = false := by
    simp [Manager.after, young]
  cases stored : site.readsPassword draws with
  | false => rfl
  | true =>
      simp [requireAuth, checkSession, nonempty, Manager.validateSession,
        Manager.lookupSession, entry, fresh]

theorem talk_eq_converse
    {site : Site ω}
    {credentials : Auth.Request}
    {expiry : Nat}
    (nonempty : getTokenFromRequest credentials ≠ "")
    (entry : site.auth.sessions.get? (getTokenFromRequest credentials) =
      some expiry)
    {exchange : Draws × ApiCall}
    (young : exchange.1.now ≤ expiry)
    (plain : exchange.2.Plain) :
    site.talk machine credentials exchange = site.converse machine exchange := by
  obtain ⟨draws, call⟩ := exchange
  have opens := requireAuth_of_live nonempty entry young
  have routed := route_request plain credentials
  have taken := callOf_request call credentials
  have handled :
      site.handle machine draws (call.request credentials) =
        site.serveCall machine draws call.call := by
    have same : (call.request credentials).credentials = credentials := rfl
    rw [handle, routed]
    simp only [if_pos call.requiresAuth, same, opens, if_true, serve, taken]
  rw [talk, handled, converse]
  simp only [serveCall]
  rw [readReply_respondReply (site.answers_answer machine draws call.call)]

/-- The token lives as long as the calls last, and their ids are plain. -/
structure Converses
    (credentials : Auth.Request)
    (expiry : Nat)
    (site : Site ω)
    (exchanges : List (Draws × ApiCall)) : Prop where
  entry : site.auth.sessions.get? (getTokenFromRequest credentials) =
    some expiry
  young : ∀ exchange ∈ exchanges, exchange.1.now ≤ expiry
  plain : ∀ exchange ∈ exchanges, exchange.2.Plain

/-- A conversation of the client with the server over HTTP is the conversation
on records, as long as the cookie is live. -/
theorem conversation
    {site : Site ω}
    {credentials : Auth.Request}
    {expiry : Nat}
    {exchanges : List (Draws × ApiCall)}
    (nonempty : getTokenFromRequest credentials ≠ "")
    (converses : site.Converses credentials expiry exchanges) :
    (perform (talk machine credentials) site exchanges).2 =
        (perform (converse machine) site exchanges).2 ∧
      (perform (talk machine credentials) site exchanges).1 =
        (perform (converse machine) site exchanges).1 := by
  have simulates : ∀ (site other : Site ω) exchange exchanges,
      site.Converses credentials expiry (exchange :: exchanges) →
      site = other →
      (site.talk machine credentials exchange).2 =
          (other.converse machine exchange).2 ∧
        (site.talk machine credentials exchange).1 =
          (other.converse machine exchange).1 ∧
        (site.talk machine credentials exchange).1.Converses credentials
          expiry exchanges := by
    rintro site _ exchange exchanges converses rfl
    have one := talk_eq_converse machine nonempty converses.entry
      (converses.young exchange List.mem_cons_self)
      (converses.plain exchange List.mem_cons_self)
    rw [one]
    exact ⟨rfl, rfl, converses.entry,
      fun other member =>
        converses.young other (List.mem_cons_of_mem exchange member),
      fun other member =>
        converses.plain other (List.mem_cons_of_mem exchange member)⟩
  exact perform_simulates simulates converses rfl

/-- A workspace with a lone surrogate in its name is created, renamed and
listed. -/
def naming : List (Draws × ApiCall) :=
  [(calm 1, .createWorkspace [104, 0xD83D, 105]),
    (calm 2, .updateWorkspace "id" [0xD55C, 34, 0xD83D, 0xDE00]),
    (calm 3, .listWorkspaces)]

/-- A server that has issued a token. -/
def signedIn : Site Unit :=
  ⟨⟨[], [], some "hash"⟩, Manager.new.createSession "token" 0, ()⟩

theorem conversation_naming :
    (perform (talk idleMachine ⟨[("lociterm_session", "token")], "", "", []⟩)
        signedIn naming).2 =
      (perform (converse idleMachine) signedIn naming).2 :=
  (conversation idleMachine (by decide)
    (⟨rfl, by simp [naming, calm, sessionLifetime], by
      intro exchange member
      simp only [naming, List.mem_cons, List.not_mem_nil, or_false] at member
      rcases member with rfl | rfl | rfl
      · exact trivial
      · exact ⟨by decide, forall_mem_of_all (by decide)⟩
      · exact trivial⟩ :
      signedIn.Converses _ sessionLifetime naming)).1

end Site
end Http
end LociTerm
