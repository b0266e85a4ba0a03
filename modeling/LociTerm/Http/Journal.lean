import LociTerm.Http.Isolation
import LociTerm.Http.Wire

/-!
# What the answers tell of the tables

Whoever sees all requests and the answers to them, and nothing else, knows what
is stored: an answer in the two hundreds to a call that writes tells the row as
it is now, every other answer tells that nothing has changed, and the lists are
those rows in the order of the two `ORDER BY` clauses.
-/

namespace LociTerm
namespace Http

open Store Client Api

/-- The two tables as a client may see them. -/
structure Picture where
  workspaces : List Client.Workspace
  sessions : List Client.Session
  deriving DecidableEq

namespace Picture

/-- What the answer to a call tells. -/
def note (picture : Picture) : Call → Reply → Picture
  | .createWorkspace _, .workspace ⟨_, .ok row⟩ =>
      { picture with workspaces := picture.workspaces ++ [row] }
  | .updateWorkspace id _, .workspace ⟨_, .ok row⟩ =>
      { picture with
        workspaces := picture.workspaces.map fun other =>
          if other.id = id then row else other }
  | .deleteWorkspace id, .done ⟨_, .ok _⟩ =>
      { workspaces := picture.workspaces.filter (·.id ≠ id)
        sessions := picture.sessions.filter (·.workspaceId ≠ id) }
  | .createSession _ _, .session ⟨_, .ok row⟩ =>
      { picture with sessions := picture.sessions ++ [row] }
  | .updateSession id _, .session ⟨_, .ok row⟩ =>
      { picture with
        sessions := picture.sessions.map fun other =>
          if other.id = id then row else other }
  | .deleteSession id, .done ⟨_, .ok _⟩ =>
      { picture with sessions := picture.sessions.filter (·.id ≠ id) }
  | _, _ => picture

end Picture

/-- The moment of a time stamp. -/
def instant (stamp : String) : Nat := Nat.ofDigitChars 10 stamp.toList 0

/-- The `ORDER BY` of both lists, on the sort orders and time stamps that the
records show. -/
def ListedBefore (left right : Int × String) : Prop :=
  left.1 < right.1 ∨ left.1 = right.1 ∧ instant left.2 ≤ instant right.2

instance : DecidableRel ListedBefore :=
  fun _ _ => inferInstanceAs (Decidable (_ ∨ _))

namespace Picture

/-- The list of workspaces that the server is expected to send. -/
def listWorkspaces (picture : Picture) : List Client.Workspace :=
  picture.workspaces.insertionSort fun left right =>
    ListedBefore (left.sortOrder, left.createdAt)
      (right.sortOrder, right.createdAt)

/-- The list of a workspace's sessions that the server is expected to send,
apart from their directories. -/
def listSessions (picture : Picture) (wid : String) : List Client.Session :=
  (picture.sessions.filter (·.workspaceId = wid)).insertionSort
    fun left right =>
      ListedBefore (left.sortOrder, left.createdAt)
        (right.sortOrder, right.createdAt)

/-- The lists that the server sends are those of the picture. -/
def Foretells (picture : Picture) : Call → Reply → Prop
  | .listWorkspaces, .workspaceList ⟨_, .ok list⟩ =>
      list.rows = picture.listWorkspaces
  | .listSessions wid, .sessionList ⟨_, .ok rows⟩ =>
      rows.map (fun row => { row with cwd := none }) =
        picture.listSessions wid
  | _, _ => True

end Picture

/-- What the tables hold. -/
def picture (db : Database) : Picture :=
  ⟨db.workspaces.map workspaceJSON, db.sessions.map (sessionJSON "")⟩

/-! ## Rows that are updated -/

section Rows

variable {α β : Type} {key : α → String} {change : α → α} {id : String}

/-- `UPDATE … WHERE id = ?` -/
def updated (key : α → String) (change : α → α) (id : String) (rows : List α) :
    List α :=
  rows.map fun row => if key row = id then change row else row

/-- A row that is not found after an update has not been there. -/
theorem updated_of_missing
    (keeps : ∀ row, key (change row) = key row)
    {rows : List α}
    (missing : (updated key change id rows).find? (key · = id) = none) :
    updated key change id rows = rows := by
  rw [List.find?_eq_none] at missing
  have absent : ∀ row ∈ rows, key row ≠ id := by
    intro row member here
    have changed : change row ∈ updated key change id rows :=
      List.mem_map.mpr ⟨row, member, if_pos here⟩
    have different := missing (change row) changed
    simp only [decide_eq_true_eq, keeps] at different
    exact different here
  calc updated key change id rows
    _ = rows.map fun row => row :=
        List.map_congr_left fun row member => if_neg (absent row member)
    _ = rows := List.map_id' rows

/-- The row that is found after an update is the one that has changed. -/
theorem updated_of_found
    {rows : List α}
    (unique : (rows.map key).Nodup)
    {row : α}
    (found : (updated key change id rows).find? (key · = id) = some row)
    {view : α → β}
    {viewKey : β → String}
    (viewed : ∀ row, viewKey (view row) = key row) :
    (updated key change id rows).map view =
      (rows.map view).map fun other =>
        if viewKey other = id then view row else other := by
  obtain ⟨original, member, same⟩ :=
    List.mem_map.mp (List.mem_of_find?_eq_some found)
  have named : key row = id := by simpa using List.find?_some found
  have here : key original = id := by
    by_contra elsewhere
    rw [if_neg elsewhere] at same
    exact elsewhere (same ▸ named)
  rw [if_pos here] at same
  rw [updated, List.map_map, List.map_map]
  refine List.map_congr_left fun other inside => ?_
  simp only [Function.comp_apply, viewed]
  split
  · next also =>
      have only := List.inj_on_of_nodup_map unique inside member
        (also.trans here.symm)
      rw [only, same]
  · rfl

/-- A row with a new key is found behind the others. -/
theorem find?_concat_of_new
    {rows : List α}
    (absent : ¬rows.any (fun row => key row == id) = true)
    {row : α}
    (named : key row = id) :
    (rows ++ [row]).find? (key · = id) = some row := by
  have missing : rows.find? (key · = id) = none := by
    rw [List.find?_eq_none]
    intro other member same
    refine absent (List.any_eq_true.mpr ⟨other, member, ?_⟩)
    simpa using same
  rw [List.find?_append, missing]
  simp [named]

end Rows

/-! ## The lists -/

theorem instant_repr (moment : Nat) : instant moment.repr = moment := by
  simp [instant]

theorem listWorkspaces_picture (db : Database) :
    (picture db).listWorkspaces = db.listWorkspaces.map workspaceJSON := by
  refine (List.map_insertionSort _ _ workspaceJSON db.workspaces
    fun left _ right _ => ?_).symm
  simp [Database.WorkspaceSortedBefore, ListedBefore, workspaceJSON,
    instant_repr]

theorem listSessions_picture (db : Database) (wid : String) :
    (picture db).listSessions wid =
      (db.listSessions wid).map (sessionJSON "") := by
  have sorted := List.map_insertionSort Database.SortedBefore
    (fun left right : Client.Session =>
      ListedBefore (left.sortOrder, left.createdAt)
        (right.sortOrder, right.createdAt))
    (sessionJSON "") (db.sessions.filter (·.workspaceID = wid))
    fun left _ right _ => by
      simp [Database.SortedBefore, ListedBefore, sessionJSON, instant_repr]
  rw [Database.listSessions, sorted, Picture.listSessions, picture,
    List.filter_map]
  rfl

/-! ## One call -/

section Calls

variable {db : Database} {supply : Supply}

/-- The answer tells what has become of the tables. -/
def Tells (db : Database) (call : Call) (answered : Database × Reply) : Prop :=
  answered.1.Keyed ∧
    picture answered.1 = (picture db).note call answered.2 ∧
    (picture db).Foretells call answered.2

/-- An error tells that nothing has changed. -/
theorem tells_failure
    (keyed : db.Keyed)
    (status : Nat)
    (message : String)
    (call : Call) :
    Tells db call (db, Http.failure status message call) := by
  cases call <;> exact ⟨keyed, rfl, trivial⟩

theorem tells_listWorkspaces (keyed : db.Keyed) :
    Tells db .listWorkspaces (answer db supply .listWorkspaces) := by
  refine ⟨keyed, rfl, ?_⟩
  simp only [answer, listWorkspaces]
  split
  · exact (listWorkspaces_picture db).symm
  · trivial

theorem tells_listSessions (keyed : db.Keyed) (wid : String) :
    Tells db (.listSessions wid) (answer db supply (.listSessions wid)) := by
  refine ⟨keyed, rfl, ?_⟩
  change ((db.listSessions wid).map _).map _ = (picture db).listSessions wid
  rw [listSessions_picture, List.map_map]
  rfl

/-- Whatever order the row has that is inserted. -/
theorem tells_insertedWorkspace
    (keyed : db.Keyed)
    (name : String)
    (row : Store.Workspace) :
    Tells db (.createWorkspace name) (insertedWorkspace db row) := by
  unfold insertedWorkspace
  cases inserted : db.insertWorkspace row with
  | none => exact ⟨keyed, rfl, trivial⟩
  | some next =>
      rw [Database.insertWorkspace, Option.ite_none_left_eq_some] at inserted
      obtain ⟨absent, ⟨⟩⟩ := inserted
      exact ⟨keyed.createWorkspace (by simpa using absent),
        by simp [picture, Picture.note, writeJSON], trivial⟩

theorem tells_insertedSession
    (keyed : db.Keyed)
    (wid title : String)
    (row : Store.Session) :
    Tells db (.createSession wid title) (insertedSession db row) := by
  unfold insertedSession
  cases inserted : db.insertSession row with
  | none => exact ⟨keyed, rfl, trivial⟩
  | some next =>
      rw [Database.insertSession, Option.ite_none_left_eq_some] at inserted
      obtain ⟨allowed, ⟨⟩⟩ := inserted
      simp only [Bool.or_eq_true, List.any_eq_true, beq_iff_eq,
        Bool.not_eq_true', not_or, not_exists, not_and,
        Bool.not_eq_false] at allowed
      exact ⟨keyed.createSession allowed.1 allowed.2,
        by simp [picture, Picture.note, writeJSON], trivial⟩

/-- A create of a workspace inserts the row that it answers with. -/
theorem answer_createWorkspace_eq_inserted
    {name : String}
    (named : name ≠ "") :
    answer db supply (.createWorkspace name) =
      insertedWorkspace db
        { id := supply.fresh
          name := name
          sortOrder := Database.maxOrder (db.workspaces.map (·.sortOrder)) + 1
          createdAt := supply.now
          updatedAt := supply.now } := by
  simp only [answer, createWorkspace, if_neg named,
    Database.createWorkspace_eq_insert, insertedWorkspace]
  cases inserted : db.insertWorkspace _ with
  | none => rfl
  | some next =>
      rw [Database.insertWorkspace, Option.ite_none_left_eq_some] at inserted
      obtain ⟨absent, ⟨⟩⟩ := inserted
      simp only [Database.getWorkspace, find?_concat_of_new absent]

/-- A create of a session inserts the row that it answers with. -/
theorem answer_createSession_eq_inserted (wid title : String) :
    answer db supply (.createSession wid title) =
      insertedSession db
        { id := supply.fresh
          workspaceID := wid
          title := if title = "" then "Terminal" else title
          shell := ""
          sortOrder := Database.maxOrder
            ((db.sessions.filter (·.workspaceID = wid)).map (·.sortOrder)) + 1
          createdAt := supply.now
          updatedAt := supply.now } := by
  simp only [answer, create, Database.createSession_eq_insert, insertedSession]
  cases inserted : db.insertSession _ with
  | none => rfl
  | some next =>
      rw [Database.insertSession, Option.ite_none_left_eq_some] at inserted
      obtain ⟨refused, ⟨⟩⟩ := inserted
      have absent : ¬db.sessions.any (·.id == supply.fresh) = true :=
        fun present => refused (by simp [present])
      simp only [Database.getSession, find?_concat_of_new absent]

theorem tells_createWorkspace (keyed : db.Keyed) (name : String) :
    Tells db (.createWorkspace name)
      (answer db supply (.createWorkspace name)) := by
  by_cases named : name = ""
  · simp only [answer, createWorkspace, if_pos named]
    exact ⟨keyed, rfl, trivial⟩
  · rw [answer_createWorkspace_eq_inserted named]
    exact tells_insertedWorkspace keyed name _

theorem tells_createSession (keyed : db.Keyed) (wid title : String) :
    Tells db (.createSession wid title)
      (answer db supply (.createSession wid title)) := by
  rw [answer_createSession_eq_inserted]
  exact tells_insertedSession keyed wid title _

theorem tells_updateWorkspace (keyed : db.Keyed) (id name : String) :
    Tells db (.updateWorkspace id name)
      (answer db supply (.updateWorkspace id name)) := by
  let change : Store.Workspace → Store.Workspace := fun row =>
    { row with name := name, updatedAt := supply.now }
  let next : Database :=
    { db with workspaces := updated (·.id) change id db.workspaces }
  have kept : next.Keyed := keyed.updateWorkspace id name supply.now
  have updates : db.updateWorkspace id name supply.now =
      (next, next.workspaces.find? (·.id = id)) := rfl
  simp only [answer, updateWorkspace, updates]
  split
  · exact ⟨keyed, rfl, trivial⟩
  · cases found : next.workspaces.find? (·.id = id) with
    | none =>
        have same : next.workspaces = db.workspaces :=
          updated_of_missing
            (fun row => (rfl : (change row).id = row.id)) found
        refine ⟨kept, ?_, trivial⟩
        change Picture.mk (next.workspaces.map _) _ = _
        rw [same]
        rfl
    | some row =>
        have seen := updated_of_found keyed.workspaceIds found
          (fun row => (rfl : (workspaceJSON row).id = row.id))
        refine ⟨kept, ?_, trivial⟩
        change Picture.mk (next.workspaces.map workspaceJSON) _ = _
        rw [seen]
        rfl

theorem tells_updateSession (keyed : db.Keyed) (id title : String) :
    Tells db (.updateSession id title)
      (answer db supply (.updateSession id title)) := by
  let change : Store.Session → Store.Session := fun row =>
    { row with title := title, updatedAt := supply.now }
  let next : Database :=
    { db with sessions := updated (·.id) change id db.sessions }
  have kept : next.Keyed := keyed.updateSession id title supply.now
  have updates : db.updateSession id title supply.now =
      (next, next.sessions.find? (·.id = id)) := rfl
  simp only [answer, update, updates]
  cases found : next.sessions.find? (·.id = id) with
  | none =>
      have same : next.sessions = db.sessions :=
        updated_of_missing
          (fun row => (rfl : (change row).id = row.id)) found
      refine ⟨kept, ?_, trivial⟩
      change Picture.mk _ (next.sessions.map _) = _
      rw [same]
      rfl
  | some row =>
      have seen := updated_of_found keyed.sessionIds found
        (fun row => (rfl : (sessionJSON "" row).id = row.id))
      refine ⟨kept, ?_, trivial⟩
      change Picture.mk _ (next.sessions.map (sessionJSON "")) = _
      rw [seen]
      rfl

theorem tells_deleteWorkspace (keyed : db.Keyed) (id : String) :
    Tells db (.deleteWorkspace id)
      (answer db supply (.deleteWorkspace id)) := by
  refine ⟨keyed.deleteWorkspace id, ?_, trivial⟩
  simp only [answer, deleteWorkspace, picture, Database.deleteWorkspace,
    writeJSON, Picture.note, List.filter_map]
  rfl

theorem tells_deleteSession (keyed : db.Keyed) (id : String) :
    Tells db (.deleteSession id) (answer db supply (.deleteSession id)) := by
  refine ⟨keyed.deleteSession id, ?_, trivial⟩
  simp only [answer, delete, picture, Database.deleteSession, writeJSON,
    Picture.note, List.filter_map]
  rfl

/-- Every answer tells what has become of the tables. -/
theorem tells_answer (keyed : db.Keyed) (call : Call) :
    Tells db call (answer db supply call) := by
  cases call with
  | listWorkspaces => exact tells_listWorkspaces keyed
  | createWorkspace name => exact tells_createWorkspace keyed name
  | updateWorkspace id name => exact tells_updateWorkspace keyed id name
  | deleteWorkspace id => exact tells_deleteWorkspace keyed id
  | listSessions wid => exact tells_listSessions keyed wid
  | createSession wid title => exact tells_createSession keyed wid title
  | updateSession id title => exact tells_updateSession keyed id title
  | deleteSession id => exact tells_deleteSession keyed id

/-- A create that has not read the greatest order tells its row no less. -/
theorem tells_answerUnordered (keyed : db.Keyed) (call : Call) :
    Tells db call (answerUnordered db supply call) := by
  have answered : Tells db call (answer db supply call) :=
    tells_answer keyed call
  cases call with
  | createWorkspace name =>
      simp only [answerUnordered]
      split
      · exact ⟨keyed, rfl, trivial⟩
      · exact tells_insertedWorkspace keyed name _
  | createSession wid title => exact tells_insertedSession keyed wid title _
  | listWorkspaces | updateWorkspace _ _ | deleteWorkspace _ | listSessions _
  | updateSession _ _ | deleteSession _ => exact answered

end Calls

/-! ## One request -/

/-- The call that a request asks for. -/
def requested (request : HttpRequest) : Option Call :=
  let (endpoint, values) := route request.method request.path
  match Site.callOf endpoint values request.body with
  | some (.ok call) => some call
  | some (.error _) | none => none

/-- The call that a request asks for and the reply that it gets. -/
def heard (entry : HttpRequest × HttpResponse) : Option (Call × Reply) :=
  (requested entry.1).bind fun call =>
    (readReply entry.2 call).map fun reply => (call, reply)

namespace Picture

/-- What somebody learns who sees a request with its answer. -/
def observe
    (picture : Picture)
    (entry : HttpRequest × HttpResponse) : Picture :=
  match heard entry with
  | some (call, reply) => picture.note call reply
  | none => picture

/-- The answer is none that the picture contradicts. -/
def Expects (picture : Picture) (entry : HttpRequest × HttpResponse) : Prop :=
  ∀ call reply, heard entry = some (call, reply) →
    picture.Foretells call reply

end Picture

variable {ω : Type} (machine : Machine ω)

namespace Site

theorem tells_served
    {site : Site ω}
    (keyed : site.db.Keyed)
    (draws : Draws)
    (call : Call) :
    Tells site.db call (site.served machine draws call) := by
  unfold served
  split
  · exact tells_answerUnordered keyed call
  · exact Http.tells_answer keyed call

/-- Failures of the store included, if rows that have been updated can be
read. -/
theorem tells_answer
    {site : Site ω}
    (keyed : site.db.Keyed)
    {draws : Draws}
    (rereads : draws.rereadFails = none)
    (call : Call) :
    Tells site.db call (site.answer machine draws call) := by
  have served := site.tells_served machine keyed draws call
  unfold answer
  simp only [rereads]
  split
  · exact served
  · split
    · exact tells_failure keyed 500 _ call
    · exact served

/-- The request has been answered as an observer expects, and tells him what
has become of the tables. -/
def Truthful
    (site : Site ω)
    (request : HttpRequest)
    (answered : Site ω × HttpResponse) : Prop :=
  answered.1.db.Keyed ∧
    picture answered.1.db =
      (picture site.db).observe (request, answered.2) ∧
    (picture site.db).Expects (request, answered.2)

/-- A request that asks for no call leaves the tables alone. -/
theorem truthful_of_no_call
    {site : Site ω}
    (keyed : site.db.Keyed)
    {request : HttpRequest}
    (none : requested request = none)
    {answered : Site ω × HttpResponse}
    (workspaces : answered.1.db.workspaces = site.db.workspaces)
    (sessions : answered.1.db.sessions = site.db.sessions) :
    site.Truthful request answered := by
  have silent : heard (request, answered.2) = Option.none := by
    rw [heard, none, Option.bind_none]
  refine ⟨?_, ?_, ?_⟩
  · obtain ⟨workspaceIds, sessionIds, references⟩ := keyed
    constructor <;> simpa only [workspaces, sessions]
  · rw [Picture.observe, silent, picture, workspaces, sessions]
    rfl
  · intro call reply told
    rw [silent] at told
    cases told

/-- A request whose call has been answered. -/
theorem truthful_of_call
    {site : Site ω}
    {request : HttpRequest}
    {call : Call}
    (asked : requested request = some call)
    {answered : Site ω × HttpResponse}
    {reply : Reply}
    (read : readReply answered.2 call = some reply)
    (tells : Tells site.db call (answered.1.db, reply)) :
    site.Truthful request answered := by
  have told : heard (request, answered.2) = some (call, reply) := by
    rw [heard, asked, Option.bind_some, read, Option.map_some]
  obtain ⟨keyed, same, foretold⟩ := tells
  refine ⟨keyed, ?_, ?_⟩
  · rw [Picture.observe, told]
    exact same
  · intro other answer again
    rw [told] at again
    cases again
    exact foretold

theorem readReply_unauthorized (call : Call) :
    readReply unauthorized call =
      some (failure 401 "unauthorized" call) := by
  have printed : unauthorized.body =
      (errorDocument "unauthorized").print Json.goQuoting := by decide
  have parsed : parseJSON unauthorized.body =
      some ((errorDocument "unauthorized").value Json.goQuoting) := by
    rw [parseJSON, printed]
    exact Json.Document.parse_print _ _ (by decide)
  have error : textProperty "error"
      ((errorDocument "unauthorized").value Json.goQuoting) =
        some "unauthorized" := rfl
  cases call <;> simp [readReply, readResponse, parsed, error, failure] <;> rfl

theorem truthful_unauthorized
    {site : Site ω}
    (keyed : site.db.Keyed)
    (auth : Auth.Manager)
    (request : HttpRequest) :
    site.Truthful request ({ site with auth := auth }, unauthorized) := by
  cases asked : requested request with
  | none => exact truthful_of_no_call keyed asked rfl rfl
  | some call =>
      exact truthful_of_call asked (readReply_unauthorized call)
        (tells_failure keyed 401 "unauthorized" call)

theorem tables_setup (site : Site ω) (draws : Draws) (body : Bytes) :
    (site.setup draws body).1.db.workspaces = site.db.workspaces ∧
      (site.setup draws body).1.db.sessions = site.db.sessions := by
  simp only [setup]
  repeat' split
  all_goals exact ⟨rfl, rfl⟩

theorem tables_login (site : Site ω) (draws : Draws) (body : Bytes) :
    (site.login machine draws body).1.db.workspaces = site.db.workspaces ∧
      (site.login machine draws body).1.db.sessions = site.db.sessions := by
  simp only [login]
  repeat' split
  all_goals exact ⟨rfl, rfl⟩

/-- A handler behind the gate. -/
theorem truthful_serve
    {site : Site ω}
    (keyed : site.db.Keyed)
    {draws : Draws}
    (rereads : draws.rereadFails = none)
    (request : HttpRequest) :
    site.Truthful request
      (site.serve machine draws (route request.method request.path).1
        (route request.method request.path).2 request) := by
  unfold serve
  split
  · next response refused =>
      exact truthful_of_no_call keyed (by simp [requested, refused]) rfl rfl
  · next call made =>
      refine truthful_of_call (by simp [requested, made]) ?_
        (tells_answer machine keyed rereads call)
      exact readReply_respondReply (answers_answer machine site draws call)
  · next other =>
      have asked : requested request = none := by simp [requested, other]
      split
      all_goals try exact truthful_of_no_call keyed asked rfl rfl
      · obtain ⟨workspaces, sessions⟩ := tables_setup site draws request.body
        exact truthful_of_no_call keyed asked workspaces sessions
      · obtain ⟨workspaces, sessions⟩ :=
          tables_login machine site draws request.body
        exact truthful_of_no_call keyed asked workspaces sessions

theorem truthful_handle
    {site : Site ω}
    (keyed : site.db.Keyed)
    {draws : Draws}
    (rereads : draws.rereadFails = none)
    (request : HttpRequest) :
    site.Truthful request (site.handle machine draws request) := by
  simp only [handle]
  split
  · generalize Auth.requireAuth _ _ _ _ = gate
    obtain ⟨auth, passed⟩ := gate
    have behind : ({ site with auth := auth } : Site ω).db.Keyed := keyed
    cases passed with
    | true => exact truthful_serve machine behind rereads request
    | false => exact truthful_unauthorized keyed auth request
  · exact truthful_serve machine keyed rereads request

end Site

/-! ## All requests -/

/-- An entry of the trace, without what only the server sees. -/
def Picture.record
    (picture : Picture)
    (entry : Exchange × HttpResponse) : Picture :=
  picture.observe (entry.1.2, entry.2)

/-- The tables are those that an observer of all requests and answers has in
mind, and every list that the server sends is the one that he expects. -/
theorem answers_tell_tables
    {site : Site ω}
    (keyed : site.db.Keyed)
    {exchanges : List Exchange}
    (rereads : ∀ exchange ∈ exchanges, exchange.1.rereadFails = none) :
    picture (perform (Site.exchange machine) site exchanges).1.db =
      (trace (Site.exchange machine) site exchanges).foldl Picture.record
        (picture site.db) ∧
    ∀ earlier exchange later, exchanges = earlier ++ exchange :: later →
      ((trace (Site.exchange machine) site earlier).foldl Picture.record
          (picture site.db)).Expects
        (exchange.2,
          (Site.exchange machine
            (perform (Site.exchange machine) site earlier).1 exchange).2) := by
  have recorded : ∀ (site : Site ω) (exchange : Exchange), site.db.Keyed →
      exchange.1.rereadFails = none →
        (Site.exchange machine site exchange).1.db.Keyed ∧
          picture (Site.exchange machine site exchange).1.db =
            (picture site.db).record
              (exchange, (Site.exchange machine site exchange).2) := by
    intro site exchange keyed working
    obtain ⟨kept, same, _⟩ :=
      Site.truthful_handle machine keyed working exchange.2
    exact ⟨kept, same⟩
  have told (calls : List Exchange)
      (working : ∀ exchange ∈ calls, exchange.1.rereadFails = none) :=
    foldl_trace_of_invariant (fun site : Site ω => picture site.db) recorded
      keyed working
  refine ⟨(told exchanges rereads).2, ?_⟩
  rintro earlier exchange later rfl
  obtain ⟨kept, same⟩ := told earlier
    fun other member => rereads other (List.mem_append_left _ member)
  rw [← same]
  have working := rereads exchange (List.mem_append_right _ List.mem_cons_self)
  exact (Site.truthful_handle machine kept working exchange.2).2.2

/-- A visitor creates three workspaces, and a fourth one while the query for the
greatest order fails. -/
def visiting : List Exchange :=
  let asks (draws : Draws) (call : ApiCall) : Exchange :=
    (draws, call.request ⟨[("lociterm_session", "token")], "", "", []⟩)
  [asks { calm 1 with fresh := "a" } (.createWorkspace [97]),
    asks { calm 2 with fresh := "b" } (.createWorkspace [98]),
    asks { calm 3 with fresh := "d" } (.createWorkspace [100]),
    asks { calm 4 with fresh := "c", maxOrderFails := true }
      (.createWorkspace [99])]

theorem answers_tell_tables_visiting :
    picture (perform (Site.exchange idleMachine) Site.signedIn visiting).1.db =
      (trace (Site.exchange idleMachine) Site.signedIn visiting).foldl
        Picture.record ⟨[], []⟩ ∧
    ((trace (Site.exchange idleMachine) Site.signedIn visiting).foldl
      Picture.record ⟨[], []⟩).listWorkspaces.map (·.name) =
        ["a", "b", "c", "d"] := by
  have keyed : Site.signedIn.db.Keyed :=
    ⟨List.nodup_nil, List.nodup_nil, by simp [Site.signedIn]⟩
  exact ⟨(answers_tell_tables idleMachine keyed
    (by simp [visiting, calm])).1, by decide +kernel⟩

end Http
end LociTerm
