import LociTerm.Client.Browser
import LociTerm.Library.Run

/-!
# Polling the active workspace

`pollActive` leaves the state object alone when the fetched list shows nothing
new.  What the store shows afterwards is what an unconditional `set` would show,
whatever has happened to the store since the request.
-/

namespace LociTerm
namespace Client

/-- The four properties of a stored record that `pollActive` compares are those
of a session. -/
def ShowsSession (entry : Body Session) (session : Session) : Prop :=
  entry.field (·.id) = some session.id ∧
    entry.field (·.title) = some session.title ∧
    entry.field (·.cwd) = some session.cwd ∧
    entry.field (·.updatedAt) = some session.updatedAt

/-- What is stored for a workspace, where an absent list is an empty one, agrees
with a list in length and position by position. -/
def AppState.Shows (s : AppState) (wid : String) (list : List Session) : Prop :=
  ∃ entries, s.sessionsOf wid = .ok entries ∧
    entries.length = list.length ∧
    ∀ (i : Nat) entry session, entries[i]? = some entry →
      list[i]? = some session → ShowsSession entry session

/-- The state object of the store, with its identity and those of the arrays in
`sessions`.  An identity that is not below `fresh` has not been given out. -/
structure StateObject where
  state : AppState
  identity : Nat
  arrays : Table String Nat
  fresh : Nat
  identity_lt : identity < fresh
  arrays_lt : ∀ wid array, arrays.get? wid = some array → array < fresh

namespace StateObject

/-- Storing the newest array leaves all of them below the next identities. -/
theorem arrays_lt_set
    (object : StateObject)
    (wid other : String)
    (found : Nat)
    (present : (object.arrays.set wid object.fresh).get? other = some found) :
    found < object.fresh + 3 := by
  rw [Table.get?_set] at present
  split at present
  · cases present
    omega
  · have older := object.arrays_lt other found present
    omega

/-- `pollActive` with the response.  The fetched array is a new object, as is
the `[]` for an absent list; `set` makes a new state object. -/
def handlePoll
    (object : StateObject)
    (wid : String)
    (sessions : Records Session) : StateObject :=
  let array := object.fresh
  let existing := (object.arrays.get? wid).getD (object.fresh + 1)
  if existing = array || object.state.holds wid sessions then
    { object with
      fresh := object.fresh + 2
      identity_lt := Nat.lt_add_right 2 object.identity_lt
      arrays_lt := fun other found present =>
        Nat.lt_add_right 2 (object.arrays_lt other found present) }
  else
    { state := { object.state with
        sessions := object.state.sessions.set wid sessions }
      identity := object.fresh + 2
      arrays := object.arrays.set wid array
      fresh := object.fresh + 3
      identity_lt := Nat.lt_succ_self (object.fresh + 2)
      arrays_lt := object.arrays_lt_set wid }

/-- No array of the state is the fetched one. -/
theorem existing_ne_fresh (object : StateObject) (wid : String) :
    (object.arrays.get? wid).getD (object.fresh + 1) ≠ object.fresh := by
  cases found : object.arrays.get? wid with
  | none => simp
  | some array =>
      have older := object.arrays_lt wid array found
      simp only [Option.getD_some]
      omega

/-- It is the very same object with the very same arrays. -/
structure Same (object after : StateObject) : Prop where
  identity : after.identity = object.identity
  arrays : after.arrays = object.arrays
  state : after.state = object.state

/-- When the lists are equal, nothing is stored. -/
theorem handlePoll_of_equal
    {object : StateObject}
    {wid : String}
    {sessions : Records Session}
    (equal : object.state.holds wid sessions = true) :
    object.Same (object.handlePoll wid sessions) := by
  have skips : (decide ((object.arrays.get? wid).getD (object.fresh + 1) =
      object.fresh) || object.state.holds wid sessions) = true := by
    rw [equal, Bool.or_true]
  unfold handlePoll
  simp only [skips, if_true]
  exact ⟨rfl, rfl, rfl⟩

/-- Otherwise there is a new object with the fetched array in it. -/
theorem handlePoll_of_different
    {object : StateObject}
    {wid : String}
    {sessions : Records Session}
    (different : object.state.holds wid sessions = false) :
    (object.handlePoll wid sessions).state =
        { object.state with
          sessions := object.state.sessions.set wid sessions } ∧
      (object.handlePoll wid sessions).identity ≠ object.identity := by
  have stores : (decide ((object.arrays.get? wid).getD (object.fresh + 1) =
      object.fresh) || object.state.holds wid sessions) = false := by
    rw [different, Bool.or_false, decide_eq_false_iff_not]
    exact object.existing_ne_fresh wid
  unfold handlePoll
  simp only [stores, Bool.false_eq_true, if_false]
  refine ⟨trivial, ?_⟩
  have older := object.identity_lt
  omega

end StateObject

/-! ## What `sessionsEqual` compares -/

theorem sessionsEqual_ok_iff
    {entries : List (Body Session)}
    {list : List Session} :
    sessionsEqual (.ok entries) (Body.ok list).records = true ↔
      entries.length = list.length ∧
        ∀ (i : Nat) entry session, entries[i]? = some entry →
          list[i]? = some session → ShowsSession entry session := by
  simp only [Body.records, Body.map, sessionsEqual, List.length_map,
    Bool.and_eq_true, decide_eq_true_eq, List.all_eq_true]
  apply and_congr_right
  intro _
  constructor
  · intro equal i entry session here there
    have member : (entry, Body.ok session) ∈ entries.zip (list.map .ok) := by
      apply List.mem_of_getElem?
      rw [List.getElem?_zip_eq_some]
      exact ⟨here, by simp [there]⟩
    obtain ⟨⟨⟨id, title⟩, cwd⟩, updatedAt⟩ := equal _ member
    exact ⟨id, title, cwd, updatedAt⟩
  · rintro shows ⟨entry, other⟩ member
    obtain ⟨i, found⟩ := List.mem_iff_getElem?.mp member
    obtain ⟨here, there⟩ := List.getElem?_zip_eq_some.mp found
    rw [List.getElem?_map, Option.map_eq_some_iff] at there
    obtain ⟨session, there, rfl⟩ := there
    obtain ⟨id, title, cwd, updatedAt⟩ := shows i entry session here there
    exact ⟨⟨⟨id, title⟩, cwd⟩, updatedAt⟩

theorem holds_iff_shows
    (s : AppState)
    (wid : String)
    (list : List Session) :
    s.holds wid (Body.ok list).records = true ↔
      s.Shows wid list := by
  unfold AppState.Shows AppState.holds
  cases held : s.sessionsOf wid with
  | error message => simp [sessionsEqual, Body.records, Body.map]
  | ok entries =>
      rw [sessionsEqual_ok_iff]
      simp

theorem shows_of_stored
    {s : AppState}
    {wid : String}
    {list : List Session}
    (stored : s.sessions.get? wid = some (Body.ok list).records) :
    s.Shows wid list := by
  rw [← holds_iff_shows, AppState.holds, AppState.sessionsOf, stored]
  refine sessionsEqual_ok_iff.mpr ⟨by simp, ?_⟩
  intro i entry session here there
  rw [List.getElem?_map, there] at here
  cases here
  exact ⟨rfl, rfl, rfl, rfl⟩

/-! ## While the fetch is in flight -/

/-- The operation that an action is about. -/
def BrowserAction.id : BrowserAction → Nat
  | .call id _ | .reply id _ | .reject id => id

/-- The other operations leave a flight where it is. -/
theorem Browser.get?_flights_step
    {browser next : Browser}
    {action : BrowserAction}
    {id : Nat}
    (other : action.id ≠ id)
    (stepped : browser.step action = some next) :
    next.flights.get? id = browser.flights.get? id := by
  have settled : ∀ outcome : Outcome,
      (browser.settle action.id outcome).flights.get? id =
        browser.flights.get? id := by
    intro outcome
    cases outcome with
    | awaits flight => exact Table.get?_set_of_ne browser.flights flight other
    | returns app | throws app => exact Table.get?_erase_of_ne _ other
  rcases Browser.step_cases stepped with
    ⟨_, _, rfl, _, rfl⟩ | ⟨_, _, _, _, rfl, _, _, rfl⟩ | ⟨_, rfl, rfl⟩
  · exact settled _
  · exact settled _
  · exact Table.get?_erase_of_ne _ other

theorem Browser.get?_flights_run
    {browser final : Browser}
    {actions : List BrowserAction}
    {id : Nat}
    (others : ∀ action ∈ actions, action.id ≠ id)
    (ran : run Browser.step browser actions = some final) :
    final.flights.get? id = browser.flights.get? id := by
  induction actions generalizing browser with
  | nil =>
      cases ran
      rfl
  | cons action actions inductionHypothesis =>
      obtain ⟨next, stepped, rest⟩ := (run_cons_eq_some _).mp ran
      rw [inductionHypothesis (fun later member => others later (by simp [member]))
        rest]
      exact Browser.get?_flights_step (others action (by simp)) stepped

/-! ## The shortcut -/

/-- What is observed of a handled response, in the store and in the objects. -/
structure Polled
    (wid : String)
    (list : List Session)
    (app next : App)
    (object after : StateObject) : Prop where
  /-- The store shows the fetched list. -/
  shows : next.state.Shows wid list
  /-- Nothing else has changed. -/
  rest : next =
    { app with state := { app.state with sessions := next.state.sessions } }
  others : ∀ other, other ≠ wid →
    next.state.sessions.get? other = app.state.sessions.get? other
  state : after.state = next.state
  /-- The state object is the very same exactly if it showed the list. -/
  same : app.state.Shows wid list → object.Same after
  different : ¬app.state.Shows wid list → after.identity ≠ object.identity

theorem finishPollActive_polled
    {app : App}
    {object : StateObject}
    (stored : object.state = app.state)
    (wid : String)
    (list : List Session) :
    ∃ next, app.finishPollActive wid (Body.ok list).records = .returns next ∧
      Polled wid list app next object
        (object.handlePoll wid (Body.ok list).records) := by
  have equalIff := holds_iff_shows app.state wid list
  unfold App.finishPollActive
  cases equal : app.state.holds wid (Body.ok list).records with
  | true =>
      have shown := equalIff.mp equal
      have same := StateObject.handlePoll_of_equal (stored ▸ equal)
      exact ⟨app, rfl,
        { shows := shown
          rest := rfl
          others := fun _ _ => rfl
          state := same.state.trans stored
          same := fun _ => same
          different := fun hidden => absurd shown hidden }⟩
  | false =>
      have hidden : ¬app.state.Shows wid list := by
        rw [← equalIff, equal]
        exact Bool.false_ne_true
      obtain ⟨state, identity⟩ :=
        StateObject.handlePoll_of_different (stored ▸ equal)
      refine ⟨_, rfl,
        { shows := shows_of_stored (Table.get?_set_self _ _ _)
          rest := rfl
          others := fun other different =>
            Table.get?_set_of_ne _ _ different.symm
          state := state.trans (by rw [stored])
          same := fun shown => absurd shown hidden
          different := fun _ => identity }⟩

/-- What a poll has asked for when it waits. -/
theorem get?_flights_pollActive
    {browser begun : Browser}
    {id : Nat}
    {wid : String}
    (active : browser.app.state.activeWorkspaceId = some wid)
    (called : browser.step (.call id .pollActive) = some begun) :
    begun.flights.get? id = none ∨
      begun.flights.get? id = some ⟨[.listSessions wid], .pollActive wid⟩ := by
  simp only [Browser.step] at called
  split at called
  · cases called
  · cases called
    simp only [App.start, active]
    split
    · exact Or.inr (Table.get?_set_self _ _ _)
    · exact Or.inl (Table.get?_erase_self _ _)

/-- Whatever happens between the request of a poll and its response: once the
response is handled, the store shows the fetched list and is otherwise as it
was, and if it showed the list already, the state object is the very same. -/
theorem pollActive_unobservable
    {browser begun meanwhile next : Browser}
    {id : Nat}
    {wid : String}
    {actions : List BrowserAction}
    {response : Response (List Session)}
    {list : List Session}
    {object : StateObject}
    (active : browser.app.state.activeWorkspaceId = some wid)
    (called : browser.step (.call id .pollActive) = some begun)
    (others : ∀ action ∈ actions, action.id ≠ id)
    (ran : run Browser.step begun actions = some meanwhile)
    (fetched : request response = .ok list)
    (handled : meanwhile.step (.reply id [.sessionList response]) = some next)
    (stored : object.state = meanwhile.app.state) :
    Polled wid list meanwhile.app next.app object
      (object.handlePoll wid (Body.ok list).records) := by
  have waiting := Browser.get?_flights_run others ran
  simp only [Browser.step, waiting] at handled
  rcases get?_flights_pollActive active called with idle | polls
  · rw [idle] at handled
    cases handled
  · rw [polls] at handled
    obtain ⟨after, returned, polled⟩ :=
      finishPollActive_polled stored wid list
    simp only [App.resume, fetched, returned, Option.map_some,
      Option.some.injEq] at handled
    rw [← handled]
    exact polled

theorem isSome_loadRun :
    (run Browser.step Browser.initial loadRun).isSome = true := by
  decide

/-- The page has loaded. -/
def pollLoaded : Browser :=
  (run Browser.step Browser.initial loadRun).get isSome_loadRun

/-- The poll has sent its request. -/
def pollBegun : Browser := (pollLoaded.step (.call 1 .pollActive)).get (by decide)

/-- A rename resolves while the poll is under way. -/
def pollRenamed : List BrowserAction :=
  [.call 2 (.renameSession "a" "build"),
    .reply 2 [.session (writeJSON 200
      { sessionRow "a" "v" with title := "build" })]]

/-- The page when the response arrives. -/
def pollMeanwhile : Browser :=
  (run Browser.step pollBegun pollRenamed).get (by decide)

/-- A state object of the store at that moment. -/
def pollObject : StateObject :=
  { state := pollMeanwhile.app.state
    identity := 0
    arrays := Table.empty
    fresh := 1
    identity_lt := by decide
    arrays_lt := fun wid array present => by
      rw [Table.get?_empty] at present
      cases present }

theorem pollActive_unobservable_pollRenamed :
    ∃ next : Browser,
      pollMeanwhile.step
          (.reply 1 [.sessionList (writeJSON 200 [sessionRow "a" "v"])]) =
        some next ∧
      Polled "v" [sessionRow "a" "v"] pollMeanwhile.app next.app pollObject
        (pollObject.handlePoll "v"
          (Body.ok [sessionRow "a" "v"]).records) := by
  have answered : (pollMeanwhile.step (.reply 1
      [.sessionList (writeJSON 200 [sessionRow "a" "v"])])).isSome = true := by
    decide
  obtain ⟨next, handled⟩ := Option.isSome_iff_exists.mp answered
  have active : pollLoaded.app.state.activeWorkspaceId = some "v" := by decide
  have others : ∀ action ∈ pollRenamed, action.id ≠ 1 := by decide
  exact ⟨next, handled,
    pollActive_unobservable active (Option.some_get _).symm others
      (Option.some_get _).symm rfl handled rfl⟩

end Client
end LociTerm
