import LociTerm.Client.AppStore

/-!
# The browser

The app store with the operations under way.  An operation is called at any
time, and the replies to its calls arrive in any order with those of others, or
not at all.
-/

namespace LociTerm
namespace Client

/-- The store with the operations that stand at an `await`. -/
structure Browser where
  app : App
  flights : Table Nat Flight
  deriving DecidableEq

/-- A call of an operation, or the arrival of the replies that it awaits. -/
inductive BrowserAction
  | call (id : Nat) (operation : Operation)
  | reply (id : Nat) (replies : List Reply)
  /-- `fetch` rejects, or the body is not JSON. -/
  | reject (id : Nat)
  deriving DecidableEq

namespace Browser

/-- The page as it loads. -/
def initial : Browser := ⟨App.initial, Table.empty⟩

/-- Record how far an operation has come. -/
def settle (browser : Browser) (id : Nat) : Outcome → Browser
  | .awaits flight =>
      { browser with flights := browser.flights.set id flight }
  | .returns app => ⟨app, browser.flights.erase id⟩
  | .throws app => ⟨app, browser.flights.erase id⟩

/-- The step relation. -/
def step (browser : Browser) : BrowserAction → Option Browser
  | .call id operation =>
      if (browser.flights.get? id).isSome then none
      else some (browser.settle id (browser.app.start operation))
  | .reply id replies =>
      match browser.flights.get? id with
      | some flight =>
          (browser.app.resume flight.pending replies).map (browser.settle id)
      | none => none
  | .reject id =>
      if (browser.flights.get? id).isSome then
        some { browser with flights := browser.flights.erase id }
      else none

/-- A step of the browser is a call, or goes on with some replies, or leaves
the store as it is. -/
theorem step_cases
    {browser next : Browser}
    {action : BrowserAction}
    (stepped : browser.step action = some next) :
    (∃ id operation, action = .call id operation ∧
      browser.flights.get? id = none ∧
      next = browser.settle id (browser.app.start operation)) ∨
    (∃ id replies flight outcome, action = .reply id replies ∧
      browser.flights.get? id = some flight ∧
      browser.app.Continues replies outcome flight.pending ∧
      next = browser.settle id outcome) ∨
    ∃ id, action = .reject id ∧
      next = { browser with flights := browser.flights.erase id } := by
  cases action with
  | call id operation =>
      simp only [step] at stepped
      split at stepped
      · cases stepped
      · next free =>
          cases stepped
          exact Or.inl ⟨id, operation, rfl, by simpa using free, rfl⟩
  | reply id replies =>
      simp only [step] at stepped
      split at stepped
      · next flight waiting =>
          obtain ⟨outcome, resumed, rfl⟩ := Option.map_eq_some_iff.mp stepped
          exact Or.inr (Or.inl ⟨id, replies, flight, outcome, rfl, waiting,
            App.resume_continues resumed, rfl⟩)
      · cases stepped
  | reject id =>
      simp only [step] at stepped
      split at stepped
      · cases stepped
        exact Or.inr (Or.inr ⟨id, rfl, rfl⟩)
      · cases stepped

end Browser

/-- What the server answers in the runs of this development. -/
def workspaceRow (id : String) : Workspace := ⟨id, id, 0, "", ""⟩

/-- A session of a workspace in such an answer. -/
def sessionRow (id wid : String) : Session :=
  ⟨id, wid, "Terminal", none, none, 0, "", ""⟩

/-- The page loads with two workspaces of one session each. -/
def loadRun : List BrowserAction :=
  [.call 0 .init,
    .reply 0 [.workspaceList
      (writeJSON 200 ⟨[workspaceRow "v", workspaceRow "w"], by decide⟩)],
    .reply 0 [.sessionList (writeJSON 200 [sessionRow "a" "v"]),
      .sessionList (writeJSON 200 [sessionRow "b" "w"])]]

end Client
end LociTerm
