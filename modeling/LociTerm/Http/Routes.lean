import LociTerm.Library.Mux

/-!
# The routes of the server

What `Server.Handler` registers.  The pattern `/` takes every request that no
other pattern matches, so that an unknown path or a method that is not meant
for a path leads to the frontend.
-/

namespace LociTerm
namespace Http

open Mux

/-- The handlers. -/
inductive Endpoint
  | health
  | authCheck
  | authSetup
  | authLogin
  | authLogout
  | webSocketTicket
  | listWorkspaces
  | createWorkspace
  | updateWorkspace
  | deleteWorkspace
  | listSessions
  | createSession
  | updateSession
  | deleteSession
  | upload
  | terminal
  | frontend
  deriving DecidableEq

/-- The handler is wrapped in `requireAuth`. -/
def Endpoint.RequiresAuth : Endpoint → Prop
  | health | authCheck | authSetup | authLogin | authLogout | frontend => False
  | webSocketTicket | listWorkspaces | createWorkspace | updateWorkspace
  | deleteWorkspace | listSessions | createSession | updateSession
  | deleteSession | upload | terminal => True

instance : DecidablePred Endpoint.RequiresAuth
  | .health | .authCheck | .authSetup | .authLogin | .authLogout
  | .frontend => isFalse id
  | .webSocketTicket | .listWorkspaces | .createWorkspace | .updateWorkspace
  | .deleteWorkspace | .listSessions | .createSession | .updateSession
  | .deleteSession | .upload | .terminal => isTrue trivial

/-- A pattern below `/api/v1`. -/
def api (method : Option String) (segments : List Segment) : Pattern :=
  ⟨method, .literal "api" :: .literal "v1" :: segments, false⟩

/-- The calls of `mux.HandleFunc` and `mux.Handle`, in order. -/
def table : List (Pattern × Endpoint) :=
  [(api (some "GET") [.literal "health"], .health),
    (api (some "GET") [.literal "auth", .literal "check"], .authCheck),
    (api (some "POST") [.literal "auth", .literal "setup"], .authSetup),
    (api (some "POST") [.literal "auth", .literal "login"], .authLogin),
    (api (some "POST") [.literal "auth", .literal "logout"], .authLogout),
    (api (some "POST") [.literal "ws-ticket"], .webSocketTicket),
    (api (some "GET") [.literal "workspaces"], .listWorkspaces),
    (api (some "POST") [.literal "workspaces"], .createWorkspace),
    (api (some "PATCH") [.literal "workspaces", .wildcard "id"],
      .updateWorkspace),
    (api (some "DELETE") [.literal "workspaces", .wildcard "id"],
      .deleteWorkspace),
    (api (some "GET")
      [.literal "workspaces", .wildcard "wid", .literal "sessions"],
      .listSessions),
    (api (some "POST")
      [.literal "workspaces", .wildcard "wid", .literal "sessions"],
      .createSession),
    (api (some "PATCH") [.literal "sessions", .wildcard "id"],
      .updateSession),
    (api (some "DELETE") [.literal "sessions", .wildcard "id"],
      .deleteSession),
    (api (some "POST")
      [.literal "sessions", .wildcard "id", .literal "upload"], .upload),
    (api none [.literal "ws", .literal "terminal", .wildcard "sessionId"],
      .terminal),
    (⟨none, [], true⟩, .frontend)]

/-- The registration does not panic. -/
theorem table_consistent : table.Pairwise Compatible := by decide +kernel

/-- The routes of `Server.Handler`. -/
def routes : Routes Endpoint := ⟨table, table_consistent⟩

/-- The handler of a request, with `r.PathValue`. -/
def route
    (method : String)
    (path : List String) : Endpoint × List (String × String) :=
  match routes.select method path with
  | some (pattern, endpoint) =>
      (endpoint, (pattern.values method path).getD [])
  | none => (.frontend, [])

/-- Every path leads somewhere. -/
theorem exists_select
    (method : String)
    {path : List String}
    (nonempty : path ≠ []) :
    ∃ entry, routes.select method path = some entry := by
  rw [← Option.isSome_iff_exists, Option.isSome_iff_ne_none, ne_eq,
    Routes.select_eq_none]
  intro nowhere
  apply nowhere (⟨none, [], true⟩, .frontend) (by simp [routes, table])
  cases path with
  | nil => exact absurd rfl nonempty
  | cons segment path => rfl

/-- The handler of a request is the most specific: what its pattern matches, the
other patterns that match the request match as well. -/
theorem select_most_specific
    {method : String}
    {path : List String}
    {entry other : Pattern × Endpoint}
    (selected : routes.select method path = some entry)
    (registered : other ∈ table)
    (matched : other.1.Matches method path)
    {method' : String}
    {path' : List String}
    (also : entry.1.Matches method' path') :
    other.1.Matches method' path' := by
  obtain ⟨_, _, least⟩ := Routes.select_eq_some.mp selected
  rcases least other registered matched with rfl | ⟨within, _⟩
  · exact also
  · exact also.of_within within

/-- A pattern that is not that of the frontend has a handler of its own. -/
theorem route_of_matches
    {pattern : Pattern}
    {endpoint : Endpoint}
    {method : String}
    {path : List String}
    {values : List (String × String)}
    (registered : (pattern, endpoint) ∈ table)
    (own : endpoint ≠ .frontend)
    (matched : pattern.values method path = some values) :
    route method path = (endpoint, values) := by
  have others : ∀ one ∈ table, ∀ other ∈ table, one.2 ≠ .frontend →
      one = other ∨ one.1.apart other.1 = true ∨
        one.1.within other.1 = true ∧ other.1.within one.1 = false := by
    decide +kernel
  have selected : routes.select method path = some (pattern, endpoint) := by
    rw [Routes.select_eq_some]
    have fits : pattern.Matches method path := by
      simp [Pattern.Matches, matched]
    refine ⟨registered, fits, fun other inside also => ?_⟩
    rcases others _ registered other inside own with same | apart | specific
    · exact Or.inl same.symm
    · have together := fits.not_apart also
      rw [apart] at together
      cases together
    · exact Or.inr specific
  simp [route, selected, matched]

end Http
end LociTerm
