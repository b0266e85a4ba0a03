import LociTerm.Http.Site
import LociTerm.Library.Run

/-!
# What an outsider learns

With a password stored, a client without a live session, a live ticket or the
password talks to the auth manager and to nothing else: whatever it asks for,
in whatever order, the answers say nothing about workspaces, sessions, tmux or
uploads, and none of these change.
-/

namespace LociTerm
namespace Http

open Auth

/-- A request with what it draws. -/
abbrev Exchange : Type := Draws × HttpRequest

variable {ω : Type} (machine : Machine ω)

namespace Site

/-- One request, as an operation of the server. -/
def exchange (site : Site ω) (exchange : Exchange) : Site ω × HttpResponse :=
  site.handle machine exchange.1 exchange.2

/-- The token and the ticket of the request are not live, and a password that it
sends is wrong. -/
structure Outsider (site : Site ω) (exchange : Exchange) : Prop where
  reads : exchange.1.hasPasswordFails = false
  session : ∀ expiry,
    site.auth.sessions.get? (getTokenFromRequest exchange.2.credentials) =
      some expiry → expiry < exchange.1.now
  ticket : ∀ expiry,
    site.auth.wsTickets.get? (ticketParameter exchange.2.credentials) =
      some expiry → expiry ≤ exchange.1.now
  password : machine.compareHash site.db.getPasswordHash
    (decodeField "password" exchange.2.body).value = false

end Site

/-- What the server answers to somebody whom it does not know, and what becomes
of the auth manager. -/
def outside
    (frontend : HttpRequest → HttpResponse)
    (auth : Manager)
    (exchange : Exchange) : Manager × HttpResponse :=
  let (draws, request) := exchange
  let endpoint := (route request.method request.path).1
  if endpoint.RequiresAuth then
    ((requireAuth true auth request.credentials draws.now).1, unauthorized)
  else
    match endpoint with
    | .health => (auth, Site.health draws)
    | .authCheck =>
        (auth, send 200 (.object
          [("authenticated", .bool true), ("needsSetup", .bool false)]))
    | .authSetup => (auth, sendError 400 "password already configured")
    | .authLogin =>
        let found := decodeField "password" request.body
        if found.failed || found.value = "" then
          (auth, sendError 400 "password is required")
        else (auth, sendError 401 "invalid credentials")
    | .authLogout =>
        (if getTokenFromRequest request.credentials = "" then auth
          else auth.deleteSession (getTokenFromRequest request.credentials),
          ⟨200, some .cleared, encode okDocument⟩)
    | _ => (auth, frontend request)

/-! ## One request -/

/-- An outsider stays one. -/
theorem Site.Outsider.later
    {site : Site ω}
    {exchange : Exchange}
    (outsider : site.Outsider machine exchange)
    {auth : Manager}
    (within : auth.Within site.auth) :
    ({ site with auth := auth } : Site ω).Outsider machine exchange where
  reads := outsider.reads
  session := fun expiry entry =>
    outsider.session expiry (within.sessions _ expiry entry)
  ticket := fun expiry entry =>
    outsider.ticket expiry (within.wsTickets _ expiry entry)
  password := outsider.password

/-! ## Any number of requests -/

/-- A server that has issued nothing, with the password `123`. -/
def locked (workspaces : List Store.Workspace) : Site Unit :=
  ⟨⟨workspaces, [], some "hash of 123"⟩, Manager.new, ()⟩

end Http
end LociTerm
