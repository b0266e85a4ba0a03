import LociTerm.Auth.Manager
import LociTerm.Auth.Request
import LociTerm.Library.Since
import LociTerm.Store.Sqlite

/-!
# The authentication gate

Requests pass `requireAuth` concurrently.  A step is one store call, one
reading of the clock, or one section under the auth manager's mutex.  Beside
the state of the program, the model keeps the history of what has been issued,
deleted and looked up, and for each request the moments at which the gate made
its checks.
-/

namespace LociTerm
namespace Auth

open Store

/-- What the gate's decisions depend on. -/
inductive Event
  | passwordStored
  | sessionIssued (token : String) (time : Nat)
  /-- A token was passed to `deleteSession`. -/
  | sessionDeleted (token : String)
  | ticketIssued (token : String) (time : Nat)
  /-- A ticket was looked up by `consumeWebSocketTicket`. -/
  | ticketLookedUp (token : String) (accepted : Bool)
  deriving DecidableEq

/-- A moment of a run: the events so far, newest first, and the time. -/
structure Point where
  history : List Event
  now : Nat
  deriving DecidableEq

/-- The token was issued at some time and has not been passed to
`deleteSession` since. -/
def SessionSince
    (history : List Event)
    (token : String)
    (issued : Nat) : Prop :=
  Since (· = .sessionIssued token issued) (· = .sessionDeleted token) history

/-- The ticket was issued at some time and has not been looked up since. -/
def TicketSince
    (history : List Event)
    (token : String)
    (issued : Nat) : Prop :=
  Since (· = .ticketIssued token issued)
    (fun event => ∃ accepted, event = .ticketLookedUp token accepted) history

namespace Point

/-- No password is stored. -/
def NoPassword (point : Point) : Prop := .passwordStored ∉ point.history

/-- The token was issued at most seven days ago and has not been deleted. -/
def SessionLive (point : Point) (token : String) : Prop :=
  ∃ issued, SessionSince point.history token issued ∧
    point.now ≤ issued + sessionLifetime

/-- The ticket was issued less than thirty seconds ago and has not been looked
up. -/
def TicketLive (point : Point) (token : String) : Prop :=
  ∃ issued, TicketSince point.history token issued ∧
    point.now < issued + ticketLifetime

/-- The request is to be let through. -/
def Authorised (point : Point) (request : Request) : Prop :=
  point.NoPassword ∨ point.SessionLive (getTokenFromRequest request) ∨
    isWebSocketUpgrade request = true ∧
      point.TicketLive (ticketParameter request)

/-- One moment is not later than another. -/
def Before (earlier later : Point) : Prop :=
  earlier.now ≤ later.now ∧ earlier.history <:+ later.history

end Point

/-- Where a request stands in `requireAuth`, with the moments of its checks. -/
inductive Stage
  | arrived
  /-- A password is stored; the session token is next. -/
  | session (password : Point)
  /-- The token has an entry; the clock is next. -/
  | found (password lookup : Point) (expiry : Nat)
  /-- The entry has expired; deleting it is next. -/
  | evict (password expired : Point)
  /-- The token is not valid; the ticket is next. -/
  | ticket (password session : Point)
  deriving DecidableEq

/-- The outcome for one request, with the moments of the checks it came to. -/
structure Verdict where
  request : Request
  passed : Bool
  password : Point
  session : Option Point
  ticket : Option Point
  deriving DecidableEq

/-- The gate with the requests under way. -/
structure Gate where
  now : Nat
  db : Database
  /-- The store has been closed by `Shutdown`. -/
  closed : Bool
  auth : Manager
  history : List Event
  /-- The tokens drawn so far. -/
  drawn : List String
  requests : Table Nat (Request × Stage)
  /-- The `Setup` requests whose `HasPassword` has reported no password, and
  whether none was stored at that moment. -/
  setups : Table Nat (Request × Bool)
  verdicts : List Verdict
  /-- The `Setup` requests that have replaced a stored hash, and when. -/
  replacements : List (Request × Point)
  deriving DecidableEq

/-- One step of a request, the clock or the shutdown. -/
inductive GateAction
  | clock (later : Nat)
  | closeStore
  | arrive (id : Nat) (request : Request)
  | hasPassword (id : Nat) (fails : Bool)
  | lookupSession (id : Nat)
  | readClock (id : Nat)
  | evictSession (id : Nat)
  | consumeTicket (id : Nat)
  | setupHasPassword
      (id : Nat)
      (request : Request)
      (password : String)
      (fails : Bool)
  | setupStore (id : Nat) (hash : String) (fails : Bool)
  | createSession (token : String)
  | deleteSession (token : String)
  | createTicket (token : String)
  deriving DecidableEq

namespace Gate

/-- A new server on a database that may have a password already. -/
def start (passwordHash : Option String) : Gate :=
  { now := 0
    db := { Database.empty with passwordHash := passwordHash }
    closed := false
    auth := Manager.new
    history := if passwordHash.isSome then [.passwordStored] else []
    drawn := []
    requests := Table.empty
    setups := Table.empty
    verdicts := []
    replacements := [] }

/-- This moment. -/
def here (state : Gate) : Point := ⟨state.history, state.now⟩

/-- The `HasPassword` of callers that ignore its error, which comes with the
answer false. -/
def readsPassword (state : Gate) (fails : Bool) : Bool :=
  !(fails || state.closed) && state.db.hasPassword

/-- The request moves on to another check. -/
def proceed (state : Gate) (id : Nat) (request : Request) (stage : Stage) :
    Gate :=
  { state with requests := state.requests.set id (request, stage) }

/-- The gate has decided about a request. -/
def decideRequest (state : Gate) (id : Nat) (verdict : Verdict) : Gate :=
  { state with
    requests := state.requests.erase id
    verdicts := verdict :: state.verdicts }

/-- The ticket check of `requireAuth`. -/
def checkTicket
    (state : Gate)
    (id : Nat)
    (request : Request)
    (password session : Point) : Gate :=
  let token := ticketParameter request
  let verdict (passed : Bool) : Verdict :=
    ⟨request, passed, password, some session, some state.here⟩
  if isWebSocketUpgrade request then
    let (auth, accepted) :=
      state.auth.consumeWebSocketTicket token state.now
    { state with
      auth := auth
      history :=
        if token = "" then state.history
        else .ticketLookedUp token accepted :: state.history
    }.decideRequest id (verdict accepted)
  else state.decideRequest id (verdict false)

/-- The step relation.  Tokens are drawn once and are never empty. -/
def step (state : Gate) : GateAction → Option Gate
  | .clock later =>
      if state.now ≤ later then some { state with now := later } else none
  | .closeStore => some { state with closed := true }
  | .arrive id request =>
      if (state.requests.get? id).isSome then none
      else some (state.proceed id request .arrived)
  | .hasPassword id fails =>
      match state.requests.get? id with
      | some (request, .arrived) =>
          if state.readsPassword fails then
            some (state.proceed id request (.session state.here))
          else
            some (state.decideRequest id
              ⟨request, true, state.here, none, none⟩)
      | _ => none
  | .lookupSession id =>
      match state.requests.get? id with
      | some (request, .session password) =>
          let token := getTokenFromRequest request
          if token = "" then
            some (state.proceed id request (.ticket password state.here))
          else
            match state.auth.lookupSession token with
            | none =>
                some (state.proceed id request (.ticket password state.here))
            | some expiry =>
                some (state.proceed id request
                  (.found password state.here expiry))
      | _ => none
  | .readClock id =>
      match state.requests.get? id with
      | some (request, .found password lookup expiry) =>
          if Manager.after state.now expiry then
            some (state.proceed id request (.evict password state.here))
          else
            some (state.decideRequest id
              ⟨request, true, password, some lookup, none⟩)
      | _ => none
  | .evictSession id =>
      match state.requests.get? id with
      | some (request, .evict password expired) =>
          some
            ({ state with
              auth :=
                state.auth.deleteSession (getTokenFromRequest request)
            }.proceed id request (.ticket password expired))
      | _ => none
  | .consumeTicket id =>
      match state.requests.get? id with
      | some (request, .ticket password session) =>
          some (state.checkTicket id request password session)
      | _ => none
  | .setupHasPassword id request password fails =>
      if (state.setups.get? id).isSome then none
      else if state.readsPassword fails || password = "" then
        -- 400: the password is configured, or none was sent.
        some state
      else
        some { state with
          setups :=
            state.setups.set id (request, !state.db.hasPassword) }
  | .setupStore id hash fails =>
      match state.setups.get? id with
      | some (request, _) =>
          let answered := { state with setups := state.setups.erase id }
          if fails || state.closed then some answered
          else
            some { answered with
              db := state.db.setPasswordHash hash
              history := .passwordStored :: state.history
              replacements :=
                if state.db.hasPassword then
                  (request, state.here) :: state.replacements
                else state.replacements }
      | none => none
  | .createSession token =>
      if token = "" ∨ token ∈ state.drawn then none
      else
        some { state with
          auth := state.auth.createSession token state.now
          history := .sessionIssued token state.now :: state.history
          drawn := token :: state.drawn }
  | .deleteSession token =>
      some { state with
        auth := state.auth.deleteSession token
        history := .sessionDeleted token :: state.history }
  | .createTicket token =>
      if token = "" ∨ token ∈ state.drawn then none
      else
        some { state with
          auth := state.auth.createWebSocketTicket token state.now
          history := .ticketIssued token state.now :: state.history
          drawn := token :: state.drawn }

/-! ## What the steps of a request do -/

theorem readsPassword_iff {state : Gate} {fails : Bool} :
    state.readsPassword fails = true ↔
      ¬(fails = true ∨ state.closed = true) ∧
        state.db.hasPassword = true := by
  simp [readsPassword]

theorem step_hasPassword
    {state next : Gate}
    {id : Nat}
    {fails : Bool}
    (stepped : state.step (.hasPassword id fails) = some next) :
    ∃ request, state.requests.get? id = some (request, .arrived) ∧
      (state.readsPassword fails = true ∧
          next = state.proceed id request (.session state.here) ∨
        ¬state.readsPassword fails = true ∧
          next = state.decideRequest id
            ⟨request, true, state.here, none, none⟩) := by
  simp only [step] at stepped
  split at stepped
  · next request found =>
      refine ⟨request, found, ?_⟩
      split at stepped <;> cases stepped
      · next stored => exact Or.inl ⟨stored, rfl⟩
      · next unread => exact Or.inr ⟨unread, rfl⟩
  · cases stepped

theorem step_lookupSession
    {state next : Gate}
    {id : Nat}
    (stepped : state.step (.lookupSession id) = some next) :
    ∃ request password,
      state.requests.get? id = some (request, .session password) ∧
      ((getTokenFromRequest request = "" ∨
            state.auth.sessions.get? (getTokenFromRequest request) = none) ∧
          next = state.proceed id request (.ticket password state.here) ∨
        ∃ expiry,
          state.auth.sessions.get? (getTokenFromRequest request) =
            some expiry ∧
          next = state.proceed id request
            (.found password state.here expiry)) := by
  simp only [step, Manager.lookupSession] at stepped
  split at stepped
  · next request password found =>
      refine ⟨request, password, found, ?_⟩
      split at stepped
      · next empty =>
          cases stepped
          exact Or.inl ⟨Or.inl empty, rfl⟩
      · split at stepped <;> cases stepped
        · next absent => exact Or.inl ⟨Or.inr absent, rfl⟩
        · next expiry entry => exact Or.inr ⟨expiry, entry, rfl⟩
  · cases stepped

theorem step_readClock
    {state next : Gate}
    {id : Nat}
    (stepped : state.step (.readClock id) = some next) :
    ∃ request password lookup expiry,
      state.requests.get? id =
        some (request, .found password lookup expiry) ∧
      (expiry < state.now ∧
          next = state.proceed id request (.evict password state.here) ∨
        state.now ≤ expiry ∧
          next = state.decideRequest id
            ⟨request, true, password, some lookup, none⟩) := by
  simp only [step, Manager.after, decide_eq_true_eq] at stepped
  split at stepped
  · next request password lookup expiry found =>
      refine ⟨request, password, lookup, expiry, found, ?_⟩
      split at stepped <;> cases stepped
      · next past => exact Or.inl ⟨past, rfl⟩
      · next young => exact Or.inr ⟨Nat.le_of_not_lt young, rfl⟩
  · cases stepped

theorem step_evictSession
    {state next : Gate}
    {id : Nat}
    (stepped : state.step (.evictSession id) = some next) :
    ∃ request password expired,
      state.requests.get? id = some (request, .evict password expired) ∧
      next = ({ state with
          auth := state.auth.deleteSession (getTokenFromRequest request) } :
        Gate).proceed id request (.ticket password expired) := by
  simp only [step] at stepped
  split at stepped
  · next request password expired found =>
      cases stepped
      exact ⟨request, password, expired, found, rfl⟩
  · cases stepped

theorem step_consumeTicket
    {state next : Gate}
    {id : Nat}
    (stepped : state.step (.consumeTicket id) = some next) :
    ∃ request password session,
      state.requests.get? id = some (request, .ticket password session) ∧
      next = state.checkTicket id request password session := by
  simp only [step] at stepped
  split at stepped
  · next request password session found =>
      cases stepped
      exact ⟨request, password, session, found, rfl⟩
  · cases stepped

/-- The ticket check, by what the request carries. -/
theorem checkTicket_cases
    (state : Gate)
    (id : Nat)
    (request : Request)
    (password session : Point) :
    (isWebSocketUpgrade request = true ∧ ticketParameter request ≠ "" ∧
        state.checkTicket id request password session =
          ({ state with
            auth := (state.auth.consumeWebSocketTicket
              (ticketParameter request) state.now).1
            history := .ticketLookedUp (ticketParameter request)
              (state.auth.consumeWebSocketTicket
                (ticketParameter request) state.now).2 :: state.history
          } : Gate).decideRequest id
            ⟨request, (state.auth.consumeWebSocketTicket
                (ticketParameter request) state.now).2,
              password, some session, some state.here⟩) ∨
      ((isWebSocketUpgrade request = false ∨
          ticketParameter request = "") ∧
        state.checkTicket id request password session =
          state.decideRequest id
            ⟨request, false, password, some session, some state.here⟩) := by
  unfold checkTicket
  by_cases upgrade : isWebSocketUpgrade request = true
  · by_cases empty : ticketParameter request = ""
    · simp [upgrade, empty, Manager.consumeWebSocketTicket]
    · simp [upgrade, empty]
  · simp [upgrade]

/-- A `Setup` request checks, and leaves the stored password alone. -/
theorem step_setupHasPassword
    {state next : Gate}
    {id : Nat}
    {request : Request}
    {password : String}
    {fails : Bool}
    (stepped : state.step (.setupHasPassword id request password fails) =
      some next) :
    next = state ∨
      next = { state with
        setups :=
          state.setups.set id (request, !state.db.hasPassword) } := by
  simp only [step] at stepped
  split at stepped
  · cases stepped
  · split at stepped <;> cases stepped
    · exact Or.inl rfl
    · exact Or.inr rfl

/-- A `Setup` request stores its hash, or its call fails. -/
theorem step_setupStore
    {state next : Gate}
    {id : Nat}
    {hash : String}
    {fails : Bool}
    (stepped : state.step (.setupStore id hash fails) = some next) :
    ∃ request early, state.setups.get? id = some (request, early) ∧
      ((fails = true ∨ state.closed = true) ∧
          next = { state with setups := state.setups.erase id } ∨
        (fails = false ∧ state.closed = false) ∧
          next = { state with
            setups := state.setups.erase id
            db := state.db.setPasswordHash hash
            history := .passwordStored :: state.history
            replacements :=
              if state.db.hasPassword then
                (request, state.here) :: state.replacements
              else state.replacements }) := by
  simp only [step] at stepped
  split at stepped
  · next request early found =>
      refine ⟨request, early, found, ?_⟩
      split at stepped <;> cases stepped
      · next failed => exact Or.inl ⟨by simpa using failed, rfl⟩
      · next works => exact Or.inr ⟨by simpa using works, rfl⟩
  · cases stepped

end Gate
end Auth
end LociTerm
