import LociTerm.Auth.Tracking
import LociTerm.Library.Run

/-!
# Where authority comes from

Requests to the auth routes and to the routes behind `requireAuth`, one after
another, with time passing between them.  The route that hands out WebSocket
tickets is itself behind the gate, and the gate accepts a ticket for it.  As
long as nobody obtains a ticket with a ticket after the last session has ended,
every request that gets through is backed by a session that was live at most
thirty seconds before.
-/

namespace LociTerm
namespace Auth

open Store

/-- The routes behind `requireAuth`.  Only `POST /api/v1/ws-ticket` changes
the auth manager. -/
inductive Route
  | webSocketTicket
  | other
  deriving DecidableEq

/-- A request that reached its handler, and the moment at which it did. -/
structure Execution where
  route : Route
  request : Request
  point : Point
  deriving DecidableEq

/-- The server as far as authentication goes. -/
structure Service where
  now : Nat
  db : Database
  auth : Manager
  history : List Event
  /-- The moments of the run before this one, newest first. -/
  moments : List Point
  executions : List Execution
  deriving DecidableEq

/-- A request to the server, or time passing. -/
inductive ServiceAction
  | clock (later : Nat)
  /-- `POST /api/v1/auth/setup`: the password sent (empty when there is none),
  its hash unless hashing fails, whether `SetPasswordHash` fails, and the token
  to be drawn. -/
  | setup
      (password : String)
      (hash : Option String)
      (fails : Bool)
      (token : String)
  /-- `POST /api/v1/auth/login`: whether `GetPasswordHash` fails. -/
  | login (password : String) (fails : Bool) (token : String)
  | logout (request : Request)
  /-- A request to a route behind the gate, with the ticket to be drawn. -/
  | handle (route : Route) (request : Request) (ticket : String)
  deriving DecidableEq

/-- `token != "" && s.auth.validateSession(token)` -/
def checkSession (auth : Manager) (token : String) (now : Nat) :
    Manager × Bool :=
  if token = "" then (auth, false) else auth.validateSession token now

/-- `requireAuth` without other goroutines: whether it calls the handler. -/
def requireAuth
    (hasPass : Bool)
    (auth : Manager)
    (request : Request)
    (now : Nat) : Manager × Bool :=
  if !hasPass then (auth, true)
  else
    let (auth, valid) := checkSession auth (getTokenFromRequest request) now
    if valid then (auth, true)
    else if isWebSocketUpgrade request then
      auth.consumeWebSocketTicket (ticketParameter request) now
    else (auth, false)

namespace Service

/-- A new server on a database that may have a password already. -/
def start (passwordHash : Option String) : Service :=
  { now := 0
    db := { Database.empty with passwordHash := passwordHash }
    auth := Manager.new
    history := if passwordHash.isSome then [.passwordStored] else []
    moments := []
    executions := [] }

/-- This moment. -/
def here (state : Service) : Point := ⟨state.history, state.now⟩

/-- All moments of the run so far. -/
def visited (state : Service) : List Point := state.here :: state.moments

/-- A new session token, set as a cookie. -/
def issueSession (state : Service) (token : String) : Service :=
  { state with
    auth := state.auth.createSession token state.now
    history := .sessionIssued token state.now :: state.history }

/-- `AuthHandler.Setup` -/
def setup
    (state : Service)
    (password : String)
    (hash : Option String)
    (fails : Bool)
    (token : String) : Service :=
  if state.db.hasPassword then state
  else if password = "" then state
  else
    match hash with
    | none => state
    | some hash =>
        if fails then state
        else
          { state with
            db := state.db.setPasswordHash hash
            history := .passwordStored :: state.history
          }.issueSession token

/-- `AuthHandler.Login`, given `bcrypt.CompareHashAndPassword`. -/
def login
    (compareHash : String → String → Bool)
    (state : Service)
    (password : String)
    (fails : Bool)
    (token : String) : Service :=
  if password = "" then state
  else if fails || state.db.getPasswordHash = "" then state
  else if compareHash state.db.getPasswordHash password then
    state.issueSession token
  else state

/-- `AuthHandler.Logout` -/
def logout (state : Service) (request : Request) : Service :=
  let token := getTokenFromRequest request
  if token = "" then state
  else
    { state with
      auth := state.auth.deleteSession token
      history := .sessionDeleted token :: state.history }

/-- A route behind the gate. -/
def handle
    (state : Service)
    (route : Route)
    (request : Request)
    (ticket : String) : Service :=
  let (auth, passed) :=
    requireAuth state.db.hasPassword state.auth request state.now
  if passed then
    { state with
      auth :=
        match route with
        | .webSocketTicket => auth.createWebSocketTicket ticket state.now
        | .other => auth
      executions := ⟨route, request, state.here⟩ :: state.executions }
  else { state with auth := auth }

/-- Arrive at another state, and remember the moment that has passed. -/
def advance (state next : Service) : Service :=
  { next with moments := state.here :: state.moments }

/-- The step relation. -/
def step
    (compareHash : String → String → Bool)
    (state : Service) : ServiceAction → Option Service
  | .clock later =>
      if state.now ≤ later then
        some (state.advance { state with now := later })
      else none
  | .setup password hash fails token =>
      some (state.advance (state.setup password hash fails token))
  | .login password fails token =>
      some (state.advance (state.login compareHash password fails token))
  | .logout request => some (state.advance (state.logout request))
  | .handle route request ticket =>
      some (state.advance (state.handle route request ticket))

end Service

/-- A session token was live at most thirty seconds before the execution. -/
def Execution.Backed (execution : Execution) (moments : List Point) : Prop :=
  ∃ moment ∈ moments, moment.Before execution.point ∧
    execution.point.now ≤ moment.now + ticketLifetime ∧
    ∃ token, moment.SessionLive token

/-! ## What the gate does to the token maps -/

theorem checkSession_within (auth : Manager) (token : String) (now : Nat) :
    (checkSession auth token now).1.Within auth := by
  unfold checkSession
  split
  · exact Manager.Within.refl auth
  · exact auth.validateSession_within token now

theorem wsTickets_checkSession (auth : Manager) (token : String) (now : Nat) :
    (checkSession auth token now).1.wsTickets = auth.wsTickets := by
  unfold checkSession Manager.validateSession
  split
  · rfl
  · split
    · rfl
    · split <;> rfl

theorem requireAuth_within
    (hasPass : Bool)
    (auth : Manager)
    (request : Request)
    (now : Nat) :
    (requireAuth hasPass auth request now).1.Within auth := by
  have checked := checkSession_within auth (getTokenFromRequest request) now
  unfold requireAuth
  split
  · exact Manager.Within.refl auth
  · simp only
    split
    · exact checked
    · split
      · exact (Manager.consumeWebSocketTicket_within _ _ now).trans checked
      · exact checked

/-- A request gets through with a session entry or a ticket entry that has not
expired. -/
theorem requireAuth_passes
    {auth : Manager}
    {request : Request}
    {now : Nat}
    (passed : (requireAuth true auth request now).2 = true) :
    (∃ token expiry, auth.sessions.get? token = some expiry ∧
        now ≤ expiry) ∨
      isWebSocketUpgrade request = true ∧
        (auth.consumeWebSocketTicket
          (ticketParameter request) now).2 = true := by
  unfold requireAuth at passed
  simp only [Bool.not_true, Bool.false_eq_true, if_false] at passed
  split at passed
  · next valid =>
      unfold checkSession at valid
      split at valid
      · cases valid
      · exact Or.inl ⟨_, Manager.validateSession_iff.mp valid⟩
  · split at passed
    · next upgrade =>
        refine Or.inr ⟨upgrade, ?_⟩
        rwa [Manager.consumeWebSocketTicket_iff, wsTickets_checkSession,
          ← Manager.consumeWebSocketTicket_iff] at passed
    · cases passed

namespace Service

/-! ## The invariant -/

/-- Session entries belong to live tokens, and once there is a password every
ticket reaches at most thirty seconds beyond a moment with a live token. -/
structure Accounted (state : Service) : Prop where
  sessionEntry : ∀ token expiry,
    state.auth.sessions.get? token = some expiry →
      ∃ issued, expiry = issued + sessionLifetime ∧
        SessionSince state.history token issued
  password : .passwordStored ∈ state.history ↔ state.db.hasPassword = true
  ticketYoung : ∀ ticket expiry,
    state.auth.wsTickets.get? ticket = some expiry →
      expiry ≤ state.now + ticketLifetime
  ticketBacked : state.db.hasPassword = true → ∀ ticket expiry,
    state.auth.wsTickets.get? ticket = some expiry →
      ∃ moment ∈ state.visited, moment.Before state.here ∧
        expiry ≤ moment.now + ticketLifetime ∧
        ∃ token, moment.SessionLive token
  executions : ∀ execution ∈ state.executions,
    ¬execution.point.NoPassword → execution.Backed state.visited

theorem Accounted.start (passwordHash : Option String) :
    (start passwordHash).Accounted where
  sessionEntry := by simp [Service.start, Manager.new]
  password := by
    cases passwordHash <;> simp [Service.start, Database.hasPassword]
  ticketYoung := by simp [Service.start, Manager.new]
  ticketBacked := by simp [Service.start, Manager.new]
  executions := by simp [Service.start]

/-- An entry that has not expired belongs to a live token. -/
theorem Accounted.sessionLive
    {state : Service}
    {token : String}
    {expiry : Nat}
    (accounted : state.Accounted)
    (entry : state.auth.sessions.get? token = some expiry)
    (young : state.now ≤ expiry) :
    state.here.SessionLive token := by
  obtain ⟨issued, rfl, since⟩ := accounted.sessionEntry token expiry entry
  exact ⟨issued, since, young⟩

/-- What a step may do.  A ticket is new only when a token is live, and the
password is new only when a token is live afterwards. -/
theorem Accounted.advance
    {state next : Service}
    (accounted : state.Accounted)
    (before : state.here.Before next.here)
    (sessionEntry : ∀ token expiry,
      next.auth.sessions.get? token = some expiry →
        ∃ issued, expiry = issued + sessionLifetime ∧
          SessionSince next.history token issued)
    (password : .passwordStored ∈ next.history ↔
      next.db.hasPassword = true)
    (tickets : ∀ ticket expiry,
      next.auth.wsTickets.get? ticket = some expiry →
        state.auth.wsTickets.get? ticket = some expiry ∨
          expiry = state.now + ticketLifetime ∧
            (state.db.hasPassword = true →
              ∃ token, state.here.SessionLive token))
    (stored : next.db.hasPassword = true → state.db.hasPassword = true ∨
      ∃ token, next.here.SessionLive token)
    (executions : ∀ execution ∈ next.executions,
      execution ∈ state.executions ∨
        (¬execution.point.NoPassword → execution.Backed state.visited)) :
    (state.advance next).Accounted where
  sessionEntry := sessionEntry
  password := password
  ticketYoung := by
    intro ticket expiry entry
    have later : state.now ≤ next.now := before.1
    change expiry ≤ next.now + ticketLifetime
    rcases tickets ticket expiry entry with old | ⟨rfl, _⟩
    · have young := accounted.ticketYoung ticket expiry old
      omega
    · omega
  ticketBacked := by
    intro configured ticket expiry entry
    rcases stored configured with earlier | live
    · rcases tickets ticket expiry entry with old | ⟨rfl, live⟩
      · obtain ⟨moment, visited, past, reach, live⟩ :=
          accounted.ticketBacked earlier ticket expiry old
        exact ⟨moment, List.mem_cons_of_mem _ visited, past.trans before,
          reach, live⟩
      · exact ⟨state.here, List.mem_cons_of_mem _ List.mem_cons_self, before,
          le_rfl, live earlier⟩
    · -- The session of the Setup that stored the password backs every ticket.
      refine ⟨next.here, List.mem_cons_self, Point.Before.refl _, ?_, live⟩
      have later : state.now ≤ next.now := before.1
      change expiry ≤ next.now + ticketLifetime
      rcases tickets ticket expiry entry with old | ⟨rfl, _⟩
      · have young := accounted.ticketYoung ticket expiry old
        omega
      · omega
  executions := by
    intro execution member configured
    have backed : execution.Backed state.visited := by
      rcases executions execution member with old | backed
      · exact accounted.executions execution old configured
      · exact backed configured
    obtain ⟨moment, visited, facts⟩ := backed
    exact ⟨moment, List.mem_cons_of_mem _ visited, facts⟩

/-! ## Steps -/

/-- A request that changes nothing. -/
theorem Accounted.unchanged
    {state : Service}
    (accounted : state.Accounted) :
    (state.advance state).Accounted :=
  accounted.advance (Point.Before.refl _) accounted.sessionEntry
    accounted.password (fun _ _ entry => Or.inl entry) Or.inl
    fun _ member => Or.inl member

theorem Accounted.clock
    {state : Service}
    {later : Nat}
    (accounted : state.Accounted)
    (forward : state.now ≤ later) :
    (state.advance { state with now := later }).Accounted := by
  apply accounted.advance
  · exact ⟨forward, List.suffix_rfl⟩
  · exact accounted.sessionEntry
  · exact accounted.password
  · exact fun _ _ entry => Or.inl entry
  · exact Or.inl
  · exact fun _ member => Or.inl member

/-- The entries after a token has been issued. -/
theorem Accounted.sessionEntry_issueSession
    {state : Service}
    {history : List Event}
    (accounted : state.Accounted)
    (issued : String)
    (kept : ∀ token time, SessionSince state.history token time →
      SessionSince history token time)
    (token : String)
    (expiry : Nat)
    (entry : (state.auth.createSession issued state.now).sessions.get? token =
      some expiry) :
    ∃ time, expiry = time + sessionLifetime ∧
      SessionSince (.sessionIssued issued state.now :: history) token
        time := by
  simp only [Manager.createSession, Table.get?_set] at entry
  simp only [SessionSince, Since.cons_iff]
  split at entry
  · next same =>
      cases entry
      exact ⟨state.now, rfl, Or.inl (by rw [same])⟩
  · obtain ⟨time, rfl, since⟩ := accounted.sessionEntry token expiry entry
    exact ⟨time, rfl, Or.inr ⟨by simp, kept token time since⟩⟩

/-- A token that has just been issued is live. -/
theorem issueSession_live (state : Service) (token : String) :
    (state.issueSession token).here.SessionLive token :=
  ⟨state.now, Since.cons_iff.mpr (Or.inl rfl), Nat.le_add_right _ _⟩

theorem Accounted.issueSession
    {state : Service}
    (accounted : state.Accounted)
    (token : String) :
    (state.advance (state.issueSession token)).Accounted := by
  apply accounted.advance
  · exact ⟨le_rfl, List.suffix_cons _ _⟩
  · exact accounted.sessionEntry_issueSession token fun _ _ since => since
  · simpa [Service.issueSession] using accounted.password
  · exact fun _ _ entry => Or.inl entry
  · exact Or.inl
  · exact fun _ member => Or.inl member

theorem Accounted.setup
    {state : Service}
    {password : String}
    {hash : Option String}
    {fails : Bool}
    {token : String}
    (accounted : state.Accounted) :
    (state.advance (state.setup password hash fails token)).Accounted := by
  unfold Service.setup
  split
  · exact accounted.unchanged
  · split
    · exact accounted.unchanged
    · split
      · exact accounted.unchanged
      · split
        · exact accounted.unchanged
        · apply accounted.advance
          · refine ⟨le_rfl, ?_⟩
            exact (List.suffix_cons _ _).trans (List.suffix_cons _ _)
          · apply accounted.sessionEntry_issueSession token
            intro other time since
            exact (Since.cons_iff_of_neither (by simp) (by simp)).mpr since
          · simp [Service.issueSession, Database.setPasswordHash,
              Database.hasPassword]
          · exact fun _ _ entry => Or.inl entry
          · exact fun _ => Or.inr ⟨token, issueSession_live _ token⟩
          · exact fun _ member => Or.inl member

theorem Accounted.login
    {compareHash : String → String → Bool}
    {state : Service}
    {password : String}
    {fails : Bool}
    {token : String}
    (accounted : state.Accounted) :
    (state.advance
      (state.login compareHash password fails token)).Accounted := by
  unfold Service.login
  split
  · exact accounted.unchanged
  · split
    · exact accounted.unchanged
    · split
      · exact accounted.issueSession token
      · exact accounted.unchanged

theorem Accounted.logout
    {state : Service}
    {request : Request}
    (accounted : state.Accounted) :
    (state.advance (state.logout request)).Accounted := by
  unfold Service.logout
  simp only
  split
  · exact accounted.unchanged
  · apply accounted.advance
    · exact ⟨le_rfl, List.suffix_cons _ _⟩
    · intro token expiry entry
      simp only [Manager.deleteSession, Table.get?_erase] at entry
      split at entry
      · cases entry
      · next different =>
          obtain ⟨issued, rfl, since⟩ :=
            accounted.sessionEntry token expiry entry
          refine ⟨issued, rfl, Since.cons_iff.mpr (Or.inr ⟨?_, since⟩)⟩
          simpa using different
    · simpa using accounted.password
    · exact fun _ _ entry => Or.inl entry
    · exact Or.inl
    · exact fun _ member => Or.inl member

/-! ## The gate -/

/-- Some session token has an entry that has not expired. -/
def SessionLeft (state : Service) : Prop :=
  ∃ entry ∈ state.auth.sessions.entries, state.now ≤ entry.2

instance (state : Service) : Decidable state.SessionLeft :=
  inferInstanceAs (Decidable (∃ entry ∈ _, _))

/-- Once there is a password, no upgrade request with a valid ticket asks for
another ticket when there is no session left. -/
def MintsInSession (state : Service) : ServiceAction → Prop
  | .handle .webSocketTicket request _ =>
      state.db.hasPassword = true → isWebSocketUpgrade request = true →
        (state.auth.consumeWebSocketTicket
          (ticketParameter request) state.now).2 = true →
        state.SessionLeft
  | _ => True

instance (state : Service) : ∀ action, Decidable (state.MintsInSession action)
  | .handle .webSocketTicket _ _ => inferInstanceAs (Decidable (_ → _ → _ → _))
  | .handle .other _ _ | .clock _ | .setup _ _ _ _ | .login _ _ _
  | .logout _ => isTrue trivial

/-- The session that is left is live. -/
theorem Accounted.sessionLeft
    {state : Service}
    (accounted : state.Accounted)
    (left : state.SessionLeft) :
    ∃ token, state.here.SessionLive token := by
  obtain ⟨⟨token, expiry⟩, member, young⟩ := left
  have entry := (Table.mem_entries_iff _ token expiry).mp member
  exact ⟨token, accounted.sessionLive entry young⟩

/-- What backs a request that gets through: a live token now, or a ticket. -/
theorem Accounted.passes
    {state : Service}
    {request : Request}
    (accounted : state.Accounted)
    (configured : state.db.hasPassword = true)
    (passed : (requireAuth state.db.hasPassword state.auth request
      state.now).2 = true) :
    (∃ token, state.here.SessionLive token) ∨
      isWebSocketUpgrade request = true ∧
        (state.auth.consumeWebSocketTicket
          (ticketParameter request) state.now).2 = true := by
  rw [configured] at passed
  rcases requireAuth_passes passed with ⟨token, expiry, entry, young⟩ | ticket
  · exact Or.inl ⟨token, accounted.sessionLive entry young⟩
  · exact Or.inr ticket

theorem Accounted.handle
    {state : Service}
    {route : Route}
    {request : Request}
    {ticket : String}
    (accounted : state.Accounted)
    (minted : state.MintsInSession (.handle route request ticket)) :
    (state.advance (state.handle route request ticket)).Accounted := by
  have within := requireAuth_within state.db.hasPassword state.auth request
    state.now
  unfold Service.handle
  simp only
  split
  · next passed =>
      have backed (configured : state.db.hasPassword = true) :
          Execution.Backed ⟨route, request, state.here⟩ state.visited := by
        rcases accounted.passes configured passed with live | ⟨_, accepts⟩
        · exact ⟨state.here, List.mem_cons_self, Point.Before.refl _,
            Nat.le_add_right _ _, live⟩
        · obtain ⟨_, expiry, entry, young⟩ :=
            Manager.consumeWebSocketTicket_iff.mp accepts
          obtain ⟨moment, visited, past, reach, live⟩ :=
            accounted.ticketBacked configured _ expiry entry
          exact ⟨moment, visited, past, (young.trans_le reach).le, live⟩
      apply accounted.advance
      · exact Point.Before.refl _
      · intro token expiry entry
        apply accounted.sessionEntry token expiry
        cases route <;> exact within.sessions token expiry entry
      · exact accounted.password
      · intro other expiry entry
        cases route with
        | other => exact Or.inl (within.wsTickets other expiry entry)
        | webSocketTicket =>
            simp only [Manager.createWebSocketTicket, Table.get?_set] at entry
            split at entry
            · cases entry
              refine Or.inr ⟨rfl, fun configured => ?_⟩
              rcases accounted.passes configured passed with
                live | ⟨upgrade, accepts⟩
              · exact live
              · exact accounted.sessionLeft
                  (minted configured upgrade accepts)
            · exact Or.inl (within.wsTickets other expiry entry)
      · exact Or.inl
      · intro execution member
        rcases List.mem_cons.mp member with rfl | member
        · refine Or.inr fun configured => backed ?_
          exact accounted.password.mp (not_not.mp configured)
        · exact Or.inl member
  · apply accounted.advance
    · exact Point.Before.refl _
    · exact fun token expiry entry => accounted.sessionEntry token expiry
        (within.sessions token expiry entry)
    · exact accounted.password
    · exact fun other expiry entry =>
        Or.inl (within.wsTickets other expiry entry)
    · exact Or.inl
    · exact fun _ member => Or.inl member

theorem Accounted.step
    {compareHash : String → String → Bool}
    {state next : Service}
    {action : ServiceAction}
    (accounted : state.Accounted)
    (minted : state.MintsInSession action)
    (stepped : state.step compareHash action = some next) :
    next.Accounted := by
  cases action with
  | clock later =>
      simp only [Service.step] at stepped
      split at stepped <;> cases stepped
      next forward => exact accounted.clock forward
  | setup password hash fails token =>
      cases stepped
      exact accounted.setup
  | login password fails token =>
      cases stepped
      exact accounted.login
  | logout request =>
      cases stepped
      exact accounted.logout
  | handle route request ticket =>
      cases stepped
      exact accounted.handle minted

/-- Authority dies with the last session: every execution after the password
was stored is backed, and none comes thirty seconds after the last moment with
a live token. -/
theorem backed_of_mintsInSession
    {compareHash : String → String → Bool}
    {passwordHash : Option String}
    {actions : List ServiceAction}
    {state : Service}
    (minted : Follows (Service.step compareHash) MintsInSession
      (start passwordHash) actions)
    (ran : run (Service.step compareHash) (start passwordHash) actions =
      some state) :
    (∀ execution ∈ state.executions, ¬execution.point.NoPassword →
        execution.Backed state.visited) ∧
      ∀ ending, (∀ moment ∈ state.visited, ending ≤ moment.now →
          ∀ token, ¬moment.SessionLive token) →
        ∀ execution ∈ state.executions, ¬execution.point.NoPassword →
          execution.point.now < ending + ticketLifetime := by
  have preserved : ∀ (state : Service) action next, state.Accounted →
      state.MintsInSession action →
      state.step compareHash action = some next → next.Accounted :=
    fun _ _ _ accounted minted stepped => accounted.step minted stepped
  have accounted := invariant_of_run preserved
    (Accounted.start passwordHash) minted ran
  refine ⟨accounted.executions, ?_⟩
  intro ending ended execution member configured
  obtain ⟨moment, visited, _, reach, token, live⟩ :=
    accounted.executions execution member configured
  have early : moment.now < ending := by
    by_contra late
    exact ended moment visited (Nat.le_of_not_lt late) token live
  omega

/-- A hash that shows the password. -/
def plainCompare (hash password : String) : Bool := hash == password

/-- A request with a session cookie. -/
def withSession (token : String) : Request :=
  ⟨[("lociterm_session", token)], "", "", []⟩

/-- An upgrade request with a ticket. -/
def withTicket (ticket : String) : Request :=
  ⟨[], "websocket", "Upgrade", [("ticket", ticket)]⟩

/-- A user logs in and out, and uses a ticket once more. -/
def logoutRun : List ServiceAction :=
  [.setup "secret" (some "secret") false "first",
    .login "secret" false "s",
    .logout (withSession "first"),
    .handle .webSocketTicket (withSession "s") "t",
    .logout (withSession "s"), .clock 20000000000,
    .handle .other (withTicket "t") "",
    .handle .other (withSession "s") ""]

/-- The ticket outlives the session, but by less than thirty seconds. -/
theorem backed_logoutRun :
    (∀ execution ∈ ((run (Service.step plainCompare) (start none)
        logoutRun).get (by decide)).executions,
      ¬execution.point.NoPassword →
        execution.Backed ((run (Service.step plainCompare) (start none)
          logoutRun).get (by decide)).visited) ∧
      ∀ ending, (∀ moment ∈ ((run (Service.step plainCompare) (start none)
          logoutRun).get (by decide)).visited, ending ≤ moment.now →
            ∀ token, ¬moment.SessionLive token) →
        ∀ execution ∈ ((run (Service.step plainCompare) (start none)
          logoutRun).get (by decide)).executions,
          ¬execution.point.NoPassword →
            execution.point.now < ending + ticketLifetime :=
  backed_of_mintsInSession (by decide) (Option.some_get _).symm

/-- After the logout, a ticket obtains the next ticket. -/
def ticketChain : List ServiceAction :=
  [.setup "secret" (some "secret") false "s",
    .handle .webSocketTicket (withSession "s") "t",
    .logout (withSession "s"), .clock 29000000000,
    .handle .webSocketTicket (withTicket "t") "u", .clock 58000000000,
    .handle .other (withTicket "u") ""]

/-- A chain of tickets lets a request through long after the logout. -/
theorem not_backed_ticketChain :
    ¬∀ actions state,
      run (Service.step plainCompare) (start none) actions = some state →
        ∀ execution ∈ state.executions, ¬execution.point.NoPassword →
          execution.Backed state.visited := by
  intro backed
  let state := (run (Service.step plainCompare) (start none) ticketChain).get
    (by decide)
  let history : List Event :=
    [.sessionDeleted "s", .sessionIssued "s" 0, .passwordStored]
  have executed :
      (⟨.other, withTicket "u", history, 58000000000⟩ : Execution) ∈
        state.executions := by
    decide
  have loggedOut : ∀ moment ∈ state.visited, 28000000000 ≤ moment.now →
      moment.history = history := by
    decide
  obtain ⟨moment, visited, _, reach, token, issued, since, _⟩ :=
    backed ticketChain state (Option.some_get _).symm _ executed
      (by simp [Point.NoPassword, history])
  have late : 28000000000 ≤ moment.now := by
    simp only [ticketLifetime] at reach
    omega
  rw [loggedOut moment visited late] at since
  simp only [SessionSince, Since.cons_iff, history] at since
  simp only [reduceCtorEq, not_false_eq_true, Event.sessionDeleted.injEq,
    Event.sessionIssued.injEq, Since.not_nil, false_or, true_and,
    or_false] at since
  exact since.1 since.2.1

end Service
end Auth
end LociTerm
