import LociTerm.Auth.Characterisation

/-!
# Single use of tickets

The gate looks at the session cookie first and at the ticket last.  A ticket
lets one request through, but a request with a valid cookie is let through
before its ticket is looked at, and the ticket stays as it is.
-/

namespace LociTerm
namespace Auth

/-- The request was let through for its ticket. -/
def Verdict.byTicket (verdict : Verdict) (ticket : String) : Bool :=
  verdict.passed && verdict.ticket.isSome &&
    ticketParameter verdict.request = ticket

/-- The request was let through, is a WebSocket upgrade and carries the
ticket. -/
def Verdict.opensSocket (verdict : Verdict) (ticket : String) : Bool :=
  verdict.passed && isWebSocketUpgrade verdict.request &&
    ticketParameter verdict.request = ticket

namespace Gate

/-- Every request that was let through for the ticket has a lookup that
accepted it. -/
def Redeemed (state : Gate) (ticket : String) : Prop :=
  state.verdicts.countP (·.byTicket ticket) ≤
    state.history.count (.ticketLookedUp ticket true)

namespace Redeemed

variable {state : Gate} {ticket : String}

theorem start (passwordHash : Option String) (ticket : String) :
    (Gate.start passwordHash).Redeemed ticket :=
  Nat.zero_le _

/-- The history grows, and no request is decided. -/
theorem grow
    {next : Gate}
    (redeemed : state.Redeemed ticket)
    (verdicts : next.verdicts = state.verdicts)
    (history : state.history <:+ next.history) :
    next.Redeemed ticket := by
  unfold Redeemed
  rw [verdicts]
  exact Nat.le_trans redeemed (history.sublist.count_le _)

/-- The request is decided without its ticket. -/
theorem decideRequest
    (redeemed : state.Redeemed ticket)
    (id : Nat)
    {verdict : Verdict}
    (without : verdict.byTicket ticket = false) :
    (state.decideRequest id verdict).Redeemed ticket := by
  unfold Redeemed Gate.decideRequest
  rw [List.countP_cons_of_neg (by simp [without])]
  exact redeemed

/-- The request is decided by the lookup of its ticket. -/
theorem checkTicket
    (redeemed : state.Redeemed ticket)
    (id : Nat)
    (request : Request)
    (password session : Point) :
    (state.checkTicket id request password session).Redeemed ticket := by
  rcases checkTicket_cases state id request password session with
    ⟨_, _, checked⟩ | ⟨_, checked⟩
  · rw [checked]
    let accepted := (state.auth.consumeWebSocketTicket
      (ticketParameter request) state.now).2
    unfold Redeemed Gate.decideRequest
    rw [List.countP_cons, List.count_cons]
    refine Nat.add_le_add redeemed ?_
    by_cases used : accepted = true ∧ ticketParameter request = ticket
    · obtain ⟨accepts, rfl⟩ := used
      simp only [accepted] at accepts
      simp [Verdict.byTicket, accepts]
    · rw [if_neg]
      · exact Nat.zero_le _
      · simpa [Verdict.byTicket] using used
  · rw [checked]
    exact redeemed.decideRequest id (by simp [Verdict.byTicket])

theorem step
    {next : Gate}
    {action : GateAction}
    (redeemed : state.Redeemed ticket)
    (stepped : state.step action = some next) :
    next.Redeemed ticket := by
  cases action with
  | hasPassword id fails =>
      obtain ⟨request, _, ⟨_, rfl⟩ | ⟨_, rfl⟩⟩ := step_hasPassword stepped
      · exact redeemed
      · exact redeemed.decideRequest id (by simp [Verdict.byTicket])
  | lookupSession id =>
      obtain ⟨_, _, _, ⟨_, rfl⟩ | ⟨_, _, rfl⟩⟩ := step_lookupSession stepped
      · exact redeemed
      · exact redeemed
  | readClock id =>
      obtain ⟨_, _, _, _, _, ⟨_, rfl⟩ | ⟨_, rfl⟩⟩ := step_readClock stepped
      · exact redeemed
      · exact redeemed.decideRequest id (by simp [Verdict.byTicket])
  | evictSession id =>
      obtain ⟨_, _, _, _, rfl⟩ := step_evictSession stepped
      exact redeemed
  | consumeTicket id =>
      obtain ⟨request, password, session, _, rfl⟩ :=
        step_consumeTicket stepped
      exact redeemed.checkTicket id request password session
  | setupHasPassword id request password fails =>
      rcases step_setupHasPassword stepped with rfl | rfl
      · exact redeemed
      · exact redeemed
  | setupStore id hash fails =>
      obtain ⟨_, _, _, ⟨_, rfl⟩ | ⟨_, rfl⟩⟩ := step_setupStore stepped
      · exact redeemed
      · exact redeemed.grow rfl (List.suffix_cons _ _)
  | clock later | arrive id request =>
      simp only [Gate.step] at stepped
      split at stepped <;> cases stepped
      exact redeemed
  | createSession token | createTicket token =>
      simp only [Gate.step] at stepped
      split at stepped <;> cases stepped
      exact redeemed.grow rfl (List.suffix_cons _ _)
  | closeStore =>
      cases stepped
      exact redeemed
  | deleteSession token =>
      cases stepped
      exact redeemed.grow rfl (List.suffix_cons _ _)

end Redeemed

/-- In every run, each ticket lets at most one request through. -/
theorem ticket_opens_once
    {passwordHash : Option String}
    {actions : List GateAction}
    {state : Gate}
    (ran : run Gate.step (start passwordHash) actions = some state)
    (ticket : String) :
    state.verdicts.countP (·.byTicket ticket) ≤ 1 := by
  have redeemed : state.Redeemed ticket :=
    invariant_of_unconditional_run
      (fun _ _ _ redeemed stepped => Redeemed.step redeemed stepped)
      (Redeemed.start passwordHash ticket) ran
  have tracked : state.Tracked :=
    invariant_of_unconditional_run
      (fun _ _ _ tracked stepped => Tracked.step tracked stepped)
      (Tracked.start passwordHash) ran
  exact Nat.le_trans redeemed (tracked.consumedOnce ticket)

theorem ticket_opens_once_ticketRun :
    ((run Gate.step (start (some "hash")) ticketRun).get
      (by decide)).verdicts.countP (·.byTicket "t") ≤ 1 :=
  ticket_opens_once (Option.some_get _).symm "t"

/-- A browser's terminal request with a session cookie and a ticket. -/
def cookieRequest (token ticket : String) : Request :=
  ⟨[("lociterm_session", token)], "websocket", "Upgrade",
    [("ticket", ticket)]⟩

/-- One ticket comes twice, with a valid cookie each time. -/
def cookieRun : List GateAction :=
  [.createSession "s", .createTicket "t",
    .arrive 1 (cookieRequest "s" "t"), .hasPassword 1 false,
    .lookupSession 1, .readClock 1,
    .arrive 2 (cookieRequest "s" "t"), .hasPassword 2 false,
    .lookupSession 2, .readClock 2]

/-- The password is configured from the start, and both requests are let
through. -/
theorem not_opensSocket_once :
    ∃ passwordHash actions state ticket, passwordHash.isSome = true ∧
      run Gate.step (start passwordHash) actions = some state ∧
      ¬state.verdicts.countP (·.opensSocket ticket) ≤ 1 :=
  ⟨some "hash", cookieRun,
    (run Gate.step (start (some "hash")) cookieRun).get (by decide), "t",
    rfl, (Option.some_get _).symm, by decide⟩

end Gate
end Auth
end LociTerm
