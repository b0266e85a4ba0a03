import LociTerm.Auth.Deciding
import LociTerm.Auth.Tracking

/-!
# What the gate lets through

As long as `HasPassword` does not fail, the gate decides every request by the
characterisation: no password is stored, or the session token is live, or the
request is a WebSocket upgrade with a live ticket.
-/

namespace LociTerm
namespace Auth
namespace Gate

/-! ## Every step keeps the history -/

theorem Tracked.checkTicket
    {state : Gate}
    {id : Nat}
    {request : Request}
    {password session : Point}
    (tracked : state.Tracked) :
    (state.checkTicket id request password session).Tracked := by
  rcases checkTicket_cases state id request password session with
    ⟨_, nonempty, checked⟩ | ⟨_, checked⟩
  · rw [checked]
    exact (tracked.consumeTicket nonempty).decideRequest
  · rw [checked]
    exact tracked.decideRequest

/-- Every step of every request keeps the invariant. -/
theorem Tracked.step
    {state next : Gate}
    {action : GateAction}
    (tracked : state.Tracked)
    (stepped : state.step action = some next) :
    next.Tracked := by
  cases action with
  | clock later =>
      simp only [Gate.step] at stepped
      split at stepped <;> cases stepped
      next forward => exact tracked.clock forward
  | closeStore =>
      cases stepped
      exact tracked.ofStages rfl rfl rfl rfl rfl tracked.stages
  | arrive id request =>
      simp only [Gate.step] at stepped
      split at stepped <;> cases stepped
      exact tracked.proceed trivial
  | hasPassword id fails =>
      obtain ⟨request, _, ⟨stored, rfl⟩ | ⟨_, rfl⟩⟩ :=
        step_hasPassword stepped
      · apply tracked.proceed
        refine ⟨Point.Before.refl _, fun absent => absent ?_⟩
        rw [Gate.here, tracked.password]
        exact (readsPassword_iff.mp stored).2
      · exact tracked.decideRequest
  | lookupSession id =>
      obtain ⟨request, password, found, ⟨refused, rfl⟩ | ⟨expiry, entry, rfl⟩⟩ :=
        step_lookupSession stepped
      · obtain ⟨before, stored⟩ := tracked.stages _ _ _ found
        apply tracked.proceed
        refine ⟨stored, before, Point.Before.refl _, ?_⟩
        rcases refused with empty | absent
        · rw [empty]
          exact tracked.not_sessionLive_empty
        · apply tracked.not_sessionLive
          simp [absent]
      · obtain ⟨before, stored⟩ := tracked.stages _ _ _ found
        apply tracked.proceed
        exact ⟨stored, before, Point.Before.refl _,
          tracked.sessionEntry _ _ entry⟩
  | readClock id =>
      obtain ⟨request, password, lookup, expiry, found,
        ⟨past, rfl⟩ | ⟨_, rfl⟩⟩ := step_readClock stepped
      · exact tracked.proceed
          (tracked.expired (tracked.stages _ _ _ found) past)
      · exact tracked.decideRequest
  | evictSession id =>
      obtain ⟨request, password, expired, found, rfl⟩ :=
        step_evictSession stepped
      exact tracked.evictSession (tracked.stages _ _ _ found)
  | consumeTicket id =>
      obtain ⟨request, password, session, _, rfl⟩ :=
        step_consumeTicket stepped
      exact tracked.checkTicket
  | setupHasPassword id request password fails =>
      rcases step_setupHasPassword stepped with rfl | rfl
      · exact tracked
      · exact tracked.ofStages rfl rfl rfl rfl rfl tracked.stages
  | setupStore id hash fails =>
      obtain ⟨request, early, _, ⟨_, rfl⟩ | ⟨_, rfl⟩⟩ :=
        step_setupStore stepped
      · exact tracked.ofStages rfl rfl rfl rfl rfl tracked.stages
      · have stored := tracked.storePassword hash
        exact stored.ofStages rfl rfl rfl rfl rfl stored.stages
  | createSession token =>
      simp only [Gate.step] at stepped
      split at stepped <;> cases stepped
      next fresh =>
        obtain ⟨nonempty, fresh⟩ := not_or.mp fresh
        exact tracked.createSession nonempty fresh
  | deleteSession token =>
      cases stepped
      exact tracked.deleteSession
  | createTicket token =>
      simp only [Gate.step] at stepped
      split at stepped <;> cases stepped
      next fresh =>
        obtain ⟨nonempty, fresh⟩ := not_or.mp fresh
        exact tracked.createTicket nonempty fresh

/-! ## Verdicts -/

/-- The verdict of a gate that was told there is no password. -/
def openVerdict (state : Gate) (request : Request) : Verdict :=
  ⟨request, true, state.here, none, none⟩

theorem openVerdict_exact
    {state : Gate}
    {request : Request}
    (absent : state.here.NoPassword) :
    (state.openVerdict request).Exact where
  checks := by simp [openVerdict, absent]
  complete := by simp [openVerdict]
  order := by simp [openVerdict]
  instant := fun _ =>
    ⟨state.here, Or.inl rfl, by simp [openVerdict, Point.Authorised, absent]⟩

/-- The verdict of a gate that has found a valid session. -/
theorem Tracked.session_exact
    {state : Gate}
    {request : Request}
    {password lookup : Point}
    {expiry : Nat}
    (accurate : (Stage.found password lookup expiry).Accurate state.here
      request)
    (valid : state.now ≤ expiry) :
    Verdict.Exact ⟨request, true, password, some lookup, none⟩ := by
  obtain ⟨stored, order, before, issued, rfl, since⟩ := accurate
  have live : lookup.SessionLive (getTokenFromRequest request) :=
    ⟨issued, since, before.1.trans valid⟩
  refine ⟨by simp [live], by simp, ⟨by simpa using order, by simp⟩, ?_⟩
  intro _
  exact ⟨lookup, Or.inr (Or.inl rfl), by simp [Point.Authorised, live]⟩

/-- The verdict of a gate that has come to the ticket. -/
theorem Tracked.ticket_exact
    {state : Gate}
    {request : Request}
    {password session : Point}
    {accepted : Bool}
    (accurate : (Stage.ticket password session).Accurate state.here request)
    (exact : accepted = true ↔ isWebSocketUpgrade request = true ∧
      state.here.TicketLive (ticketParameter request)) :
    Verdict.Exact
      ⟨request, accepted, password, some session, some state.here⟩ := by
  obtain ⟨stored, order, before, dead⟩ := accurate
  refine ⟨?_, by simp, ⟨by simpa using order, by simpa using before⟩, ?_⟩
  · simp [stored, dead, exact]
  · intro unissued
    -- Nothing the earlier checks denied has become true since.
    have stillStored := (order.trans before).password stored
    have stillDead :
        ¬state.here.SessionLive (getTokenFromRequest request) := fun live =>
      dead (before.sessionLive (unissued session state.here rfl rfl) live)
    exact ⟨state.here, Or.inr (Or.inr rfl),
      by simp [Point.Authorised, stillStored, stillDead, exact]⟩

/-- A step decides no request wrongly, unless `HasPassword` fails. -/
theorem Tracked.verdicts
    {state next : Gate}
    {action : GateAction}
    (tracked : state.Tracked)
    (stepped : state.step action = some next) :
    next.verdicts = state.verdicts ∨
      ∃ verdict, next.verdicts = verdict :: state.verdicts ∧
        (verdict.Exact ∨
          ∃ id fails request, action = .hasPassword id fails ∧
            state.requests.get? id = some (request, .arrived) ∧
            (fails = true ∨ state.closed = true) ∧
            verdict = state.openVerdict request) := by
  cases action with
  | hasPassword id fails =>
      obtain ⟨request, found, ⟨_, rfl⟩ | ⟨unread, rfl⟩⟩ :=
        step_hasPassword stepped
      · exact Or.inl rfl
      · refine Or.inr ⟨state.openVerdict request, rfl, ?_⟩
        by_cases failed : fails = true ∨ state.closed = true
        · exact Or.inr ⟨id, fails, request, rfl, found, failed, rfl⟩
        · apply Or.inl
          apply openVerdict_exact
          intro member
          have stored := tracked.password.mp member
          exact unread (readsPassword_iff.mpr ⟨failed, stored⟩)
  | readClock id =>
      obtain ⟨request, password, lookup, expiry, found,
        ⟨_, rfl⟩ | ⟨valid, rfl⟩⟩ := step_readClock stepped
      · exact Or.inl rfl
      · refine Or.inr ⟨_, rfl, Or.inl ?_⟩
        exact Tracked.session_exact (tracked.stages _ _ _ found) valid
  | consumeTicket id =>
      obtain ⟨request, password, session, found, rfl⟩ :=
        step_consumeTicket stepped
      have accurate := tracked.stages _ _ _ found
      rcases checkTicket_cases state id request password session with
        ⟨upgrade, _, checked⟩ | ⟨refused, checked⟩
      · rw [checked]
        refine Or.inr ⟨_, rfl, Or.inl ?_⟩
        exact Tracked.ticket_exact accurate
          (by simp [upgrade, tracked.consume_iff])
      · rw [checked]
        refine Or.inr ⟨_, rfl, Or.inl ?_⟩
        apply Tracked.ticket_exact accurate
        rcases refused with plain | empty
        · simp [plain]
        · simp [empty, tracked.not_ticketLive_empty]
  | clock | arrive | createSession | createTicket =>
      simp only [Gate.step] at stepped
      split at stepped <;> cases stepped
      exact Or.inl rfl
  | closeStore | deleteSession =>
      cases stepped
      exact Or.inl rfl
  | lookupSession id =>
      obtain ⟨_, _, _, ⟨_, rfl⟩ | ⟨_, _, rfl⟩⟩ := step_lookupSession stepped
      · exact Or.inl rfl
      · exact Or.inl rfl
  | evictSession id =>
      obtain ⟨_, _, _, _, rfl⟩ := step_evictSession stepped
      exact Or.inl rfl
  | setupHasPassword id request password fails =>
      rcases step_setupHasPassword stepped with rfl | rfl
      · exact Or.inl rfl
      · exact Or.inl rfl
  | setupStore id hash fails =>
      obtain ⟨_, _, _, ⟨_, rfl⟩ | ⟨_, rfl⟩⟩ := step_setupStore stepped
      · exact Or.inl rfl
      · exact Or.inl rfl

/-- `HasPassword` does not fail for a request at the gate. -/
def ReadsPassword (state : Gate) : GateAction → Prop
  | .hasPassword _ fails => fails = false ∧ state.closed = false
  | _ => True

instance (state : Gate) : ∀ action, Decidable (state.ReadsPassword action)
  | .hasPassword _ _ => inferInstanceAs (Decidable (_ ∧ _))
  | .clock _ | .closeStore | .arrive _ _ | .lookupSession _ | .readClock _
  | .evictSession _ | .consumeTicket _ | .setupHasPassword _ _ _ _
  | .setupStore _ _ _ | .createSession _ | .deleteSession _
  | .createTicket _ => isTrue trivial

/-- The gate lets through exactly the requests that it should: every request
that has arrived is under way or has one verdict, whatever is under way comes to
its verdict by its own checks, every verdict is exact, and no ticket is accepted
twice. -/
theorem characterised_of_run
    {passwordHash : Option String}
    {actions : List GateAction}
    {state : Gate}
    (reads : Follows Gate.step ReadsPassword (start passwordHash) actions)
    (ran : run Gate.step (start passwordHash) actions = some state) :
    (∀ verdict ∈ state.verdicts, verdict.Exact) ∧
      state.known.Perm (actions.filterMap GateAction.arrival?) ∧
      (∀ id, (state.requests.get? id).isSome = true → state.Serves id) ∧
      ∀ token, state.history.count (.ticketLookedUp token true) ≤ 1 := by
  let invariant (state : Gate) : Prop :=
    state.Tracked ∧ ∀ verdict ∈ state.verdicts, verdict.Exact
  have preserved : ∀ state action next, invariant state →
      state.ReadsPassword action → state.step action = some next →
      invariant next := by
    rintro state action next ⟨tracked, exact⟩ reads stepped
    refine ⟨tracked.step stepped, ?_⟩
    rcases tracked.verdicts stepped with same | ⟨verdict, added, decided⟩
    · rw [same]
      exact exact
    · rw [added]
      intro other member
      rcases List.mem_cons.mp member with rfl | member
      · rcases decided with decided | ⟨id, fails, request, rfl, _, failed, _⟩
        · exact decided
        · obtain ⟨works, isOpen⟩ := reads
          simp [works, isOpen] at failed
      · exact exact other member
  have holds := invariant_of_run preserved
    ⟨Tracked.start passwordHash, by simp [Gate.start]⟩ reads ran
  refine ⟨holds.2, known_of_run ran, fun id underWay => ?_, holds.1.consumedOnce⟩
  obtain ⟨⟨request, stage⟩, found⟩ := Option.isSome_iff_exists.mp underWay
  exact serves found

/-- A request with a session cookie. -/
def sessionRequest (token : String) : Request :=
  ⟨[("lociterm_session", token)], "", "", []⟩

/-- A browser's terminal request with a ticket. -/
def ticketRequest (ticket : String) : Request :=
  ⟨[], "websocket", "Upgrade", [("ticket", ticket)]⟩

/-- A session opens a page, and one ticket is presented twice. -/
def ticketRun : List GateAction :=
  [.createSession "s", .arrive 0 (sessionRequest "s"),
    .hasPassword 0 false, .lookupSession 0, .readClock 0,
    .createTicket "t", .arrive 1 (ticketRequest "t"),
    .arrive 2 (ticketRequest "t"), .hasPassword 1 false,
    .hasPassword 2 false, .lookupSession 2, .lookupSession 1,
    .clock 1000, .consumeTicket 1, .consumeTicket 2]

/-- Three requests with their three verdicts, newest first: one of them is
turned away. -/
theorem characterised_ticketRun :
    let state := (run Gate.step (start (some "hash")) ticketRun).get (by decide)
    (state.requests.entries = [] ∧
        state.verdicts.map (·.passed) = [false, true, true]) ∧
      (∀ verdict ∈ state.verdicts, verdict.Exact) ∧
      state.known.Perm (ticketRun.filterMap GateAction.arrival?) ∧
      (∀ id, (state.requests.get? id).isSome = true → state.Serves id) ∧
      ∀ token, state.history.count (.ticketLookedUp token true) ≤ 1 :=
  ⟨by decide, characterised_of_run (by decide) (Option.some_get _).symm⟩

end Gate
end Auth
end LociTerm
