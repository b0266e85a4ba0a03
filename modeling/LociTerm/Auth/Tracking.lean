import LociTerm.Auth.Gate

/-!
# The gate and its history

The invariant that ties both token maps, and every request under way, to the
history of what has been issued, deleted and looked up.  It holds whether or
not store calls fail; what a failing call decides is treated apart.
-/

namespace LociTerm
namespace Auth

namespace Point

theorem Before.refl (point : Point) : point.Before point :=
  ⟨le_rfl, List.suffix_rfl⟩

theorem Before.trans
    {first second third : Point}
    (left : first.Before second)
    (right : second.Before third) :
    first.Before third :=
  ⟨left.1.trans right.1, left.2.trans right.2⟩

/-- A stored password stays stored. -/
theorem Before.password
    {earlier later : Point}
    (before : earlier.Before later)
    (stored : ¬earlier.NoPassword) :
    ¬later.NoPassword := fun absent =>
  stored fun member => absent (before.2.subset member)

/-- The token is issued between two moments. -/
def IssuedBetween (earlier later : Point) (token : String) : Prop :=
  ∃ newer time, later.history = newer ++ earlier.history ∧
    .sessionIssued token time ∈ newer

/-- A token that is not live does not become so unless it is issued. -/
theorem Before.sessionLive
    {earlier later : Point}
    {token : String}
    (before : earlier.Before later)
    (unissued : ¬earlier.IssuedBetween later token)
    (live : later.SessionLive token) :
    earlier.SessionLive token := by
  obtain ⟨issued, since, young⟩ := live
  obtain ⟨newer, split⟩ := before.2
  refine ⟨issued, ?_, before.1.trans young⟩
  unfold SessionSince at *
  rw [← split] at since
  apply since.of_append
  rintro _ member rfl
  exact unissued ⟨newer, issued, split.symm, member⟩

end Point

/-- What a request has found out so far is true of the moments at which it
found it out. -/
def Stage.Accurate (here : Point) (request : Request) : Stage → Prop
  | .arrived => True
  | .session password => password.Before here ∧ ¬password.NoPassword
  | .found password lookup expiry =>
      ¬password.NoPassword ∧ password.Before lookup ∧ lookup.Before here ∧
        ∃ issued, expiry = issued + sessionLifetime ∧
          SessionSince lookup.history (getTokenFromRequest request) issued
  | .evict password expired =>
      ¬password.NoPassword ∧ password.Before expired ∧
        expired.Before here ∧
        ¬expired.SessionLive (getTokenFromRequest request) ∧
        ∃ issued,
          .sessionIssued (getTokenFromRequest request) issued ∈
            expired.history ∧
          issued + sessionLifetime < expired.now
  | .ticket password checked =>
      ¬password.NoPassword ∧ password.Before checked ∧
        checked.Before here ∧
        ¬checked.SessionLive (getTokenFromRequest request)

theorem Stage.Accurate.later
    {here later : Point}
    {request : Request}
    {stage : Stage}
    (accurate : stage.Accurate here request)
    (before : here.Before later) :
    stage.Accurate later request := by
  cases stage with
  | arrived => trivial
  | session password => exact ⟨accurate.1.trans before, accurate.2⟩
  | found password lookup expiry =>
      obtain ⟨stored, order, past, known⟩ := accurate
      exact ⟨stored, order, past.trans before, known⟩
  | evict password expired =>
      obtain ⟨stored, order, past, known⟩ := accurate
      exact ⟨stored, order, past.trans before, known⟩
  | ticket password checked =>
      obtain ⟨stored, order, past, known⟩ := accurate
      exact ⟨stored, order, past.trans before, known⟩

/-- A verdict is what the characterisation says at the moments of its
checks. -/
structure Verdict.Exact (verdict : Verdict) : Prop where
  /-- The request was let through for one of the three reasons. -/
  checks : verdict.passed = true ↔
    verdict.password.NoPassword ∨
      (∃ session, verdict.session = some session ∧
        session.SessionLive (getTokenFromRequest verdict.request)) ∨
      ∃ ticket, verdict.ticket = some ticket ∧
        isWebSocketUpgrade verdict.request = true ∧
        ticket.TicketLive (ticketParameter verdict.request)
  /-- A request is turned away only after all checks. -/
  complete : verdict.passed = false →
    ∃ session ticket, verdict.session = some session ∧
      verdict.ticket = some ticket
  /-- The checks are made in this order. -/
  order : (∀ session, verdict.session = some session →
      verdict.password.Before session) ∧
    ∀ session ticket, verdict.session = some session →
      verdict.ticket = some ticket → session.Before ticket
  /-- The whole verdict is right at one of these moments, unless the request
  carried a token that was issued between its last two checks. -/
  instant : (∀ session ticket, verdict.session = some session →
      verdict.ticket = some ticket →
      ¬session.IssuedBetween ticket (getTokenFromRequest verdict.request)) →
    ∃ point, (point = verdict.password ∨ verdict.session = some point ∨
        verdict.ticket = some point) ∧
      (verdict.passed = true ↔ point.Authorised verdict.request)

namespace Gate

/-- The token maps and the requests under way agree with the history. -/
structure Tracked (state : Gate) : Prop where
  sessionEntry : ∀ token expiry,
    state.auth.sessions.get? token = some expiry →
      ∃ issued, expiry = issued + sessionLifetime ∧
        SessionSince state.history token issued
  /-- An entry is missing only when it was deleted or has expired. -/
  sessionLive : ∀ token issued, SessionSince state.history token issued →
    state.auth.sessions.get? token = some (issued + sessionLifetime) ∨
      issued + sessionLifetime < state.now
  ticketEntry : ∀ token expiry,
    state.auth.wsTickets.get? token = some expiry ↔
      ∃ issued, expiry = issued + ticketLifetime ∧
        TicketSince state.history token issued
  sessionOnce : ∀ token time other,
    .sessionIssued token time ∈ state.history →
      .sessionIssued token other ∈ state.history → time = other
  sessionDrawn : ∀ token time,
    .sessionIssued token time ∈ state.history →
      token ≠ "" ∧ token ∈ state.drawn
  ticketDrawn : ∀ token time,
    .ticketIssued token time ∈ state.history →
      token ≠ "" ∧ token ∈ state.drawn
  /-- An accepted ticket has no entry any more. -/
  consumed : ∀ token, .ticketLookedUp token true ∈ state.history →
    token ∈ state.drawn ∧ state.auth.wsTickets.get? token = none
  consumedOnce : ∀ token,
    state.history.count (.ticketLookedUp token true) ≤ 1
  password : .passwordStored ∈ state.history ↔
    state.db.hasPassword = true
  stages : ∀ id request stage,
    state.requests.get? id = some (request, stage) →
      stage.Accurate state.here request

theorem Tracked.start (passwordHash : Option String) :
    (start passwordHash).Tracked where
  sessionEntry := by simp [Gate.start, Manager.new]
  sessionLive := by
    intro token issued since
    cases passwordHash <;>
      simp [Gate.start, SessionSince, Since.cons_iff, Since.not_nil] at since
  ticketEntry := by
    intro token expiry
    cases passwordHash <;>
      simp [Gate.start, Manager.new, TicketSince, Since.cons_iff,
        Since.not_nil]
  sessionOnce := by cases passwordHash <;> simp [Gate.start]
  sessionDrawn := by cases passwordHash <;> simp [Gate.start]
  ticketDrawn := by cases passwordHash <;> simp [Gate.start]
  consumed := by cases passwordHash <;> simp [Gate.start]
  consumedOnce := by cases passwordHash <;> simp [Gate.start]
  password := by
    cases passwordHash <;> simp [Gate.start, Store.Database.hasPassword]
  stages := by simp [Gate.start]

/-! ## Steps of one request -/

/-- The checks that a step makes leave the maps and the history alone. -/
theorem Tracked.ofStages
    {state next : Gate}
    (tracked : state.Tracked)
    (auth : next.auth = state.auth)
    (history : next.history = state.history)
    (now : next.now = state.now)
    (drawn : next.drawn = state.drawn)
    (db : next.db = state.db)
    (stages : ∀ id request stage,
      next.requests.get? id = some (request, stage) →
        stage.Accurate state.here request) :
    next.Tracked where
  sessionEntry := by
    rw [auth, history]
    exact tracked.sessionEntry
  sessionLive := by
    rw [auth, history, now]
    exact tracked.sessionLive
  ticketEntry := by
    rw [auth, history]
    exact tracked.ticketEntry
  sessionOnce := by
    rw [history]
    exact tracked.sessionOnce
  sessionDrawn := by
    rw [history, drawn]
    exact tracked.sessionDrawn
  ticketDrawn := by
    rw [history, drawn]
    exact tracked.ticketDrawn
  consumed := by
    rw [auth, history, drawn]
    exact tracked.consumed
  consumedOnce := by
    rw [history]
    exact tracked.consumedOnce
  password := by
    rw [history, db]
    exact tracked.password
  stages := by
    have here : next.here = state.here := by simp [Gate.here, history, now]
    rw [here]
    exact stages

/-- A request moves on with what it has found out. -/
theorem Tracked.proceed
    {state : Gate}
    {id : Nat}
    {request : Request}
    {stage : Stage}
    (tracked : state.Tracked)
    (accurate : stage.Accurate state.here request) :
    (state.proceed id request stage).Tracked := by
  refine tracked.ofStages rfl rfl rfl rfl rfl ?_
  intro other otherRequest otherStage found
  simp only [Gate.proceed, Table.get?_set] at found
  split at found
  · cases found
    exact accurate
  · exact tracked.stages other otherRequest otherStage found

/-- A request leaves the gate. -/
theorem Tracked.decideRequest
    {state : Gate}
    {id : Nat}
    {verdict : Verdict}
    (tracked : state.Tracked) :
    (state.decideRequest id verdict).Tracked := by
  refine tracked.ofStages rfl rfl rfl rfl rfl ?_
  intro other otherRequest otherStage found
  simp only [Gate.decideRequest, Table.get?_erase] at found
  split at found
  · cases found
  · exact tracked.stages other otherRequest otherStage found

/-- Without an entry that is still valid, a token is not live. -/
theorem Tracked.not_sessionLive
    {state : Gate}
    {token : String}
    (tracked : state.Tracked)
    (invalid : ∀ expiry, state.auth.sessions.get? token = some expiry →
      expiry < state.now) :
    ¬state.here.SessionLive token := by
  rintro ⟨issued, since, young⟩
  have young : state.now ≤ issued + sessionLifetime := young
  rcases tracked.sessionLive token issued since with entry | expired
  · have old := invalid _ entry
    omega
  · omega

/-- The empty token is never issued. -/
theorem Tracked.not_sessionLive_empty
    {state : Gate}
    (tracked : state.Tracked) :
    ¬state.here.SessionLive "" := by
  rintro ⟨issued, since, _⟩
  obtain ⟨_, member, rfl⟩ := since.happened_mem
  exact (tracked.sessionDrawn "" issued member).1 rfl

/-- The clock shows that the entry has expired. -/
theorem Tracked.expired
    {state : Gate}
    {request : Request}
    {password lookup : Point}
    {expiry : Nat}
    (tracked : state.Tracked)
    (accurate : (Stage.found password lookup expiry).Accurate state.here
      request)
    (past : expiry < state.now) :
    (Stage.evict password state.here).Accurate state.here request := by
  obtain ⟨stored, order, before, issued, rfl, since⟩ := accurate
  obtain ⟨_, member, rfl⟩ := since.happened_mem
  have member := before.2.subset member
  refine ⟨stored, order.trans before, Point.Before.refl _, ?_,
    issued, member, past⟩
  rintro ⟨other, otherSince, young⟩
  obtain ⟨_, otherMember, rfl⟩ := otherSince.happened_mem
  have same := tracked.sessionOnce _ _ _ member otherMember
  have young : state.now ≤ other + sessionLifetime := young
  omega

/-- Deleting an expired entry loses no live token. -/
theorem Tracked.evictSession
    {state : Gate}
    {id : Nat}
    {request : Request}
    {password expired : Point}
    (tracked : state.Tracked)
    (accurate : (Stage.evict password expired).Accurate state.here request) :
    ({ state with
      auth := state.auth.deleteSession (getTokenFromRequest request)
    }.proceed id request (.ticket password expired)).Tracked := by
  obtain ⟨stored, order, before, dead, issued, member, past⟩ := accurate
  have evicted :
      ({ state with
        auth :=
          state.auth.deleteSession (getTokenFromRequest request) } :
        Gate).Tracked :=
    { tracked with
      sessionEntry := by
        intro token expiry entry
        simp only [Manager.deleteSession, Table.get?_erase] at entry
        split at entry
        · cases entry
        · exact tracked.sessionEntry token expiry entry
      sessionLive := by
        intro token other since
        simp only [Manager.deleteSession, Table.get?_erase]
        split
        · next same =>
            subst same
            obtain ⟨_, otherMember, rfl⟩ := since.happened_mem
            have equal := tracked.sessionOnce _ _ _
              (before.2.subset member) otherMember
            have notLater : expired.now ≤ state.now := before.1
            exact Or.inr (by omega)
        · exact tracked.sessionLive token other since }
  exact evicted.proceed ⟨stored, order, before, dead⟩

/-- A ticket has an entry that is still valid exactly when it is live. -/
theorem Tracked.ticketLive_iff
    {state : Gate}
    {token : String}
    (tracked : state.Tracked) :
    state.here.TicketLive token ↔
      ∃ expiry, state.auth.wsTickets.get? token = some expiry ∧
        state.now < expiry := by
  constructor
  · rintro ⟨issued, since, young⟩
    exact ⟨issued + ticketLifetime,
      (tracked.ticketEntry token _).mpr ⟨issued, rfl, since⟩, young⟩
  · rintro ⟨expiry, entry, young⟩
    obtain ⟨issued, rfl, since⟩ := (tracked.ticketEntry token expiry).mp entry
    exact ⟨issued, since, young⟩

theorem Tracked.not_ticketLive_empty
    {state : Gate}
    (tracked : state.Tracked) :
    ¬state.here.TicketLive "" := by
  rintro ⟨issued, since, _⟩
  obtain ⟨_, member, rfl⟩ := since.happened_mem
  exact (tracked.ticketDrawn "" issued member).1 rfl

/-- `consumeWebSocketTicket` accepts exactly the live tickets. -/
theorem Tracked.consume_iff
    {state : Gate}
    {token : String}
    (tracked : state.Tracked) :
    (state.auth.consumeWebSocketTicket token state.now).2 = true ↔
      state.here.TicketLive token := by
  rw [Manager.consumeWebSocketTicket_iff, ← tracked.ticketLive_iff]
  refine and_iff_right_of_imp fun live empty => ?_
  subst empty
  exact tracked.not_ticketLive_empty live

/-! ## Steps that are recorded -/

/-- What a request has found out stays true as the history grows. -/
theorem Tracked.stages_later
    {state next : Gate}
    (tracked : state.Tracked)
    (requests : next.requests = state.requests)
    (before : state.here.Before next.here) :
    ∀ id request stage,
      next.requests.get? id = some (request, stage) →
        stage.Accurate next.here request := by
  intro id request stage found
  rw [requests] at found
  exact (tracked.stages id request stage found).later before

theorem Tracked.clock
    {state : Gate}
    {later : Nat}
    (tracked : state.Tracked)
    (forward : state.now ≤ later) :
    ({ state with now := later } : Gate).Tracked :=
  { tracked with
    sessionLive := fun token issued since =>
      (tracked.sessionLive token issued since).imp_right fun past =>
        past.trans_le forward
    stages := tracked.stages_later rfl ⟨forward, List.suffix_rfl⟩ }

theorem Tracked.storePassword
    {state : Gate}
    (tracked : state.Tracked)
    (hash : String) :
    ({ state with
      db := state.db.setPasswordHash hash
      history := .passwordStored :: state.history } : Gate).Tracked where
  sessionEntry := by
    simpa [SessionSince, Since.cons_iff] using tracked.sessionEntry
  sessionLive := by
    simpa [SessionSince, Since.cons_iff] using tracked.sessionLive
  ticketEntry := by
    simpa [TicketSince, Since.cons_iff] using tracked.ticketEntry
  sessionOnce := by simpa using tracked.sessionOnce
  sessionDrawn := by simpa using tracked.sessionDrawn
  ticketDrawn := by simpa using tracked.ticketDrawn
  consumed := by simpa using tracked.consumed
  consumedOnce := by simpa using tracked.consumedOnce
  password := by
    simp [Store.Database.setPasswordHash, Store.Database.hasPassword]
  stages := tracked.stages_later rfl ⟨le_rfl, List.suffix_cons _ _⟩

theorem Tracked.createSession
    {state : Gate}
    {token : String}
    (tracked : state.Tracked)
    (nonempty : token ≠ "")
    (fresh : token ∉ state.drawn) :
    ({ state with
      auth := state.auth.createSession token state.now
      history := .sessionIssued token state.now :: state.history
      drawn := token :: state.drawn } : Gate).Tracked where
  sessionEntry := by
    intro other expiry entry
    simp only [Manager.createSession, Table.get?_set] at entry
    simp only [SessionSince, Since.cons_iff]
    split at entry
    · next same =>
        cases entry
        exact ⟨state.now, rfl, Or.inl (by rw [same])⟩
    · obtain ⟨issued, rfl, since⟩ := tracked.sessionEntry other expiry entry
      exact ⟨issued, rfl, Or.inr ⟨by simp, since⟩⟩
  sessionLive := by
    intro other issued since
    simp only [SessionSince, Since.cons_iff, Event.sessionIssued.injEq] at since
    rcases since with ⟨rfl, rfl⟩ | ⟨_, since⟩
    · exact Or.inl (by simp [Manager.createSession])
    · have different : token ≠ other := by
        rintro rfl
        obtain ⟨_, member, rfl⟩ := since.happened_mem
        exact fresh (tracked.sessionDrawn token issued member).2
      rw [Manager.createSession, Table.get?_set_of_ne _ _ different]
      exact tracked.sessionLive other issued since
  ticketEntry := by
    simpa [TicketSince, Since.cons_iff] using tracked.ticketEntry
  sessionOnce := by
    intro other left right leftMember rightMember
    simp only [List.mem_cons, Event.sessionIssued.injEq]
      at leftMember rightMember
    rcases leftMember with ⟨rfl, rfl⟩ | leftMember <;>
      rcases rightMember with ⟨same, rfl⟩ | rightMember
    · rfl
    · exact absurd (tracked.sessionDrawn _ _ rightMember).2 fresh
    · exact absurd (tracked.sessionDrawn _ _ leftMember).2 (same ▸ fresh)
    · exact tracked.sessionOnce other left right leftMember rightMember
  sessionDrawn := by
    intro other time member
    simp only [List.mem_cons, Event.sessionIssued.injEq] at member
    rcases member with ⟨rfl, rfl⟩ | member
    · exact ⟨nonempty, List.mem_cons_self⟩
    · obtain ⟨otherNonempty, drawn⟩ := tracked.sessionDrawn other time member
      exact ⟨otherNonempty, List.mem_cons_of_mem _ drawn⟩
  ticketDrawn := by
    intro other time member
    obtain ⟨otherNonempty, drawn⟩ :=
      tracked.ticketDrawn other time (by simpa using member)
    exact ⟨otherNonempty, List.mem_cons_of_mem _ drawn⟩
  consumed := by
    intro other member
    obtain ⟨drawn, absent⟩ := tracked.consumed other (by simpa using member)
    exact ⟨List.mem_cons_of_mem _ drawn, absent⟩
  consumedOnce := by simpa using tracked.consumedOnce
  password := by simpa using tracked.password
  stages := tracked.stages_later rfl ⟨le_rfl, List.suffix_cons _ _⟩

theorem Tracked.deleteSession
    {state : Gate}
    {token : String}
    (tracked : state.Tracked) :
    ({ state with
      auth := state.auth.deleteSession token
      history := .sessionDeleted token :: state.history } : Gate).Tracked where
  sessionEntry := by
    intro other expiry entry
    simp only [Manager.deleteSession, Table.get?_erase] at entry
    split at entry
    · cases entry
    · next different =>
        obtain ⟨issued, rfl, since⟩ :=
          tracked.sessionEntry other expiry entry
        refine ⟨issued, rfl, Since.cons_iff.mpr (Or.inr ⟨?_, since⟩)⟩
        simpa using different
  sessionLive := by
    intro other issued since
    simp only [SessionSince, Since.cons_iff, reduceCtorEq, false_or,
      Event.sessionDeleted.injEq] at since
    rw [Manager.deleteSession, Table.get?_erase_of_ne _ since.1]
    exact tracked.sessionLive other issued since.2
  ticketEntry := by
    simpa [TicketSince, Since.cons_iff] using tracked.ticketEntry
  sessionOnce := by simpa using tracked.sessionOnce
  sessionDrawn := by simpa using tracked.sessionDrawn
  ticketDrawn := by simpa using tracked.ticketDrawn
  consumed := by simpa using tracked.consumed
  consumedOnce := by simpa using tracked.consumedOnce
  password := by simpa using tracked.password
  stages := tracked.stages_later rfl ⟨le_rfl, List.suffix_cons _ _⟩

theorem Tracked.createTicket
    {state : Gate}
    {token : String}
    (tracked : state.Tracked)
    (nonempty : token ≠ "")
    (fresh : token ∉ state.drawn) :
    ({ state with
      auth := state.auth.createWebSocketTicket token state.now
      history := .ticketIssued token state.now :: state.history
      drawn := token :: state.drawn } : Gate).Tracked where
  sessionEntry := by
    simpa [SessionSince, Since.cons_iff] using tracked.sessionEntry
  sessionLive := by
    simpa [SessionSince, Since.cons_iff] using tracked.sessionLive
  ticketEntry := by
    intro other expiry
    simp only [Manager.createWebSocketTicket, Table.get?_set, TicketSince,
      Since.cons_iff, Event.ticketIssued.injEq, reduceCtorEq, exists_false,
      not_false_eq_true, true_and]
    by_cases same : token = other
    · subst same
      -- The new ticket has not been issued before.
      have unissued (issued : Nat) : ¬TicketSince state.history token issued := by
        intro since
        obtain ⟨_, member, rfl⟩ := since.happened_mem
        exact fresh (tracked.ticketDrawn token issued member).2
      unfold TicketSince at unissued
      simp only [unissued, or_false]
      simp [eq_comm]
    · simp only [same, if_false, false_and, false_or]
      exact tracked.ticketEntry other expiry
  sessionOnce := by simpa using tracked.sessionOnce
  sessionDrawn := by
    intro other time member
    obtain ⟨otherNonempty, drawn⟩ :=
      tracked.sessionDrawn other time (by simpa using member)
    exact ⟨otherNonempty, List.mem_cons_of_mem _ drawn⟩
  ticketDrawn := by
    intro other time member
    simp only [List.mem_cons, Event.ticketIssued.injEq] at member
    rcases member with ⟨rfl, rfl⟩ | member
    · exact ⟨nonempty, List.mem_cons_self⟩
    · obtain ⟨otherNonempty, drawn⟩ := tracked.ticketDrawn other time member
      exact ⟨otherNonempty, List.mem_cons_of_mem _ drawn⟩
  consumed := by
    intro other member
    obtain ⟨drawn, absent⟩ := tracked.consumed other (by simpa using member)
    have different : token ≠ other := by
      rintro rfl
      exact fresh drawn
    refine ⟨List.mem_cons_of_mem _ drawn, ?_⟩
    rw [Manager.createWebSocketTicket, Table.get?_set_of_ne _ _ different]
    exact absent
  consumedOnce := by simpa using tracked.consumedOnce
  password := by simpa using tracked.password
  stages := tracked.stages_later rfl ⟨le_rfl, List.suffix_cons _ _⟩

/-- Looking a ticket up ends it, whether or not it is accepted. -/
theorem Tracked.consumeTicket
    {state : Gate}
    {token : String}
    (tracked : state.Tracked)
    (nonempty : token ≠ "") :
    ({ state with
      auth := (state.auth.consumeWebSocketTicket token state.now).1
      history := .ticketLookedUp token
        (state.auth.consumeWebSocketTicket token state.now).2 ::
          state.history } : Gate).Tracked := by
  let accepted := (state.auth.consumeWebSocketTicket token state.now).2
  have tickets := Manager.wsTickets_consumeWebSocketTicket state.auth
    state.now nonempty
  have drawn (accepts : accepted = true) :
      token ∈ state.drawn ∧
        .ticketLookedUp token true ∉ state.history := by
    obtain ⟨issued, since, _⟩ := tracked.consume_iff.mp accepts
    have entry := (tracked.ticketEntry token _).mpr ⟨issued, rfl, since⟩
    obtain ⟨_, member, rfl⟩ := since.happened_mem
    refine ⟨(tracked.ticketDrawn token issued member).2, fun consumed => ?_⟩
    rw [(tracked.consumed token consumed).2] at entry
    cases entry
  refine
    { sessionEntry := ?_, sessionLive := ?_, ticketEntry := ?_
      sessionOnce := by simpa using tracked.sessionOnce
      sessionDrawn := by simpa using tracked.sessionDrawn
      ticketDrawn := by simpa using tracked.ticketDrawn
      consumed := ?_, consumedOnce := ?_
      password := by simpa using tracked.password
      stages := tracked.stages_later rfl ⟨le_rfl, List.suffix_cons _ _⟩ }
  · simpa [SessionSince, Since.cons_iff] using tracked.sessionEntry
  · simpa [SessionSince, Since.cons_iff] using tracked.sessionLive
  · intro other expiry
    simp only [tickets, TicketSince, Since.cons_iff, reduceCtorEq, false_or,
      Event.ticketLookedUp.injEq, exists_and_left, exists_eq', and_true]
    by_cases same : token = other
    · simp [same]
    · simp only [same, if_false, not_false_eq_true, true_and]
      exact tracked.ticketEntry other expiry
  · intro other member
    simp only [List.mem_cons, Event.ticketLookedUp.injEq] at member
    simp only [tickets]
    rcases member with ⟨rfl, accepts⟩ | member
    · exact ⟨(drawn accepts.symm).1, by simp⟩
    · obtain ⟨otherDrawn, absent⟩ := tracked.consumed other member
      refine ⟨otherDrawn, ?_⟩
      split
      · rfl
      · exact absent
  · intro other
    rw [List.count_cons]
    split
    · next same =>
        simp only [beq_iff_eq, Event.ticketLookedUp.injEq] at same
        obtain ⟨rfl, accepts⟩ := same
        rw [List.count_eq_zero_of_not_mem (drawn accepts).2]
    · exact tracked.consumedOnce other

end Gate
end Auth
end LociTerm
