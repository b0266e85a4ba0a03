import LociTerm.Auth.Characterisation

/-!
# The gate in front of a failing store

`requireAuth` and `Setup` ignore the error of `HasPassword`, which comes with
the answer that no password is stored.  The gate keeps out every request
without authority exactly as long as no such call fails for one.
-/

namespace LociTerm
namespace Auth

/-- The request carries a live session token or, as a WebSocket upgrade, a
live ticket. -/
def Point.Carries (point : Point) (request : Request) : Prop :=
  point.SessionLive (getTokenFromRequest request) ∨
    isWebSocketUpgrade request = true ∧
      point.TicketLive (ticketParameter request)

/-- A request that was let through was so before there was a password, or it
carried authority at the moment of one of its checks. -/
def Verdict.Admitted (verdict : Verdict) : Prop :=
  verdict.passed = true →
    verdict.password.NoPassword ∨
      ∃ point, (point = verdict.password ∨ verdict.session = some point ∨
          verdict.ticket = some point) ∧
        point.Carries verdict.request

theorem Verdict.Exact.admitted {verdict : Verdict} (exact : verdict.Exact) :
    verdict.Admitted := by
  intro passed
  rcases exact.checks.mp passed with
    absent | ⟨session, checked, live⟩ | ⟨ticket, checked, upgrade, live⟩
  · exact Or.inl absent
  · exact Or.inr ⟨session, Or.inr (Or.inl checked), Or.inl live⟩
  · exact Or.inr ⟨ticket, Or.inr (Or.inr checked), Or.inr ⟨upgrade, live⟩⟩

namespace Gate

/-- No request without authority has been let through since there is a
password, and none has replaced the stored hash. -/
structure Guarded (state : Gate) : Prop where
  verdicts : ∀ verdict ∈ state.verdicts, verdict.Admitted
  replacements : ∀ entry ∈ state.replacements, entry.2.Carries entry.1

/-- What `requireAuth` would find if it checked the request now. -/
def credentials (state : Gate) (request : Request) : Bool :=
  (state.auth.validateSession (getTokenFromRequest request) state.now).2 ||
    isWebSocketUpgrade request &&
      (state.auth.consumeWebSocketTicket
        (ticketParameter request) state.now).2

/-- `HasPassword` does not fail at the gate for a request without authority
when a password is stored. -/
def GateReads (state : Gate) : GateAction → Prop
  | .hasPassword id fails =>
      ∀ entry ∈ state.requests.get? id,
        state.db.hasPassword = true → fails = true ∨ state.closed = true →
          state.credentials entry.1 = true
  | _ => True

/-- When `Setup` was told that there is no password although one was stored,
or another `Setup` has stored one since, its `SetPasswordHash` fails as well,
unless the request carries authority. -/
def SetupReads (state : Gate) : GateAction → Prop
  | .setupStore id _ fails =>
      ∀ entry ∈ state.setups.get? id,
        entry.2 = false ∨ state.db.hasPassword = true →
          fails = true ∨ state.closed = true ∨
            state.credentials entry.1 = true
  | _ => True

/-- No failing store call meets a request without authority. -/
def KeepsOut (state : Gate) (action : GateAction) : Prop :=
  state.GateReads action ∧ state.SetupReads action

/-! ## Credentials -/

/-- `validateSession` accepts exactly the live tokens. -/
theorem Tracked.validate_iff
    {state : Gate}
    {token : String}
    (tracked : state.Tracked) :
    (state.auth.validateSession token state.now).2 = true ↔
      state.here.SessionLive token := by
  rw [Manager.validateSession_iff]
  constructor
  · rintro ⟨expiry, entry, young⟩
    obtain ⟨issued, rfl, since⟩ := tracked.sessionEntry token expiry entry
    exact ⟨issued, since, young⟩
  · rintro ⟨issued, since, young⟩
    have young : state.now ≤ issued + sessionLifetime := young
    rcases tracked.sessionLive token issued since with entry | expired
    · exact ⟨_, entry, young⟩
    · omega

/-- The gate finds authority exactly in the requests that carry it. -/
theorem Tracked.credentials_iff
    {state : Gate}
    {request : Request}
    (tracked : state.Tracked) :
    state.credentials request = true ↔ state.here.Carries request := by
  simp only [credentials, Point.Carries, Bool.or_eq_true, Bool.and_eq_true]
  rw [tracked.validate_iff, tracked.consume_iff]

/-! ## Requests at the gate -/

/-- A request that is let through without a look at what it carries. -/
theorem Tracked.openVerdict_admitted
    {state : Gate}
    {request : Request}
    (tracked : state.Tracked) :
    (state.openVerdict request).Admitted ↔
      (state.db.hasPassword = true → state.credentials request = true) := by
  have point : ∀ point, (point = state.here ∨
      (none : Option Point) = some point ∨
        (none : Option Point) = some point) ↔ point = state.here := by
    intro point
    simp
  simp only [Verdict.Admitted, openVerdict, forall_const, point,
    exists_eq_left, ← tracked.credentials_iff]
  rw [← tracked.password, Point.NoPassword, imp_iff_not_or]
  rfl

/-- A step lets a request without authority through exactly when `HasPassword`
fails for it. -/
theorem Tracked.admitted_iff
    {state next : Gate}
    {action : GateAction}
    (tracked : state.Tracked)
    (stepped : state.step action = some next) :
    (∀ verdict ∈ next.verdicts, verdict.Admitted) ↔
      (∀ verdict ∈ state.verdicts, verdict.Admitted) ∧
        state.GateReads action := by
  cases action with
  | hasPassword id fails =>
      obtain ⟨request, found, reads⟩ := step_hasPassword stepped
      simp only [GateReads, found, Option.mem_some_iff, forall_eq']
      rcases reads with ⟨stored, rfl⟩ | ⟨unread, rfl⟩
      · -- A call that finds the password has not failed.
        simp [Gate.proceed, (readsPassword_iff.mp stored).1]
      · have decided : (state.openVerdict request).Admitted ↔ _ :=
          tracked.openVerdict_admitted
        simp only [Gate.decideRequest, List.forall_mem_cons]
        rw [and_comm, ← openVerdict, decided]
        refine and_congr_right fun _ => imp_congr_right fun stored => ?_
        have failed : fails = true ∨ state.closed = true := by
          by_contra works
          exact unread (readsPassword_iff.mpr ⟨works, stored⟩)
        simp [failed]
  | _ =>
      simp only [GateReads, and_true]
      rcases tracked.verdicts stepped with same | ⟨verdict, added, decided⟩
      · rw [same]
      · rcases decided with exact | ⟨id, fails, request, other, _⟩
        · rw [added, List.forall_mem_cons]
          exact and_iff_right exact.admitted
        · cases other

/-! ## Setup -/

/-- A `Setup` that was told there is no password although one was stored finds
the password stored. -/
def Informed (state : Gate) : Prop :=
  ∀ id request, state.setups.get? id = some (request, false) →
    state.db.hasPassword = true

/-- The database and the `Setup` requests change only in `Setup`. -/
theorem setup_unchanged
    {state next : Gate}
    {action : GateAction}
    (stepped : state.step action = some next)
    (check : ∀ id request password fails,
      action ≠ .setupHasPassword id request password fails)
    (store : ∀ id hash fails, action ≠ .setupStore id hash fails) :
    next.db = state.db ∧ next.setups = state.setups ∧
      next.replacements = state.replacements := by
  cases action with
  | setupHasPassword id request password fails =>
      exact absurd rfl (check id request password fails)
  | setupStore id hash fails => exact absurd rfl (store id hash fails)
  | clock | arrive | createSession | createTicket =>
      simp only [Gate.step] at stepped
      split at stepped <;> cases stepped
      exact ⟨rfl, rfl, rfl⟩
  | closeStore | deleteSession =>
      cases stepped
      exact ⟨rfl, rfl, rfl⟩
  | hasPassword id fails =>
      obtain ⟨_, _, ⟨_, rfl⟩ | ⟨_, rfl⟩⟩ := step_hasPassword stepped
      · exact ⟨rfl, rfl, rfl⟩
      · exact ⟨rfl, rfl, rfl⟩
  | lookupSession id =>
      obtain ⟨_, _, _, ⟨_, rfl⟩ | ⟨_, _, rfl⟩⟩ := step_lookupSession stepped
      · exact ⟨rfl, rfl, rfl⟩
      · exact ⟨rfl, rfl, rfl⟩
  | readClock id =>
      obtain ⟨_, _, _, _, _, ⟨_, rfl⟩ | ⟨_, rfl⟩⟩ := step_readClock stepped
      · exact ⟨rfl, rfl, rfl⟩
      · exact ⟨rfl, rfl, rfl⟩
  | evictSession id =>
      obtain ⟨_, _, _, _, rfl⟩ := step_evictSession stepped
      exact ⟨rfl, rfl, rfl⟩
  | consumeTicket id =>
      obtain ⟨request, password, session, _, rfl⟩ :=
        step_consumeTicket stepped
      rcases checkTicket_cases state id request password session with
        ⟨_, _, checked⟩ | ⟨_, checked⟩
      · rw [checked]
        exact ⟨rfl, rfl, rfl⟩
      · rw [checked]
        exact ⟨rfl, rfl, rfl⟩

theorem Informed.step
    {state next : Gate}
    {action : GateAction}
    (informed : state.Informed)
    (stepped : state.step action = some next) :
    next.Informed := by
  intro id request entry
  cases action with
  | setupHasPassword setup asked password fails =>
      rcases step_setupHasPassword stepped with rfl | rfl
      · exact informed id request entry
      · simp only [Table.get?_set] at entry
        split at entry
        · simpa using congrArg (Option.map Prod.snd) entry
        · exact informed id request entry
  | setupStore setup hash fails =>
      obtain ⟨stored, early, _, ⟨_, rfl⟩ | ⟨_, rfl⟩⟩ :=
        step_setupStore stepped
      · simp only [Table.get?_erase] at entry
        split at entry
        · cases entry
        · exact informed id request entry
      · rfl
  | _ =>
      obtain ⟨db, setups, _⟩ :=
        setup_unchanged stepped (by simp) (by simp)
      rw [setups] at entry
      rw [db]
      exact informed id request entry

/-- A step lets `Setup` replace the hash without authority exactly when its
`HasPassword` has failed or is outdated. -/
theorem Tracked.replaced_iff
    {state next : Gate}
    {action : GateAction}
    (tracked : state.Tracked)
    (informed : state.Informed)
    (stepped : state.step action = some next) :
    (∀ entry ∈ next.replacements, entry.2.Carries entry.1) ↔
      (∀ entry ∈ state.replacements, entry.2.Carries entry.1) ∧
        state.SetupReads action := by
  cases action with
  | setupStore id hash fails =>
      obtain ⟨request, early, found, outcome⟩ := step_setupStore stepped
      have known : early = false ∨ state.db.hasPassword = true ↔
          state.db.hasPassword = true := by
        refine or_iff_right_of_imp fun told => ?_
        subst told
        exact informed id request found
      simp only [SetupReads, found, Option.mem_some_iff, forall_eq', known]
      rcases outcome with ⟨failed, rfl⟩ | ⟨⟨works, isOpen⟩, rfl⟩
      · rcases failed with failed | failed <;> simp [failed]
      · by_cases stored : state.db.hasPassword = true
        · simp [stored, works, isOpen, tracked.credentials_iff, and_comm]
        · simp [stored]
  | setupHasPassword id request password fails =>
      rcases step_setupHasPassword stepped with rfl | rfl <;>
        simp [SetupReads]
  | _ =>
      obtain ⟨_, _, same⟩ := setup_unchanged stepped (by simp) (by simp)
      simp [SetupReads, same]

/-! ## Runs -/

/-- A step keeps the gate guarded exactly when it keeps out. -/
theorem Tracked.guarded_iff
    {state next : Gate}
    {action : GateAction}
    (tracked : state.Tracked)
    (informed : state.Informed)
    (stepped : state.step action = some next) :
    next.Guarded ↔ state.Guarded ∧ state.KeepsOut action := by
  have verdicts := tracked.admitted_iff stepped
  have replacements := tracked.replaced_iff informed stepped
  constructor
  · rintro ⟨admitted, carried⟩
    exact ⟨⟨(verdicts.mp admitted).1, (replacements.mp carried).1⟩,
      (verdicts.mp admitted).2, (replacements.mp carried).2⟩
  · rintro ⟨⟨admitted, carried⟩, gate, setup⟩
    exact ⟨verdicts.mpr ⟨admitted, gate⟩, replacements.mpr ⟨carried, setup⟩⟩

/-- A stored hash changes only by a replacement that is recorded. -/
theorem passwordHash_of_run
    {state final : Gate}
    {actions : List GateAction}
    {hash : String}
    (stored : state.db.passwordHash = some hash)
    (ran : run Gate.step state actions = some final)
    (unreplaced : final.replacements = state.replacements) :
    final.db.passwordHash = some hash := by
  let invariant (later : Gate) : Prop :=
    later.db.hasPassword = true ∧
      ∃ newer, later.replacements = newer ++ state.replacements ∧
        (newer = [] → later.db.passwordHash = some hash)
  have preserved : ∀ earlier action later, invariant earlier →
      earlier.step action = some later → invariant later := by
    rintro earlier action later ⟨has, newer, recorded, kept⟩ stepped
    cases action with
    | setupStore id other fails =>
        obtain ⟨request, early, _, ⟨_, rfl⟩ | ⟨_, rfl⟩⟩ :=
          step_setupStore stepped
        · exact ⟨has, newer, recorded, kept⟩
        · refine ⟨rfl, (request, earlier.here) :: newer, ?_, by simp⟩
          simp [has, recorded]
    | setupHasPassword id request password fails =>
        rcases step_setupHasPassword stepped with rfl | rfl <;>
          exact ⟨has, newer, recorded, kept⟩
    | _ =>
        obtain ⟨db, _, same⟩ := setup_unchanged stepped (by simp) (by simp)
        exact ⟨by rw [db, has], newer, by rw [same, recorded], by rwa [db]⟩
  obtain ⟨_, newer, recorded, kept⟩ := invariant_of_unconditional_run
    preserved ⟨by simp [Store.Database.hasPassword, stored], [], rfl,
      fun _ => stored⟩ ran
  apply kept
  rw [unreplaced] at recorded
  exact List.self_eq_append_left.mp recorded

/-- The gate is guarded at the end of a run exactly when the run keeps out, and
without a recorded replacement a stored hash has stayed. -/
theorem guarded_iff_keepsOut
    {passwordHash : Option String}
    {actions : List GateAction}
    {state : Gate}
    (ran : run Gate.step (start passwordHash) actions = some state) :
    (state.Guarded ↔
        Follows Gate.step KeepsOut (start passwordHash) actions) ∧
      ∀ before after configured hash, actions = before ++ after →
        run Gate.step (start passwordHash) before = some configured →
        configured.db.passwordHash = some hash →
        state.replacements = configured.replacements →
          state.db.passwordHash = some hash := by
  constructor
  · let invariant (state : Gate) : Prop := state.Tracked ∧ state.Informed
    have preserved : ∀ state action next, invariant state →
        state.step action = some next → invariant next :=
      fun state action next holds stepped =>
        ⟨holds.1.step stepped, holds.2.step stepped⟩
    have exact : ∀ state action next, invariant state →
        state.step action = some next →
          (next.Guarded ↔ state.Guarded ∧ state.KeepsOut action) :=
      fun state action next holds stepped =>
        holds.1.guarded_iff holds.2 stepped
    have guarded : (start passwordHash).Guarded :=
      ⟨by simp [Gate.start], by simp [Gate.start]⟩
    rw [Follows.iff_of_run preserved exact
      ⟨Tracked.start passwordHash, by simp [Informed, Gate.start]⟩ ran]
    exact and_iff_right guarded
  · rintro before after configured hash rfl ranBefore stored unreplaced
    obtain ⟨middle, reached, rest⟩ := (run_append_eq_some Gate.step).mp ran
    rw [ranBefore] at reached
    cases reached
    exact passwordHash_of_run stored rest unreplaced

/-- While the server shuts down, a request with a session passes. -/
def closingRun : List GateAction :=
  [.createSession "s", .arrive 0 (sessionRequest "s"),
    .arrive 1 (sessionRequest "x"), .hasPassword 1 false, .closeStore,
    .hasPassword 0 false, .lookupSession 1, .consumeTicket 1]

/-- The closed store lets only the request with a session through. -/
theorem guarded_closingRun :
    (((run Gate.step (start (some "hash")) closingRun).get
        (by decide)).Guarded ↔
      Follows Gate.step KeepsOut (start (some "hash")) closingRun) ∧
      ∀ before after configured hash, closingRun = before ++ after →
        run Gate.step (start (some "hash")) before = some configured →
        configured.db.passwordHash = some hash →
        ((run Gate.step (start (some "hash")) closingRun).get
          (by decide)).replacements = configured.replacements →
        ((run Gate.step (start (some "hash")) closingRun).get
          (by decide)).db.passwordHash = some hash :=
  guarded_iff_keepsOut (Option.some_get _).symm

/-- A plain request arrives after the store has been closed, and `Setup`
replaces the hash when only its `HasPassword` fails. -/
def openedRun : List GateAction :=
  [.setupHasPassword 0 ⟨[], "", "", []⟩ "password" true,
    .setupStore 0 "other" false, .closeStore,
    .arrive 0 ⟨[], "", "", []⟩, .hasPassword 0 false]

/-- Nothing authorises a request when no token has been issued. -/
theorem not_carries
    {point : Point}
    {request : Request}
    (sessions : ∀ token time, .sessionIssued token time ∉ point.history)
    (tickets : ∀ token time, .ticketIssued token time ∉ point.history) :
    ¬point.Carries request := by
  rintro (⟨issued, since, _⟩ | ⟨_, issued, since, _⟩)
  · obtain ⟨_, member, rfl⟩ := since.happened_mem
    exact sessions _ _ member
  · obtain ⟨_, member, rfl⟩ := since.happened_mem
    exact tickets _ _ member

/-- Both the handlers and the stored hash are open to a request that carries
nothing. -/
theorem not_guarded_openedRun :
    ∃ actions state,
      run Gate.step (start (some "hash")) actions = some state ∧
        (¬∀ verdict ∈ state.verdicts, verdict.Admitted) ∧
        ¬∀ entry ∈ state.replacements, entry.2.Carries entry.1 := by
  let plain : Request := ⟨[], "", "", []⟩
  let opened : Point := ⟨[.passwordStored, .passwordStored], 0⟩
  let replaced : Point := ⟨[.passwordStored], 0⟩
  refine ⟨openedRun,
    (run Gate.step (start (some "hash")) openedRun).get (by decide),
    (Option.some_get _).symm, fun admitted => ?_, fun carried => ?_⟩
  · have passed : (⟨plain, true, opened, none, none⟩ : Verdict) ∈
        ((run Gate.step (start (some "hash")) openedRun).get
          (by decide)).verdicts := by decide
    rcases admitted _ passed rfl with absent | ⟨point, checked, carries⟩
    · exact absent List.mem_cons_self
    · obtain rfl : point = opened := by simpa using checked
      exact not_carries (by simp [opened]) (by simp [opened]) carries
  · have stored : (plain, replaced) ∈
        ((run Gate.step (start (some "hash")) openedRun).get
          (by decide)).replacements := by decide
    exact not_carries (by simp [replaced]) (by simp [replaced])
      (carried _ stored)

end Gate
end Auth
end LociTerm
