import LociTerm.Client.Alerts

/-!
# What becomes of a burst

`busyTrack` and `idleTimers` under every step of a page.  A chunk of output in
the background begins a burst or lengthens one; a chunk in the foreground, the
timer and five operations end it.
-/

namespace LociTerm
namespace Client

/-- What the module keeps of the output of a session. -/
structure Tracking where
  burst : Option BusyTrack
  timer : Option Nat
  deriving DecidableEq

namespace Tracking

/-- Nothing is kept. -/
def none : Tracking := ⟨.none, .none⟩

/-- After a chunk in the background. -/
def chunk (tracking : Tracking) (now : Nat) : Tracking :=
  ⟨some (match tracking.burst with
      | some track => { track with lastByteAt := now }
      | .none => ⟨now, now⟩),
    some (now + idleMs)⟩

end Tracking

namespace App

/-- What the two maps of the module hold for a session. -/
def tracking (app : App) (sessionId : String) : Tracking :=
  ⟨app.busyTrack.get? sessionId, app.idleTimers.get? sessionId⟩

@[simp] theorem tracking_with_state
    (app : App)
    (state : AppState)
    (sessionId : String) :
    ({ app with state := state } : App).tracking sessionId =
      app.tracking sessionId := rfl

theorem tracking_cancelIdleTracking (app : App) (id sessionId : String) :
    (app.cancelIdleTracking id).tracking sessionId =
      if id = sessionId then Tracking.none else app.tracking sessionId := by
  unfold tracking cancelIdleTracking
  simp only [Table.get?_erase]
  split <;> rfl

theorem tracking_foldl_cancelIdleTracking
    (removed : List String)
    (app : App)
    (sessionId : String) :
    (removed.foldl cancelIdleTracking app).tracking sessionId =
      if sessionId ∈ removed then Tracking.none
      else app.tracking sessionId := by
  induction removed generalizing app with
  | nil => simp
  | cons first rest inductionHypothesis =>
      rw [List.foldl_cons, inductionHypothesis, tracking_cancelIdleTracking]
      by_cases later : sessionId ∈ rest
      · simp [later]
      · by_cases same : first = sessionId
        · simp [same]
        · simp [later, same, Ne.symm same]

theorem tracking_markSessionOutput
    (app : App)
    (visible : Bool)
    (id : String)
    (now : Nat)
    (sessionId : String) :
    (app.markSessionOutput visible id now).tracking sessionId =
      if id = sessionId then
        if app.state.activeSessionId = some id ∧ visible then Tracking.none
        else (app.tracking sessionId).chunk now
      else app.tracking sessionId := by
  unfold markSessionOutput
  split
  · exact tracking_cancelIdleTracking app id sessionId
  · simp only [tracking, Tracking.chunk, Table.get?_set]
    split
    · next same =>
        subst same
        rfl
    · rfl

theorem tracking_idleTimer
    (app : App)
    (visible : Bool)
    (id sessionId : String) :
    (app.idleTimer visible id).tracking sessionId =
      if id = sessionId then Tracking.none else app.tracking sessionId := by
  rw [← tracking_cancelIdleTracking]
  simp only [idleTimer]
  repeat' split
  all_goals rfl

end App

/-- The operation has come to its end, and a session is active then.  An empty
id is no session. -/
def Outcome.landsOn (sessionId : String) : Outcome → Bool
  | .returns app => app.state.activeSessionId = some sessionId ∧ sessionId ≠ ""
  | _ => false

/-- The sessions that `deleteWorkspace` takes along: those of the loaded list,
unless the updater throws. -/
def App.removedSessions (app : App) (wid : String) : List String :=
  match app.state.workspaces, app.state.sessionsOf wid with
  | .ok _, .ok removed => (removed.map (·.field (·.id))).reduceOption
  | _, _ => []

/-- The calls that end the burst of a session: `setActiveSession` of it, and
`setActiveWorkspace` that lands on it at once. -/
def App.callCancels (app : App) (sessionId : String) : Operation → Bool
  | .setActiveSession id => id = sessionId
  | .setActiveWorkspace id =>
      (app.start (.setActiveWorkspace id)).landsOn sessionId
  | _ => false

/-- The replies that end the burst of a session: `setActiveWorkspace` lands on
it, or it has been deleted, or its workspace has. -/
def App.replyCancels
    (app : App)
    (sessionId : String)
    (replies : List Reply) : Pending → Bool
  | .setActiveWorkspace wid =>
      (app.resume (.setActiveWorkspace wid) replies).any (·.landsOn sessionId)
  | .deleteSession id => id = sessionId
  | .deleteWorkspace wid => sessionId ∈ app.removedSessions wid
  | _ => false

/-- The step of the store cancels the tracking of the session. -/
def Browser.cancels (browser : Browser) (sessionId : String) :
    BrowserAction → Bool
  | .call _ operation => browser.app.callCancels sessionId operation
  | .reply id replies =>
      (browser.flights.get? id).any fun flight =>
        browser.app.replyCancels sessionId replies flight.pending
  | .reject _ => false

/-- What ends the burst of a session, its timer and its output apart. -/
def Page.cancels (page : Page) (sessionId : String) : PageAction → Bool
  | .operate action => page.browser.cancels sessionId action
  | .clearSessionUnread id => id = sessionId
  | .onVisibility =>
      page.visible ∧ truthy page.browser.app.state.activeSessionId ∧
        key page.browser.app.state.activeSessionId = sessionId
  | _ => false

/-- The session is the one on screen. -/
def Page.foreground (page : Page) (sessionId : String) : Bool :=
  page.browser.app.state.activeSessionId = some sessionId ∧ page.visible

namespace App

/-- `setActiveWorkspace` throws, or lands nowhere, or ends the burst of the
session on which it lands. -/
theorem finishSetActiveWorkspace_cases
    (app : App)
    (id : String)
    (sessions : Records Session) :
    app.finishSetActiveWorkspace id sessions = .throws app ∨
    (∃ state : AppState, truthy state.activeSessionId = false ∧
      app.finishSetActiveWorkspace id sessions =
        .returns { app with state := state }) ∨
    ∃ next, ∃ state : AppState, next ≠ "" ∧
      state.activeSessionId = some next ∧
      app.finishSetActiveWorkspace id sessions =
        .returns { app.cancelIdleTracking next with state := state } := by
  simp only [finishSetActiveWorkspace]
  split
  · exact Or.inl rfl
  · split
    · next nowhere => exact Or.inr (Or.inl ⟨_, by simp [nowhere, truthy], rfl⟩)
    · next next landed =>
        split
        · next empty =>
            exact Or.inr (Or.inl ⟨_, by simp [landed, empty, truthy], rfl⟩)
        · next named =>
            exact Or.inr (Or.inr ⟨next, _, named, landed, rfl⟩)

theorem tracking_finishSetActiveWorkspace
    (app : App)
    (id : String)
    (sessions : Records Session)
    (sessionId : String) :
    ((app.finishSetActiveWorkspace id sessions).app app).tracking sessionId =
      if (app.finishSetActiveWorkspace id sessions).landsOn sessionId then
        Tracking.none
      else app.tracking sessionId := by
  rcases finishSetActiveWorkspace_cases app id sessions with
    ended | ⟨state, nowhere, ended⟩ | ⟨next, state, named, landed, ended⟩
  all_goals rw [ended]
  · rfl
  · rw [if_neg]
    · rfl
    · rintro lands
      obtain ⟨active, nonempty⟩ := of_decide_eq_true lands
      have found : state.activeSessionId = some sessionId := active
      simp [found, truthy, nonempty] at nowhere
  · simp only [Outcome.app, tracking_with_state, tracking_cancelIdleTracking]
    refine if_congr ?_ rfl rfl
    simp only [Outcome.landsOn, landed, decide_eq_true_eq, Option.some.injEq]
    exact ⟨fun same => ⟨same, same ▸ named⟩, And.left⟩

theorem tracking_finishDeleteSession
    (app : App)
    (id sessionId : String) :
    ((app.finishDeleteSession id).app app).tracking sessionId =
      if id = sessionId then Tracking.none else app.tracking sessionId := by
  rw [← tracking_cancelIdleTracking]
  simp only [finishDeleteSession]
  repeat' split
  all_goals rfl

theorem tracking_finishDeleteWorkspace
    (app : App)
    (wid sessionId : String) :
    ((app.finishDeleteWorkspace wid).app app).tracking sessionId =
      if sessionId ∈ app.removedSessions wid then Tracking.none
      else app.tracking sessionId := by
  unfold finishDeleteWorkspace removedSessions
  simp only
  cases app.state.workspaces with
  | error _ => simp [Outcome.app]
  | ok workspaces =>
      cases app.state.sessionsOf wid with
      | error _ => simp [Outcome.app]
      | ok removed => exact tracking_foldl_cancelIdleTracking _ app sessionId

/-- The bursts after an operation has been called. -/
theorem tracking_start
    (app : App)
    (operation : Operation)
    (sessionId : String) :
    ((app.start operation).app app).tracking sessionId =
      if app.callCancels sessionId operation then Tracking.none
      else app.tracking sessionId := by
  cases operation with
  | setActiveSession id =>
      simp only [callCancels, decide_eq_true_eq]
      exact tracking_cancelIdleTracking app id sessionId
  | setActiveWorkspace id =>
      have cancels : app.callCancels sessionId (.setActiveWorkspace id) =
          (app.start (.setActiveWorkspace id)).landsOn sessionId := rfl
      rw [cancels]
      cases loaded : app.state.sessions.get? id with
      | none =>
          have waits : app.start (.setActiveWorkspace id) =
              .awaits ⟨[.listSessions id], .setActiveWorkspace id⟩ := by
            simp only [start, loaded]
          rw [waits]
          rfl
      | some sessions =>
          have ends : app.start (.setActiveWorkspace id) =
              app.finishSetActiveWorkspace id sessions := by
            simp only [start, loaded]
          rw [ends]
          exact tracking_finishSetActiveWorkspace app id sessions sessionId
  | pollActive =>
      simp only [callCancels, start]
      split <;> rfl
  | _ => rfl

/-- The bursts after an operation has gone on. -/
theorem Continues.tracking_eq
    {app : App}
    {replies : List Reply}
    {outcome : Outcome}
    {pending : Pending}
    (continues : app.Continues replies outcome pending)
    (sessionId : String) :
    (outcome.app app).tracking sessionId =
      if app.replyCancels sessionId replies pending then Tracking.none
      else app.tracking sessionId := by
  cases pending with
  | setActiveWorkspace wid =>
      obtain ⟨response, rfl, rfl⟩ := continues
      exact tracking_finishSetActiveWorkspace app wid _ sessionId
  | deleteSession id =>
      obtain ⟨_, rfl, rfl⟩ := continues
      simp only [replyCancels, decide_eq_true_eq]
      exact tracking_finishDeleteSession app id sessionId
  | deleteWorkspace wid =>
      obtain ⟨_, rfl, rfl⟩ := continues
      simp only [replyCancels, decide_eq_true_eq]
      exact tracking_finishDeleteWorkspace app wid sessionId
  | initWorkspaces =>
      obtain ⟨_, rfl, ⟨_, rfl⟩ | ⟨_, rfl⟩ | ⟨_, _, _, rfl⟩⟩ := continues
      all_goals rfl
  | initSessions workspaces =>
      obtain ⟨lists, _, _, rfl⟩ := continues
      simp only [initSessions]
      split <;> rfl
  | _ =>
      obtain ⟨_, rfl, rfl⟩ := continues
      simp only [replyCancels, Bool.false_eq_true, if_false, finishInit,
        finishCreateWorkspace, finishRenameWorkspace, finishFetchSessions,
        finishPollActive, finishCreateSession, finishRenameSession, listAll]
      repeat' split
      all_goals rfl

end App

/-- The bursts after a step of the browser. -/
theorem Browser.tracking_step
    {browser next : Browser}
    {action : BrowserAction}
    (stepped : browser.step action = some next)
    (sessionId : String) :
    next.app.tracking sessionId =
      if browser.cancels sessionId action then Tracking.none
      else browser.app.tracking sessionId := by
  obtain ⟨id, operation, rfl, _, rfl⟩ |
    ⟨id, replies, flight, outcome, rfl, waiting, continues, rfl⟩ |
    ⟨id, rfl, rfl⟩ := Browser.step_cases stepped
  · rw [settle_app]
    exact App.tracking_start browser.app operation sessionId
  · rw [settle_app]
    simp only [cancels, waiting, Option.any_some]
    exact continues.tracking_eq sessionId
  · rfl

/-- The bursts after a step of the page that is neither output nor a timer. -/
theorem Page.tracking_step
    {page next : Page}
    {action : PageAction}
    (stepped : page.step action = some next)
    (notOutput : ∀ id now, action ≠ .output id now)
    (notTimer : ∀ id, action ≠ .idleTimer id)
    (sessionId : String) :
    next.browser.app.tracking sessionId =
      if page.cancels sessionId action then Tracking.none
      else page.browser.app.tracking sessionId := by
  cases action with
  | operate action =>
      obtain ⟨browser, operated, rfl⟩ := Option.map_eq_some_iff.mp stepped
      exact Browser.tracking_step operated sessionId
  | output id now => exact absurd rfl (notOutput id now)
  | idleTimer id => exact absurd rfl (notTimer id)
  | clearSessionUnread id =>
      cases stepped
      simp only [cancels, decide_eq_true_eq]
      exact App.tracking_cancelIdleTracking page.browser.app id sessionId
  | dismissToast id =>
      cases stepped
      rfl
  | visibilityChange =>
      cases stepped
      rfl
  | onVisibility =>
      simp only [Page.step] at stepped
      split at stepped
      · next visible =>
          cases stepped
          simp only [cancels, visible, true_and, decide_eq_true_eq, update,
            App.onVisibility]
          split
          · next active =>
              simp only [active, true_and]
              exact App.tracking_cancelIdleTracking page.browser.app _ sessionId
          · next inactive => simp [inactive]
      · next hidden =>
          cases stepped
          simp [cancels, hidden]

end Client
end LociTerm
