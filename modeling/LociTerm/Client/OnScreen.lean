import LociTerm.Client.Alerts

/-!
# The session on screen

Six operations make a session active.  Two of them take its alert back, and so
does the visibility listener.  The others leave the alert of the session that
they bring to the front, which is unread while it is looked at.
-/

namespace LociTerm
namespace Client

/-- The session that a reply makes active without taking its alert back. -/
def Pending.shows (s : AppState) : Pending → List Reply → Option String
  | .initSessions workspaces, replies =>
      match replies.mapM App.sessionList with
      | some lists =>
          ((App.tabulate (workspaces.zip lists)
            (Table.empty, Table.empty)).2.get?
              (key (firstId Workspace.id (.ok workspaces)))).join
      | none => none
  | .initSession _ _ _ _, [.session response] =>
      (request response).field (·.id)
  | .createWorkspaceSession _, [.session response] =>
      (request response).field (·.id)
  | .createSession workspaceId, [.session response] =>
      match s.sessionsOf workspaceId with
      | .ok _ => (request response).field (·.id)
      | .error _ => none
  -- The remembered or the first tab of the workspace that is first then.
  | .deleteWorkspace id, _ =>
      match s.workspaces, s.sessionsOf id with
      | .ok workspaces, .ok _ =>
          (AppState.nextActive (workspaces.filter (·.field (·.id) ≠ some id))
            (s.sessions.erase id) (s.activeSessionByWorkspace.erase id)).2
      | _, _ => none
  -- The first tab that is left.
  | .deleteSession id, _ =>
      if s.activeSessionId = some id then
        match s.sessionsOf (key s.activeWorkspaceId) with
        | .ok list =>
            firstId Session.id (.ok (list.filter (·.field (·.id) ≠ some id)))
        | .error _ => none
      else none
  | _, _ => none

namespace Page

/-- In front of the user, no reply brings an unread session to the screen. -/
def ShowsRead (page : Page) : PageAction → Prop
  | .operate (.reply id replies) =>
      page.visible = true → page.listened = true →
        ∀ flight ∈ page.browser.flights.get? id,
          ∀ sessionId ∈ flight.pending.shows page.browser.app.state replies,
            page.browser.app.state.sessionUnread sessionId = false
  | _ => True

instance (page : Page) : DecidablePred page.ShowsRead
  | .operate (.reply _ _) =>
      inferInstanceAs (Decidable (_ → _ → ∀ flight ∈ _, ∀ sessionId ∈ _, _))
  | .operate (.call _ _) | .operate (.reject _) | .output _ _ | .idleTimer _
  | .clearSessionUnread _ | .dismissToast _ | .visibilityChange
  | .onVisibility => isTrue trivial

/-- The session on screen has no alert. -/
def ScreenRead (page : Page) : Prop :=
  page.visible = true → page.listened = true →
    ∀ id, page.browser.app.state.activeSessionId = some id →
      page.browser.app.state.sessionUnread id = false ∧
        ∀ t ∈ page.browser.app.state.toasts, t.sessionId ≠ id

end Page

/-! ## What becomes active -/

/-- The active session, if it has a name, has no mark. -/
def AppState.ActiveRead (s : AppState) : Prop :=
  ∀ id, s.activeSessionId = some id → id ≠ "" → s.sessionUnread id = false

theorem finishSetActiveWorkspace_active
    (app : App)
    (id : String)
    (sessions : Records Session) :
    ((app.finishSetActiveWorkspace id sessions).app app).state.activeSessionId =
        app.state.activeSessionId ∨
      ((app.finishSetActiveWorkspace id sessions).app app).state.ActiveRead := by
  simp only [App.finishSetActiveWorkspace]
  split
  · exact Or.inl rfl
  · refine Or.inr ?_
    split
    · next nothing =>
        intro other active
        exact absurd (nothing.symm.trans active) (by simp)
    · next next found =>
        split
        · next empty =>
            intro other active named
            have same := Option.some.inj (found.symm.trans active)
            exact absurd (same.symm.trans empty) named
        · intro other active _
          have same : next = other :=
            Option.some.inj (found.symm.trans active)
          subst same
          exact (AppState.sessionUnread_seen _ next next).trans (by simp)

theorem setActiveSession_active (app : App) (id : String) :
    ((app.setActiveSession id).app app).state.ActiveRead := by
  intro other active _
  cases active
  exact (AppState.sessionUnread_seen app.state id id).trans (by simp)

/-- A call leaves the active session alone, or takes its alert back. -/
theorem start_active (app : App) (operation : Operation) :
    ((app.start operation).app app).state.activeSessionId =
        app.state.activeSessionId ∨
      ((app.start operation).app app).state.ActiveRead := by
  cases operation with
  | setActiveWorkspace id =>
      simp only [App.start]
      split
      · exact finishSetActiveWorkspace_active app id _
      · exact Or.inl rfl
  | pollActive =>
      simp only [App.start]
      split <;> exact Or.inl rfl
  | setActiveSession id => exact Or.inr (setActiveSession_active app id)
  | _ => exact Or.inl rfl

/-- A reply leaves the active session alone, or takes its alert back, or shows
the session that `Pending.shows` names. -/
theorem Continues.active
    {app : App}
    {replies : List Reply}
    {outcome : Outcome}
    {pending : Pending}
    (continues : app.Continues replies outcome pending) :
    (outcome.app app).state.activeSessionId = app.state.activeSessionId ∨
      (outcome.app app).state.ActiveRead ∨
      (outcome.app app).state.activeSessionId =
        pending.shows app.state replies := by
  cases pending with
  | initWorkspaces =>
      obtain ⟨_, rfl, ⟨_, rfl⟩ | ⟨_, rfl⟩ | ⟨_, _, _, rfl⟩⟩ := continues
      all_goals exact Or.inl rfl
  | initSessions workspaces =>
      obtain ⟨lists, listed, _, rfl⟩ := continues
      simp only [App.initSessions]
      split
      · exact Or.inl rfl
      · exact Or.inl rfl
      · refine Or.inr (Or.inr ?_)
        simp only [Pending.shows, listed]
        rfl
  | initSession workspaces sessions tabs wid =>
      obtain ⟨response, rfl, rfl⟩ := continues
      refine Or.inr (Or.inr ?_)
      simp [App.finishInit, Outcome.app, Pending.shows]
  | createWorkspaceSession ws =>
      obtain ⟨response, rfl, rfl⟩ := continues
      simp only [App.finishCreateWorkspace]
      split
      · exact Or.inl rfl
      · exact Or.inr (Or.inr rfl)
  | createSession workspaceId =>
      obtain ⟨response, rfl, rfl⟩ := continues
      simp only [App.finishCreateSession]
      split
      · exact Or.inl rfl
      · next list listed =>
          refine Or.inr (Or.inr ?_)
          simp [Outcome.app, Pending.shows, listed]
  | deleteWorkspace id =>
      obtain ⟨response, rfl, rfl⟩ := continues
      simp only [App.finishDeleteWorkspace]
      split
      · next workspaces removedSessions listed removed =>
          refine Or.inr (Or.inr ?_)
          simp [Outcome.app, Pending.shows, listed, removed]
      · exact Or.inl rfl
  | setActiveWorkspace id =>
      obtain ⟨response, rfl, rfl⟩ := continues
      rcases finishSetActiveWorkspace_active app id _ with same | read
      · exact Or.inl same
      · exact Or.inr (Or.inl read)
  | deleteSession id =>
      obtain ⟨response, rfl, rfl⟩ := continues
      simp only [App.finishDeleteSession]
      split
      · split
        · exact Or.inl rfl
        · next list listed =>
            by_cases wasActive : app.state.activeSessionId = some id
            · refine Or.inr (Or.inr ?_)
              simp [Outcome.app, AppState.withoutSession, Pending.shows,
                App.cancelIdleTracking, wasActive] at listed ⊢
              simp [listed]
            · refine Or.inl ?_
              simp [Outcome.app, AppState.withoutSession,
                App.cancelIdleTracking, wasActive]
      · exact Or.inl rfl
  | initDefault | fetchWorkspaces | createWorkspace =>
      obtain ⟨_, rfl, rfl⟩ := continues
      exact Or.inl rfl
  | renameWorkspace | fetchSessions | pollActive | renameSession =>
      obtain ⟨_, rfl, rfl⟩ := continues
      simp only [App.finishRenameWorkspace, App.finishFetchSessions,
        App.finishPollActive, App.finishRenameSession]
      repeat' split
      all_goals exact Or.inl rfl

/-- A step of the browser keeps the active session read, or shows another. -/
theorem Browser.step_active
    {browser next : Browser}
    {action : BrowserAction}
    (stepped : browser.step action = some next) :
    next.app.state.activeSessionId = browser.app.state.activeSessionId ∨
      next.app.state.ActiveRead ∨
      ∃ id replies flight, action = .reply id replies ∧
        browser.flights.get? id = some flight ∧
        next.app.state.activeSessionId =
          flight.pending.shows browser.app.state replies := by
  obtain ⟨id, operation, rfl, _, rfl⟩ |
    ⟨id, replies, flight, outcome, rfl, waiting, continues, rfl⟩ |
    ⟨id, rfl, rfl⟩ := Browser.step_cases stepped
  · rw [settle_app]
    rcases start_active browser.app operation with same | read
    · exact Or.inl same
    · exact Or.inr (Or.inl read)
  · rw [settle_app]
    rcases Continues.active continues with same | read | shown
    · exact Or.inl same
    · exact Or.inr (Or.inl read)
    · exact Or.inr (Or.inr ⟨id, replies, flight, rfl, waiting, shown⟩)
  · exact Or.inl rfl

/-! ## Whole runs -/

/-- The invariant of the pages whose screen is read. -/
structure Page.Watched (page : Page) : Prop where
  alerting : page.browser.app.Alerting
  read : page.visible = true → page.listened = true →
    page.browser.app.state.ActiveRead

/-- Marks that are only taken away leave a read screen read. -/
theorem AppState.ActiveRead.quieter
    {before after : AppState}
    (read : before.ActiveRead)
    (quieter : before.Quieter after)
    (same : after.activeSessionId = before.activeSessionId) :
    after.ActiveRead := by
  intro id active named
  have before := read id (same ▸ active) named
  by_contra unread
  rw [Bool.not_eq_false] at unread
  rw [quieter.unread id unread] at before
  cases before

/-- An alert for another session leaves a read screen read. -/
theorem AppState.ActiveRead.alert
    {s : AppState}
    (read : s.ActiveRead)
    {sessionId : String}
    {t : BusyTrack}
    (background : s.activeSessionId ≠ some sessionId) :
    (s.alert sessionId t).ActiveRead := by
  rcases alert_cases s sessionId t with same | ⟨toasts, raised, _⟩
  · rw [same]
    exact read
  · rw [raised]
    intro id active named
    rw [sessionUnread_mark, read id active named, Bool.or_false,
      decide_eq_false_iff_not]
    rintro rfl
    exact background active

/-- The listener takes the alert of the active session back. -/
theorem onVisibility_activeRead (app : App) :
    app.onVisibility.state.ActiveRead := by
  unfold App.onVisibility
  split
  · intro id active _
    have same : key app.state.activeSessionId = id := by
      rw [show app.state.activeSessionId = some id from active]
      rfl
    rw [same]
    exact (AppState.sessionUnread_seen app.state id id).trans (by simp)
  · next unnamed =>
      intro id active named
      exact absurd (truthy_iff.mpr ⟨id, active, named⟩) unnamed

namespace Page
namespace Watched

theorem initial (visible : Bool) : (Page.initial visible).Watched where
  alerting := App.Alerting.initial
  read := fun _ _ _ active => by cases active

theorem operate
    {page : Page}
    {browser : Browser}
    {action : BrowserAction}
    (watched : page.Watched)
    (showsRead : page.ShowsRead (.operate action))
    (stepped : page.browser.step action = some browser)
    (visible : page.visible = true)
    (listened : page.listened = true) :
    browser.app.state.ActiveRead := by
  have quieter :=
    (Browser.step_quieter watched.alerting.ne_undefined stepped).state
  rcases Browser.step_active stepped with
    same | read | ⟨id, replies, flight, rfl, waiting, shown⟩
  · exact (watched.read visible listened).quieter quieter same
  · exact read
  · intro sessionId active _
    have quiet := showsRead visible listened flight waiting sessionId
      (shown ▸ active)
    by_contra unread
    rw [Bool.not_eq_false] at unread
    rw [quieter.unread sessionId unread] at quiet
    cases quiet

/-- The timer looks again at what is on screen. -/
theorem idleTimer
    {page : Page}
    (watched : page.Watched)
    (sessionId : String)
    (visible : page.visible = true)
    (listened : page.listened = true) :
    (page.browser.app.idleTimer page.visible sessionId).state.ActiveRead := by
  have read := watched.read visible listened
  simp only [App.idleTimer]
  split
  · exact read
  · split
    · exact read
    · split
      · exact read
      · next background =>
          refine read.alert fun active => background ⟨active, ?_⟩
          exact visible

theorem step
    {page next : Page}
    {action : PageAction}
    (watched : page.Watched)
    (showsRead : page.ShowsRead action)
    (stepped : page.step action = some next) :
    next.Watched := by
  refine ⟨step_alerting watched.alerting stepped, fun visible listened => ?_⟩
  cases action with
  | operate action =>
      obtain ⟨browser, operated, rfl⟩ := Option.map_eq_some_iff.mp stepped
      exact watched.operate showsRead operated visible listened
  | output sessionId now =>
      simp only [Page.step] at stepped
      split at stepped <;> cases stepped
      have read := watched.read visible listened
      simp only [update, App.markSessionOutput]
      split <;> exact read
  | idleTimer sessionId =>
      simp only [Page.step] at stepped
      split at stepped <;> cases stepped
      exact watched.idleTimer sessionId visible listened
  | clearSessionUnread sessionId =>
      cases stepped
      exact (watched.read visible listened).quieter
        (page.browser.app.state.seen_quieter sessionId) rfl
  | dismissToast id =>
      cases stepped
      have read := watched.read visible listened
      simp only [update, AppState.dismissToast]
      split <;> exact read
  | visibilityChange =>
      cases stepped
      cases listened
  | onVisibility =>
      simp only [Page.step] at stepped
      split at stepped
      · cases stepped
        exact onVisibility_activeRead page.browser.app
      · next hidden =>
          cases stepped
          exact absurd visible hidden

/-- An unnamed session has no terminal, and no toast is without its mark. -/
theorem screenRead {page : Page} (watched : page.Watched) :
    page.ScreenRead := by
  intro visible listened id active
  have quiet : page.browser.app.state.sessionUnread id = false := by
    by_contra unread
    rw [Bool.not_eq_false] at unread
    have named := (watched.alerting.terminal id unread).1
    rw [watched.read visible listened id active named] at unread
    cases unread
  refine ⟨quiet, fun t member same => ?_⟩
  have unread := watched.alerting.unread t member
  rw [same, quiet] at unread
  cases unread

end Watched

/-- In every run in which no reply brings an unread session to the screen, the
session on screen has no alert. -/
theorem screenRead_of_showsRead
    {visible : Bool}
    {actions : List PageAction}
    {page : Page}
    (showsRead : Follows Page.step ShowsRead (Page.initial visible) actions)
    (ran : run Page.step (Page.initial visible) actions = some page) :
    page.ScreenRead :=
  (invariant_of_run
    (fun _ _ _ watched shows stepped => Watched.step watched shows stepped)
    (Watched.initial visible) showsRead ran).screenRead

/-- An alert comes up behind the user's back and is looked at; then the tab on
screen is closed. -/
def readRun : List PageAction :=
  loadRun.map .operate ++
    [.operate (.call 1 (.createSession "v" none)),
      .operate (.reply 1 [.session (writeJSON 201 (sessionRow "c" "v"))]),
      .output "a" 1000, .output "a" 1700, .idleTimer "a",
      .operate (.call 2 (.setActiveSession "a")),
      .operate (.call 3 (.deleteSession "a")),
      .operate (.reply 3 [.done (writeJSON 200 ())])]

theorem screenRead_readRun :
    ((run Page.step (Page.initial true) readRun).get
      (by decide)).ScreenRead :=
  screenRead_of_showsRead (by decide) (Option.some_get _).symm

/-- The tab on screen is closed, and the next one has an alert.  The listener
has run before. -/
def unreadRun : List PageAction :=
  [.visibilityChange, .visibilityChange, .onVisibility] ++
    loadRun.map .operate ++
    [.operate (.call 1 (.createSession "v" none)),
      .operate (.reply 1 [.session (writeJSON 201 (sessionRow "c" "v"))]),
      .output "a" 1000, .output "a" 1700, .idleTimer "a",
      .operate (.call 2 (.deleteSession "c")),
      .operate (.reply 2 [.done (writeJSON 200 ())])]

theorem not_screenRead_unreadRun :
    ∃ visible actions page,
      run Page.step (Page.initial visible) actions = some page ∧
        ¬page.ScreenRead := by
  refine ⟨true, unreadRun,
    (run Page.step (Page.initial true) unreadRun).get (by decide),
    (Option.some_get _).symm, fun read => ?_⟩
  have quiet := (read (by decide) (by decide) "a" (by decide)).1
  exact absurd quiet (by decide)

end Page

end Client
end LociTerm
