import LociTerm.Client.Browser
import LociTerm.Client.Listing
import LociTerm.Library.Run

/-!
# Output and alerts

`markSessionOutput`, the idle timer that it sets, and what takes an alert back.
A burst of output is tracked outside the state, which changes when the timer
of the burst fires.  A page is the browser with the visibility of its document
and the output of its terminals.
-/

namespace LociTerm
namespace Client

/-- `MAX_TOASTS` -/
def maxToasts : Nat := 5

/-- `IDLE_MS` -/
def idleMs : Nat := 1500

/-- `MIN_BUSY_MS` -/
def minBusyMs : Nat := 500

/-- The title of a session in one list. -/
def titleIn (sessionId : String) (list : List (Body Session)) : Option String :=
  (list.find? (·.field (·.id) = some sessionId)).bind (·.field (·.title))

/-- The workspace and the title of a session, empty if it is in no list.  An
error object in the place of a list has no `find`, which throws. -/
def locate (sessionId : String) :
    List (String × Records Session) → Option (String × String)
  | [] => some ("", "")
  | (_, .error _) :: _ => none
  | (wid, .ok list) :: rest =>
      match titleIn sessionId list with
      | some sessionTitle => some (wid, sessionTitle)
      | none => locate sessionId rest

/-- The id of a toast: `${sessionId}-${t.lastByteAt}` -/
def toastId (sessionId : String) (lastByteAt : Nat) : String :=
  sessionId ++ "-" ++ toString lastByteAt

namespace AppState

/-- `sessionUnread` -/
def sessionUnread (s : AppState) (sessionId : String) : Bool :=
  ((s.sessionActivity.get? sessionId).map (·.unread)).getD false

/-- The updater of the idle timer. -/
def alert (s : AppState) (sessionId : String) (t : BusyTrack) : AppState :=
  if s.sessionUnread sessionId then s
  else
    let nextActivity :=
      s.sessionActivity.set sessionId ⟨true, t.lastByteAt, t.lastByteAt⟩
    match locate sessionId s.sessions.entries with
    | none => s
    | some (workspaceId, sessionTitle) =>
        if workspaceId = "" then { s with sessionActivity := nextActivity }
        else
          let toast : Toast :=
            { id := toastId sessionId t.lastByteAt
              sessionId := sessionId
              workspaceId := workspaceId
              sessionTitle := sessionTitle
              createdAt := t.lastByteAt }
          let toasts := s.toasts.filter (·.sessionId ≠ sessionId) ++ [toast]
          { s with
            sessionActivity := nextActivity
            -- `slice(-MAX_TOASTS)`
            toasts := toasts.drop (toasts.length - maxToasts) }

/-- `dismissToast`; without such a toast the state is the same object. -/
def dismissToast (s : AppState) (id : String) : AppState :=
  if s.toasts.any (·.id = id) then
    { s with toasts := s.toasts.filter (·.id ≠ id) }
  else s

end AppState

namespace App

/-- `markSessionOutput`, up to the timer that it sets. -/
def markSessionOutput
    (app : App)
    (visible : Bool)
    (sessionId : String)
    (now : Nat) : App :=
  if app.state.activeSessionId = some sessionId ∧ visible then
    app.cancelIdleTracking sessionId
  else
    { app with
      busyTrack := app.busyTrack.set sessionId
        (match app.busyTrack.get? sessionId with
          | some track => { track with lastByteAt := now }
          | none => ⟨now, now⟩)
      idleTimers := app.idleTimers.set sessionId (now + idleMs) }

/-- The callback of the timer. -/
def idleTimer (app : App) (visible : Bool) (sessionId : String) : App :=
  let rested := app.cancelIdleTracking sessionId
  match app.busyTrack.get? sessionId with
  | none => rested
  | some t =>
      if t.lastByteAt - t.startedAt < minBusyMs then rested
      else if app.state.activeSessionId = some sessionId ∧ visible then rested
      else { rested with state := app.state.alert sessionId t }

/-- `clearSessionUnread`, which cancels the tracking of the session as well. -/
def clearSessionUnread (app : App) (sessionId : String) : App :=
  { app.cancelIdleTracking sessionId with state := app.state.seen sessionId }

/-- `onVisibility`, once the document is visible. -/
def onVisibility (app : App) : App :=
  if truthy app.state.activeSessionId then
    app.clearSessionUnread (key app.state.activeSessionId)
  else app

end App

/-- A session whose terminal has output.  `useTerminal` mounts none for an
empty id, and the ids of sessions are UUIDs. -/
def IsTerminal (sessionId : String) : Prop :=
  sessionId ≠ "" ∧ sessionId ≠ "undefined"

instance (sessionId : String) : Decidable (IsTerminal sessionId) :=
  inferInstanceAs (Decidable (_ ∧ _))

/-- The browser with its document. -/
structure Page where
  browser : Browser
  /-- `document.visibilityState === 'visible'` -/
  visible : Bool
  /-- The listener has run since the document last became visible.  A page
  that loads visible has nothing for it to do. -/
  listened : Bool
  deriving DecidableEq

/-- What happens on a page.  The clock may be set while a timer waits, so that
a timer fires at any time. -/
inductive PageAction
  | operate (action : BrowserAction)
  | output (sessionId : String) (now : Nat)
  | idleTimer (sessionId : String)
  | clearSessionUnread (sessionId : String)
  | dismissToast (id : String)
  | visibilityChange
  | onVisibility
  deriving DecidableEq

namespace Page

/-- The page as it loads. -/
def initial (visible : Bool) : Page := ⟨Browser.initial, visible, visible⟩

/-- The page after a synchronous change of its store. -/
def update (page : Page) (app : App) : Page :=
  { page with browser := { page.browser with app := app } }

/-- The step relation. -/
def step (page : Page) : PageAction → Option Page
  | .operate action =>
      (page.browser.step action).map fun browser =>
        { page with browser := browser }
  | .output sessionId now =>
      if IsTerminal sessionId then
        some (page.update
          (page.browser.app.markSessionOutput page.visible sessionId now))
      else none
  | .idleTimer sessionId =>
      if (page.browser.app.idleTimers.get? sessionId).isSome then
        some (page.update
          (page.browser.app.idleTimer page.visible sessionId))
      else none
  | .clearSessionUnread sessionId =>
      some (page.update (page.browser.app.clearSessionUnread sessionId))
  | .dismissToast id =>
      some (page.update { page.browser.app with
        state := page.browser.app.state.dismissToast id })
  | .visibilityChange =>
      some { page with visible := !page.visible, listened := false }
  | .onVisibility =>
      if page.visible then
        some { page.update page.browser.app.onVisibility with
          listened := true }
      else some page

end Page

/-! ## Operations bring no alert -/

/-- No alert is new, and the toasts that are left have kept their marks. -/
structure AppState.Quieter (before after : AppState) : Prop where
  toasts : after.toasts.Sublist before.toasts
  marked : ∀ t ∈ after.toasts,
    after.sessionUnread t.sessionId = before.sessionUnread t.sessionId
  unread : ∀ id, after.sessionUnread id = true →
    before.sessionUnread id = true

/-- No alert is new, and of a session either both maps have kept their entries
or neither has one. -/
structure App.Quieter (before after : App) : Prop where
  state : before.state.Quieter after.state
  tracked : ∀ id, after.busyTrack.get? id = before.busyTrack.get? id ∧
      after.idleTimers.get? id = before.idleTimers.get? id ∨
    after.busyTrack.get? id = none ∧ after.idleTimers.get? id = none

/-- The store when an operation has come to an outcome. -/
def Outcome.app (before : App) : Outcome → App
  | .awaits _ => before
  | .returns after => after
  | .throws after => after

theorem settle_app (browser : Browser) (id : Nat) (outcome : Outcome) :
    (browser.settle id outcome).app = outcome.app browser.app := by
  cases outcome <;> rfl

namespace AppState

theorem Quieter.of_eq
    {before after : AppState}
    (toasts : after.toasts = before.toasts)
    (activity : after.sessionActivity = before.sessionActivity) :
    before.Quieter after := by
  have same (id : String) : after.sessionUnread id = before.sessionUnread id := by
    unfold sessionUnread
    rw [activity]
  refine ⟨?_, fun t _ => same t.sessionId, fun id unread => ?_⟩
  · rw [toasts]
  · rwa [← same]

theorem Quieter.congr
    {before middle after : AppState}
    (quieter : before.Quieter middle)
    (toasts : after.toasts = middle.toasts)
    (activity : after.sessionActivity = middle.sessionActivity) :
    before.Quieter after := by
  obtain ⟨fewer, marked, unread⟩ := quieter
  refine ⟨?_, ?_, ?_⟩
  · rwa [toasts]
  · unfold sessionUnread
    rwa [toasts, activity]
  · unfold sessionUnread
    rwa [activity]

theorem mem_toastsWithout
    {s : AppState}
    {removed : String → Bool}
    {t : Toast} :
    t ∈ s.toastsWithout removed ↔
      t ∈ s.toasts ∧ removed t.sessionId = false := by
  unfold toastsWithout
  split
  · simp
  · next none =>
      rw [Bool.not_eq_true, List.any_eq_false] at none
      refine ⟨fun member => ⟨member, ?_⟩, And.left⟩
      simpa using none t member

theorem toastsWithout_sublist (s : AppState) (removed : String → Bool) :
    (s.toastsWithout removed).Sublist s.toasts := by
  unfold toastsWithout
  split
  · exact List.filter_sublist
  · exact List.Sublist.refl _

/-- The marks of some sessions go together with their toasts. -/
theorem Quieter.of_without
    {before after : AppState}
    (removed : String → Bool)
    (toasts : after.toasts = before.toastsWithout removed)
    (kept : ∀ t ∈ before.toasts, removed t.sessionId = false →
      after.sessionUnread t.sessionId = before.sessionUnread t.sessionId)
    (unread : ∀ id, after.sessionUnread id = true →
      before.sessionUnread id = true) :
    before.Quieter after := by
  refine ⟨?_, fun t member => ?_, unread⟩
  · rw [toasts]
    exact toastsWithout_sublist before removed
  · rw [toasts, mem_toastsWithout] at member
    exact kept t member.1 member.2

theorem sessionUnread_seen (s : AppState) (id other : String) :
    (s.seen id).sessionUnread other =
      (s.sessionUnread other && decide (other ≠ id)) := by
  unfold seen sessionUnread
  simp only
  by_cases same : other = id
  · subst same
    cases found : s.sessionActivity.get? other with
    | none => simp [found]
    | some prev =>
        by_cases unread : prev.unread = true
        · simp [unread]
        · simp [found, unread]
  · have different : id ≠ other := Ne.symm same
    cases s.sessionActivity.get? id with
    | none => simp [same]
    | some prev =>
        by_cases unread : prev.unread = true
        · simp [unread, Table.get?_set_of_ne _ _ different, same]
        · simp [unread, same]

theorem seen_quieter (s : AppState) (id : String) : s.Quieter (s.seen id) := by
  refine Quieter.of_without (· = id) rfl ?_ ?_
  · intro t _ different
    simpa [sessionUnread_seen] using fun _ => of_decide_eq_false different
  · intro other unread
    rw [sessionUnread_seen, Bool.and_eq_true] at unread
    exact unread.1

/-- A deleted session takes its mark and its toast with it. -/
theorem withoutSession_quieter
    (s : AppState)
    (wid id : String)
    (list : List (Body Session)) :
    s.Quieter (s.withoutSession wid id list) := by
  have marks (other : String) :
      (s.withoutSession wid id list).sessionUnread other =
        (s.sessionUnread other && decide (id ≠ other)) := by
    unfold sessionUnread withoutSession
    simp only [Table.get?_erase]
    by_cases same : id = other <;> simp [same]
  refine Quieter.of_without (· = id) rfl ?_ ?_
  · intro t _ different
    simp [marks, Ne.symm (of_decide_eq_false different)]
  · intro other unread
    rw [marks, Bool.and_eq_true] at unread
    exact unread.1

/-- Deleting the marks of some ids, `undefined` among them. -/
theorem get?_foldl_erase
    (removedIds : List (Option String))
    (activity : Table String SessionActivity)
    (id : String) :
    (removedIds.foldl (fun activity id => activity.erase (key id))
        activity).get? id =
      if id ∈ removedIds.map key then none else activity.get? id := by
  induction removedIds generalizing activity with
  | nil => simp
  | cons removed rest inductionHypothesis =>
      rw [List.foldl_cons, inductionHypothesis, Table.get?_erase]
      by_cases later : id ∈ rest.map key
      · simp [later]
      · by_cases same : key removed = id
        · simp [same]
        · simp [later, same, Ne.symm same]

end AppState

namespace App

theorem Quieter.of_state
    {before : App}
    {after : AppState}
    (quieter : before.state.Quieter after) :
    before.Quieter { before with state := after } :=
  ⟨quieter, fun _ => Or.inl ⟨rfl, rfl⟩⟩

theorem Quieter.refl (app : App) : app.Quieter app :=
  Quieter.of_state (AppState.Quieter.of_eq rfl rfl)

theorem cancelIdleTracking_tracked (app : App) (sessionId id : String) :
    (app.cancelIdleTracking sessionId).busyTrack.get? id =
          app.busyTrack.get? id ∧
        (app.cancelIdleTracking sessionId).idleTimers.get? id =
          app.idleTimers.get? id ∨
      (app.cancelIdleTracking sessionId).busyTrack.get? id = none ∧
        (app.cancelIdleTracking sessionId).idleTimers.get? id = none := by
  unfold cancelIdleTracking
  by_cases same : sessionId = id
  · simp [same]
  · simp [Table.get?_erase_of_ne _ same]

theorem Quieter.of_cancel
    {before : App}
    {sessionId : String}
    {after : AppState}
    (quieter : before.state.Quieter after) :
    before.Quieter { before.cancelIdleTracking sessionId with state := after } :=
  ⟨quieter, cancelIdleTracking_tracked before sessionId⟩

theorem foldl_cancelIdleTracking_tracked
    (removed : List String)
    (app : App)
    (id : String) :
    (removed.foldl cancelIdleTracking app).busyTrack.get? id =
          app.busyTrack.get? id ∧
        (removed.foldl cancelIdleTracking app).idleTimers.get? id =
          app.idleTimers.get? id ∨
      (removed.foldl cancelIdleTracking app).busyTrack.get? id = none ∧
        (removed.foldl cancelIdleTracking app).idleTimers.get? id = none := by
  induction removed generalizing app with
  | nil => exact Or.inl ⟨rfl, rfl⟩
  | cons first rest inductionHypothesis =>
      rw [List.foldl_cons]
      rcases inductionHypothesis (app.cancelIdleTracking first) with
        ⟨busy, idle⟩ | gone
      · rw [busy, idle]
        exact cancelIdleTracking_tracked app first id
      · exact Or.inr gone

theorem finishDeleteWorkspace_quieter
    {app : App}
    (named : ∀ t ∈ app.state.toasts, t.sessionId ≠ "undefined")
    (id : String) :
    app.Quieter ((app.finishDeleteWorkspace id).app app) := by
  unfold finishDeleteWorkspace
  simp only
  split
  · next workspaces removedSessions _ _ =>
      let removedIds := removedSessions.map (·.field (·.id))
      have marks (other : String) (s : AppState)
          (activity : s.sessionActivity =
            removedIds.foldl (fun activity id => activity.erase (key id))
              app.state.sessionActivity) :
          s.sessionUnread other =
            (app.state.sessionUnread other &&
              decide (other ∉ removedIds.map key)) := by
        unfold AppState.sessionUnread
        rw [activity, AppState.get?_foldl_erase]
        by_cases removed : other ∈ removedIds.map key <;> simp [removed]
      refine ⟨?_, foldl_cancelIdleTracking_tracked _ app⟩
      refine AppState.Quieter.of_without (some · ∈ removedIds) rfl ?_ ?_
      · intro t old kept
        have outside : t.sessionId ∉ removedIds.map key := by
          intro inside
          obtain ⟨removed, found, same⟩ := List.mem_map.mp inside
          cases removed with
          | none => exact named t old same.symm
          | some other =>
              simp only [key, Option.getD_some] at same
              subst same
              exact (decide_eq_false_iff_not.mp kept) found
        rw [marks _ _ rfl]
        simp [outside]
      · intro other unread
        rw [marks _ _ rfl, Bool.and_eq_true] at unread
        exact unread.1
  · exact Quieter.refl app

theorem finishSetActiveWorkspace_quieter
    (app : App)
    (id : String)
    (sessions : Records Session) :
    app.Quieter ((app.finishSetActiveWorkspace id sessions).app app) := by
  simp only [finishSetActiveWorkspace]
  split
  · exact Quieter.refl app
  · split
    · exact Quieter.of_state (AppState.Quieter.of_eq rfl rfl)
    · next next _ =>
        split
        · exact Quieter.of_state (AppState.Quieter.of_eq rfl rfl)
        · exact Quieter.of_cancel
            ((app.state.seen_quieter next).congr rfl rfl)

theorem setActiveSession_quieter (app : App) (id : String) :
    app.Quieter ((app.setActiveSession id).app app) :=
  Quieter.of_cancel ((app.state.seen_quieter id).congr rfl rfl)

theorem initSessions_quieter
    (app : App)
    (workspaces : List (Body Workspace))
    (lists : List (Records Session)) :
    app.Quieter ((app.initSessions workspaces lists).app app) := by
  simp only [initSessions]
  split
  · exact Quieter.refl app
  · exact Quieter.refl app
  · exact Quieter.of_state (AppState.Quieter.of_eq rfl rfl)

/-- An operation that is called brings no alert. -/
theorem start_quieter (app : App) (operation : Operation) :
    app.Quieter ((app.start operation).app app) := by
  cases operation with
  | setActiveWorkspace id =>
      simp only [start]
      split
      · exact finishSetActiveWorkspace_quieter app id _
      · exact Quieter.refl app
  | pollActive =>
      simp only [start]
      split <;> exact Quieter.refl app
  | setActiveSession id => exact setActiveSession_quieter app id
  | _ => exact Quieter.refl app

/-- An operation that goes on brings no alert. -/
theorem Continues.quieter
    {app : App}
    {replies : List Reply}
    {outcome : Outcome}
    {pending : Pending}
    (named : ∀ t ∈ app.state.toasts, t.sessionId ≠ "undefined")
    (continues : app.Continues replies outcome pending) :
    app.Quieter (outcome.app app) := by
  cases pending with
  | initWorkspaces =>
      obtain ⟨_, rfl, ⟨_, rfl⟩ | ⟨_, rfl⟩ | ⟨_, _, _, rfl⟩⟩ := continues
      all_goals exact Quieter.refl app
  | initDefault | createWorkspace =>
      obtain ⟨_, rfl, rfl⟩ := continues
      exact Quieter.refl app
  | fetchWorkspaces =>
      obtain ⟨_, rfl, rfl⟩ := continues
      exact Quieter.of_state (AppState.Quieter.of_eq rfl rfl)
  | initSessions workspaces =>
      obtain ⟨lists, _, _, rfl⟩ := continues
      exact initSessions_quieter app workspaces lists
  | deleteWorkspace id =>
      obtain ⟨_, rfl, rfl⟩ := continues
      exact finishDeleteWorkspace_quieter named id
  | setActiveWorkspace id =>
      obtain ⟨_, rfl, rfl⟩ := continues
      exact finishSetActiveWorkspace_quieter app id _
  | deleteSession id =>
      obtain ⟨_, rfl, rfl⟩ := continues
      have cancelled : app.Quieter (app.cancelIdleTracking id) :=
        Quieter.of_cancel (AppState.Quieter.of_eq rfl rfl)
      simp only [finishDeleteSession]
      split
      · split
        · exact cancelled
        · exact Quieter.of_cancel (app.state.withoutSession_quieter _ id _)
      · exact cancelled
  | _ =>
      obtain ⟨_, rfl, rfl⟩ := continues
      simp only [finishInit, finishCreateWorkspace, finishRenameWorkspace,
        finishFetchSessions, finishPollActive, finishCreateSession,
        finishRenameSession]
      repeat' split
      all_goals exact Quieter.of_state (AppState.Quieter.of_eq rfl rfl)

end App

/-- No step of the browser brings an alert. -/
theorem Browser.step_quieter
    {browser next : Browser}
    {action : BrowserAction}
    (named : ∀ t ∈ browser.app.state.toasts, t.sessionId ≠ "undefined")
    (stepped : browser.step action = some next) :
    browser.app.Quieter next.app := by
  obtain ⟨id, operation, rfl, _, rfl⟩ |
    ⟨id, replies, flight, outcome, rfl, _, continues, rfl⟩ |
    ⟨id, rfl, rfl⟩ := Browser.step_cases stepped
  · rw [settle_app]
    exact App.start_quieter browser.app operation
  · rw [settle_app]
    exact continues.quieter named
  · exact App.Quieter.refl browser.app

end Client
end LociTerm
