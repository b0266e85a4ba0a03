import LociTerm.Client.Activity

/-!
# Alerts

What the toasts, the unread marks and the two maps of the module have to do
with each other, over every run of a page, and when the session on screen may
be unread.
-/

namespace LociTerm
namespace Client

/-! ## The ids of toasts -/

/-- A separator that does not occur behind it splits a list in one way. -/
theorem append_cons_injective
    {α : Type}
    {separator : α}
    {left right leftRest rightRest : List α}
    (leftFree : separator ∉ leftRest)
    (rightFree : separator ∉ rightRest)
    (same : left ++ separator :: leftRest = right ++ separator :: rightRest) :
    left = right := by
  rcases List.append_eq_append_iff.mp same with
    ⟨between, rfl, rest⟩ | ⟨between, rfl, rest⟩
  all_goals
    cases between with
    | nil => simp
    | cons first others =>
        cases rest
        simp at leftFree rightFree

theorem notMem_toList_toString (n : Nat) : '-' ∉ (toString n).toList := by
  rw [Nat.toString_eq_repr, Nat.toList_repr]
  intro member
  have digit : ('-' : Char).isDigit = true :=
    Nat.isDigit_of_mem_toDigits (by decide) (by decide) member
  exact absurd digit (by decide)

/-- The id of a toast tells its session. -/
theorem toastId_injective
    {left right : String}
    {leftTime rightTime : Nat}
    (same : toastId left leftTime = toastId right rightTime) :
    left = right := by
  have lists := congrArg String.toList same
  simp only [toastId, String.toList_append, List.append_assoc] at lists
  exact String.toList_inj.mp (append_cons_injective
    (notMem_toList_toString leftTime) (notMem_toList_toString rightTime) lists)

/-! ## The invariant -/

/-- The toasts, the marks and the maps as every step keeps them. -/
structure App.Alerting (app : App) : Prop where
  capped : app.state.toasts.length ≤ maxToasts
  single : (app.state.toasts.map (·.sessionId)).Nodup
  named : ∀ t ∈ app.state.toasts, t.id = toastId t.sessionId t.createdAt
  unread : ∀ t ∈ app.state.toasts,
    app.state.sessionUnread t.sessionId = true
  terminal : ∀ id, app.state.sessionUnread id = true → IsTerminal id
  tracked : ∀ id,
    (app.busyTrack.get? id).isSome = (app.idleTimers.get? id).isSome
  timed : ∀ id, (app.idleTimers.get? id).isSome = true → IsTerminal id

namespace App
namespace Alerting

theorem initial : App.initial.Alerting where
  capped := by decide
  single := List.nodup_nil
  named := fun _ member => absurd member List.not_mem_nil
  unread := fun _ member => absurd member List.not_mem_nil
  terminal := fun _ unread => by cases unread
  tracked := fun _ => rfl
  timed := fun _ timer => by cases timer

/-- No toast is for the property name that `undefined` becomes. -/
theorem ne_undefined
    {app : App}
    (alerting : app.Alerting) :
    ∀ t ∈ app.state.toasts, t.sessionId ≠ "undefined" :=
  fun t member => (alerting.terminal _ (alerting.unread t member)).2

theorem quieter
    {before after : App}
    (alerting : before.Alerting)
    (quieter : before.Quieter after) :
    after.Alerting where
  capped := Nat.le_trans quieter.state.toasts.length_le alerting.capped
  single := (quieter.state.toasts.map _).nodup alerting.single
  named := fun t member =>
    alerting.named t (quieter.state.toasts.subset member)
  unread := fun t member => by
    rw [quieter.state.marked t member]
    exact alerting.unread t (quieter.state.toasts.subset member)
  terminal := fun id unread =>
    alerting.terminal id (quieter.state.unread id unread)
  tracked := fun id => by
    rcases quieter.tracked id with ⟨busy, idle⟩ | ⟨busy, idle⟩
    · rw [busy, idle]
      exact alerting.tracked id
    · simp [busy, idle]
  timed := fun id timer => by
    rcases quieter.tracked id with ⟨_, idle⟩ | ⟨_, idle⟩
    · rw [idle] at timer
      exact alerting.timed id timer
    · rw [idle] at timer
      cases timer

theorem markSessionOutput
    {app : App}
    (alerting : app.Alerting)
    (visible : Bool)
    {sessionId : String}
    (isTerminal : IsTerminal sessionId)
    (now : Nat) :
    (app.markSessionOutput visible sessionId now).Alerting := by
  unfold App.markSessionOutput
  split
  · exact alerting.quieter
      (Quieter.of_cancel (AppState.Quieter.of_eq rfl rfl))
  · refine { alerting with tracked := fun id => ?_, timed := fun id timer => ?_ }
    · simp only [Table.get?_set]
      split
      · rfl
      · exact alerting.tracked id
    · simp only [Table.get?_set] at timer
      split at timer
      · next same =>
          subst same
          exact isTerminal
      · exact alerting.timed id timer

end Alerting
end App

/-- What the timer of a burst does to the state: nothing, or it sets one mark
and perhaps puts a toast on top. -/
theorem alert_cases (s : AppState) (sessionId : String) (t : BusyTrack) :
    s.alert sessionId t = s ∨
    ∃ toasts, s.alert sessionId t = { s with
        sessionActivity := s.sessionActivity.set sessionId
          ⟨true, t.lastByteAt, t.lastByteAt⟩
        toasts := toasts } ∧
      (toasts = s.toasts ∨ ∃ toast : Toast,
        toast.id = toastId sessionId toast.createdAt ∧
        toast.sessionId = sessionId ∧
        ∃ dropped, toasts =
          (s.toasts.filter (·.sessionId ≠ sessionId) ++ [toast]).drop dropped ∧
          toasts.length ≤ maxToasts) := by
  unfold AppState.alert
  simp only
  split
  · exact Or.inl rfl
  · split
    · exact Or.inl rfl
    · split
      · exact Or.inr ⟨_, rfl, Or.inl rfl⟩
      · refine Or.inr ⟨_, rfl, Or.inr ⟨_, ?_, ?_, _, rfl, ?_⟩⟩
        · rfl
        · rfl
        · rw [List.length_drop]
          omega

theorem sessionUnread_mark
    (s : AppState)
    (sessionId id : String)
    (time : Nat)
    (toasts : List Toast) :
    ({ s with
        sessionActivity := s.sessionActivity.set sessionId ⟨true, time, time⟩
        toasts := toasts } : AppState).sessionUnread id =
      (decide (sessionId = id) || s.sessionUnread id) := by
  unfold AppState.sessionUnread
  simp only [Table.get?_set]
  by_cases same : sessionId = id <;> simp [same]

namespace App
namespace Alerting

/-- Only the state of the store has changed. -/
theorem of_toasts
    {app : App}
    {s : AppState}
    (alerting : app.Alerting)
    (capped : s.toasts.length ≤ maxToasts)
    (single : (s.toasts.map (·.sessionId)).Nodup)
    (named : ∀ t ∈ s.toasts, t.id = toastId t.sessionId t.createdAt)
    (unread : ∀ t ∈ s.toasts, s.sessionUnread t.sessionId = true)
    (terminal : ∀ id, s.sessionUnread id = true → IsTerminal id) :
    ({ app with state := s } : App).Alerting :=
  { alerting with
    capped := capped
    single := single
    named := named
    unread := unread
    terminal := terminal }

/-- The toasts after a burst of output has ended. -/
theorem alert
    {app : App}
    (alerting : app.Alerting)
    {sessionId : String}
    (isTerminal : IsTerminal sessionId)
    (t : BusyTrack) :
    ({ app with state := app.state.alert sessionId t } : App).Alerting := by
  rcases alert_cases app.state sessionId t with
    same | ⟨toasts, raised, same | ⟨toast, id, session, dropped, rfl, length⟩⟩
  · rw [same]
    exact alerting
  all_goals
    have terminal (id : String)
        (unread : (app.state.alert sessionId t).sessionUnread id = true) :
        IsTerminal id := by
      rw [raised, sessionUnread_mark, Bool.or_eq_true] at unread
      rcases unread with this | unread
      · exact of_decide_eq_true this ▸ isTerminal
      · exact alerting.terminal id unread
    refine alerting.of_toasts ?_ ?_ ?_ ?_ terminal
  · rw [raised, same]
    exact alerting.capped
  · rw [raised, same]
    exact alerting.single
  · rw [raised, same]
    exact alerting.named
  · intro old member
    rw [raised, same] at member
    rw [raised, sessionUnread_mark, alerting.unread old member, Bool.or_true]
  · rw [raised]
    exact length
  · rw [raised]
    refine ((List.drop_sublist _ _).map _).nodup ?_
    rw [List.map_append, List.nodup_append]
    refine ⟨(List.filter_sublist.map _).nodup alerting.single, by simp, ?_⟩
    rintro other inOthers _ inNew rfl
    obtain ⟨old, member, rfl⟩ := List.mem_map.mp inOthers
    simp [session] at member inNew
    exact member.2 inNew
  · intro old member
    rw [raised] at member
    rcases List.mem_append.mp (List.mem_of_mem_drop member) with older | new
    · exact alerting.named old (List.mem_of_mem_filter older)
    · rw [List.mem_singleton.mp new, id, session]
  · intro old member
    rw [raised] at member
    rw [raised, sessionUnread_mark]
    rcases List.mem_append.mp (List.mem_of_mem_drop member) with older | new
    · rw [alerting.unread old (List.mem_of_mem_filter older), Bool.or_true]
    · rw [List.mem_singleton.mp new, session]
      simp

theorem idleTimer
    {app : App}
    (alerting : app.Alerting)
    (visible : Bool)
    {sessionId : String}
    (timer : (app.idleTimers.get? sessionId).isSome = true) :
    (app.idleTimer visible sessionId).Alerting := by
  have rested : (app.cancelIdleTracking sessionId).Alerting :=
    alerting.quieter (Quieter.of_cancel (AppState.Quieter.of_eq rfl rfl))
  simp only [App.idleTimer]
  split
  · exact rested
  · split
    · exact rested
    · split
      · exact rested
      · exact rested.alert (alerting.timed sessionId timer) _

theorem clearSessionUnread
    {app : App}
    (alerting : app.Alerting)
    (sessionId : String) :
    (app.clearSessionUnread sessionId).Alerting :=
  alerting.quieter (Quieter.of_cancel (app.state.seen_quieter sessionId))

theorem dismissToast
    {app : App}
    (alerting : app.Alerting)
    (id : String) :
    ({ app with state := app.state.dismissToast id } : App).Alerting := by
  refine alerting.quieter (Quieter.of_state ?_)
  unfold AppState.dismissToast
  split
  · exact ⟨List.filter_sublist, fun _ _ => rfl, fun _ unread => unread⟩
  · exact AppState.Quieter.of_eq rfl rfl

theorem onVisibility {app : App} (alerting : app.Alerting) :
    app.onVisibility.Alerting := by
  unfold App.onVisibility
  split
  · exact alerting.clearSessionUnread _
  · exact alerting

end Alerting
end App

/-- Every step of the page keeps the invariant. -/
theorem Page.step_alerting
    {page next : Page}
    {action : PageAction}
    (alerting : page.browser.app.Alerting)
    (stepped : page.step action = some next) :
    next.browser.app.Alerting := by
  cases action with
  | operate action =>
      obtain ⟨browser, operated, rfl⟩ := Option.map_eq_some_iff.mp stepped
      exact alerting.quieter
        (Browser.step_quieter alerting.ne_undefined operated)
  | output sessionId now =>
      simp only [Page.step] at stepped
      split at stepped
      · next isTerminal =>
          cases stepped
          exact alerting.markSessionOutput page.visible isTerminal now
      · cases stepped
  | idleTimer sessionId =>
      simp only [Page.step] at stepped
      split at stepped
      · next timer =>
          cases stepped
          exact alerting.idleTimer page.visible timer
      · cases stepped
  | clearSessionUnread sessionId =>
      cases stepped
      exact alerting.clearSessionUnread sessionId
  | dismissToast id =>
      cases stepped
      exact alerting.dismissToast id
  | visibilityChange =>
      cases stepped
      exact alerting
  | onVisibility =>
      simp only [Page.step] at stepped
      split at stepped
      · cases stepped
        exact alerting.onVisibility
      · cases stepped
        exact alerting

theorem Page.run_alerting
    {visible : Bool}
    {actions : List PageAction}
    {page : Page}
    (ran : run Page.step (Page.initial visible) actions = some page) :
    page.browser.app.Alerting := by
  have preserved : ∀ (page : Page) action next, page.browser.app.Alerting →
      page.step action = some next → next.browser.app.Alerting :=
    fun _ _ _ alerting stepped => Page.step_alerting alerting stepped
  exact invariant_of_unconditional_run preserved App.Alerting.initial ran

/-! ## Consistent alerts -/

/-- Two toasts with one session are the same. -/
theorem App.Alerting.eq_of_session
    {app : App}
    (alerting : app.Alerting)
    {left right : Toast}
    (leftMember : left ∈ app.state.toasts)
    (rightMember : right ∈ app.state.toasts)
    (same : left.sessionId = right.sessionId) :
    left = right :=
  List.inj_on_of_nodup_map alerting.single leftMember rightMember same

/-- Two toasts with one id are the same. -/
theorem App.Alerting.eq_of_id
    {app : App}
    (alerting : app.Alerting)
    {left right : Toast}
    (leftMember : left ∈ app.state.toasts)
    (rightMember : right ∈ app.state.toasts)
    (same : left.id = right.id) :
    left = right := by
  rw [alerting.named left leftMember, alerting.named right rightMember] at same
  exact alerting.eq_of_session leftMember rightMember (toastId_injective same)

/-- The alerts of the store fit together. -/
structure App.AlertsConsistent (app : App) : Prop where
  capped : app.state.toasts.length ≤ maxToasts
  single : (app.state.toasts.map (·.sessionId)).Nodup
  distinct : (app.state.toasts.map (·.id)).Nodup
  dismissed : ∀ t ∈ app.state.toasts, ∀ other,
    other ∈ (app.state.dismissToast t.id).toasts ↔
      other ∈ app.state.toasts ∧ other ≠ t
  unread : ∀ t ∈ app.state.toasts,
    ∃ activity, app.state.sessionActivity.get? t.sessionId = some activity ∧
      activity.unread = true
  tracked : ∀ id, id ∈ app.busyTrack.keys ↔ id ∈ app.idleTimers.keys

theorem Page.alerts_consistent
    {visible : Bool}
    {actions : List PageAction}
    {page : Page}
    (ran : run Page.step (Page.initial visible) actions = some page) :
    page.browser.app.AlertsConsistent := by
  have alerting := Page.run_alerting ran
  refine
    { capped := alerting.capped
      single := alerting.single
      distinct := ?_
      dismissed := ?_
      unread := ?_
      tracked := ?_ }
  · refine (List.nodup_map_iff_inj_on (List.Nodup.of_map _ alerting.single)).mpr ?_
    intro left leftMember right rightMember same
    exact alerting.eq_of_id leftMember rightMember same
  · intro t member other
    have present : page.browser.app.state.toasts.any (·.id = t.id) = true :=
      List.any_eq_true.mpr ⟨t, member, by simp⟩
    unfold AppState.dismissToast
    rw [if_pos present, List.mem_filter, decide_eq_true_eq]
    refine and_congr_right fun otherMember => not_congr ⟨fun same => ?_, ?_⟩
    · exact alerting.eq_of_id otherMember member same
    · rintro rfl
      rfl
  · intro t member
    have unread := alerting.unread t member
    unfold AppState.sessionUnread at unread
    cases found : page.browser.app.state.sessionActivity.get? t.sessionId with
    | none => simp [found] at unread
    | some activity => exact ⟨activity, rfl, by simpa [found] using unread⟩
  · intro id
    rw [Table.mem_keys_iff, Table.mem_keys_iff, alerting.tracked id]

/-- Both sessions of a hidden page fall silent; one alert is seen and comes
back, the other is dismissed. -/
def hiddenRun : List PageAction :=
  loadRun.map .operate ++
    [.output "a" 1000, .output "b" 1200, .output "a" 1700, .output "b" 1900,
      .idleTimer "a", .idleTimer "b", .clearSessionUnread "a",
      .output "a" 5000, .output "a" 5600, .idleTimer "a",
      .dismissToast (toastId "b" 1900)]

theorem Page.alerts_consistent_hiddenRun :
    ((run Page.step (Page.initial false) hiddenRun).get
      (by decide)).browser.app.AlertsConsistent :=
  Page.alerts_consistent (Option.some_get _).symm

end Client
end LociTerm
