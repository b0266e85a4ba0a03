import LociTerm.Client.Alerts
import LociTerm.Library.Timers

/-!
# Toasts that go away

`ToastContainer` renders the toasts of the store, and a `ToastItem` dismisses
its toast when its timer fires.  The function that it calls for this is another
one after each render of the container, so that the effects of all items clear
their timers and set them anew.  The toasts on screen do not go away together,
but in turn.
-/

namespace LociTerm
namespace Client

/-- `TOAST_DURATION_MS` -/
def toastDurationMs : Nat := 6000

/-- A timer of `ToastItem`: when it is due, and what it dismisses. -/
structure Dismissal where
  due : Nat
  id : String
  deriving DecidableEq

/-- What a trace of the container keeps. -/
inductive ToastNote
  | rendered (time : Nat) (toasts : List Toast)
  /-- A timer has dismissed a toast, and the others are left. -/
  | left (time : Nat) (id : String) (others : List Toast)
  deriving DecidableEq

namespace ToastNote

/-- When it has happened. -/
def time : ToastNote → Nat
  | rendered time _ | left time _ _ => time

/-- When a toast has left, if one has. -/
def departure? : ToastNote → Option Nat
  | rendered _ _ => none
  | left time _ _ => some time

end ToastNote

/-- A page with its toasts on screen. -/
structure ToastContainer where
  page : Page
  now : Nat
  /-- The items on screen, each with the handle that its effect has kept. -/
  items : List (Nat × Toast)
  timers : Timers Dismissal
  /-- What is selected from the store has changed since the last render. -/
  stale : Bool
  /-- When the container was last rendered. -/
  renderedAt : Nat
  /-- What has happened, newest first. -/
  past : List ToastNote

/-- What happens on the page and to the container. -/
inductive ToastAction
  /-- Time passes. -/
  | wait
  | page (action : PageAction)
  /-- The container is rendered, for its own sake or for that of a component
  around it. -/
  | render
  | timer (handle : Nat) (dismissal : Dismissal)
  deriving DecidableEq

namespace ToastContainer

/-- `toasts` of the store. -/
def toasts (c : ToastContainer) : List Toast := c.page.browser.app.state.toasts

/-- As the page loads. -/
def initial (visible : Bool) : ToastContainer :=
  ⟨Page.initial visible, 0, [], Timers.empty, false, 0, [.rendered 0 []]⟩

/-- The page after a step.  The container selects `toasts` and
`activeWorkspaceId`. -/
def onPage (c : ToastContainer) (page : Page) : ToastContainer :=
  let before := c.page.browser.app.state
  let after := page.browser.app.state
  { c with
    page := page
    stale := c.stale || decide (after.toasts ≠ before.toasts) ||
      decide (after.activeWorkspaceId ≠ before.activeWorkspaceId) }

/-- The cleanups of all effects run before any of the new effects. -/
def render (c : ToastContainer) (time : Nat) : ToastContainer :=
  let (timers, handles) := (c.timers.clearAll (c.items.map Prod.fst)).setAll
    (c.toasts.map fun toast => ⟨time + toastDurationMs, toast.id⟩)
  { c with
    items := handles.zip c.toasts
    timers := timers
    stale := false
    renderedAt := time
    past := .rendered time c.toasts :: c.past }

/-- A timer fires when it is due or later, and not before an older one that is
due no later.  What the store calls for is rendered first, at the end of the task
that has changed the store. -/
def Fires
    (c : ToastContainer)
    (time handle : Nat)
    (dismissal : Dismissal) : Prop :=
  c.stale = false ∧ (handle, dismissal) ∈ c.timers.pending ∧
    dismissal.due ≤ time ∧
    ∀ other ∈ c.timers.pending, other.1 < handle → dismissal.due < other.2.due

instance (c : ToastContainer) (time handle : Nat) (dismissal : Dismissal) :
    Decidable (c.Fires time handle dismissal) :=
  inferInstanceAs (Decidable (_ ∧ _ ∧ _ ∧ _))

/-- The step relation: what happens, and when. -/
def step (c : ToastContainer) (event : Nat × ToastAction) :
    Option ToastContainer :=
  if event.1 < c.now then none
  else
    let c := { c with now := event.1 }
    match event.2 with
    | .wait => some c
    | .page action => (c.page.step action).map c.onPage
    | .render => some (c.render event.1)
    | .timer handle dismissal =>
        if c.Fires event.1 handle dismissal then
          (c.page.step (.dismissToast dismissal.id)).map fun page =>
            let next := c.onPage page
            { next with
              timers := c.timers.clear (some handle)
              past := .left event.1 dismissal.id next.toasts :: c.past }
        else none

/-! ## One timer for each toast -/

/-- The timers of the items on screen. -/
def dismissals (c : ToastContainer) : List (Nat × Dismissal) :=
  c.items.map fun item => (item.1, ⟨c.renderedAt + toastDurationMs, item.2.id⟩)

/-- The departures so far: each follows a render that has its toast first. -/
def Departed (past : List ToastNote) : Prop :=
  ∀ later time id others earlier,
    past = later ++ .left time id others :: earlier →
      ∃ at' toast older, earlier = .rendered at' (toast :: others) :: older ∧
        toast.id = id ∧ at' + toastDurationMs ≤ time

/-- Two departures are apart. -/
def Apart (later earlier : ToastNote) : Prop :=
  ∀ y ∈ later.departure?, ∀ x ∈ earlier.departure?, x + toastDurationMs ≤ y

/-- Between two steps, the timers are those of the last render, except for one
that has fired since. -/
structure Sound (c : ToastContainer) : Prop where
  alerting : c.page.browser.app.Alerting
  shown : c.stale = false → c.items.map Prod.snd = c.toasts
  pending : c.stale = false → c.timers.pending = c.dismissals
  held : c.timers.pending.Sublist c.dismissals
  ordered : c.dismissals.Pairwise (·.1 < ·.1)
  rendered : c.renderedAt ≤ c.now
  noted : c.stale = false → ∃ older,
    c.past = .rendered c.renderedAt c.toasts :: older
  chronological : ∀ note ∈ c.past, note.time ≤ c.now
  sorted : c.past.Pairwise fun later earlier => earlier.time ≤ later.time
  departed : Departed c.past
  apart : c.past.Pairwise Apart

theorem sound_initial (visible : Bool) : (initial visible).Sound where
  alerting := App.Alerting.initial
  shown _ := rfl
  pending _ := rfl
  held := List.Sublist.refl _
  ordered := .nil
  rendered := Nat.le_refl _
  noted _ := ⟨[], rfl⟩
  chronological := by simp [initial, ToastNote.time]
  sorted := List.pairwise_singleton _ _
  departed := by
    intro later time id others earlier split
    have counted := congrArg List.length split
    cases later with
    | nil => cases split
    | cons note later => simp [initial] at counted
  apart := List.pairwise_singleton _ _

/-- A render is no departure. -/
theorem departed_rendered
    {past : List ToastNote}
    {time : Nat}
    {toasts : List Toast}
    (departed : Departed past) :
    Departed (.rendered time toasts :: past) := by
  intro later moment id others earlier split
  cases later with
  | nil => cases split
  | cons note later =>
      cases split
      exact departed later moment id others earlier rfl

theorem apart_rendered
    {time : Nat}
    {toasts : List Toast}
    {note : ToastNote} :
    Apart (.rendered time toasts) note := by
  intro moment departure
  cases departure

section Steps

variable {c : ToastContainer}

theorem Sound.wait
    {time : Nat}
    (sound : c.Sound)
    (onward : c.now ≤ time) :
    Sound { c with now := time } where
  alerting := sound.alerting
  shown := sound.shown
  pending := sound.pending
  held := sound.held
  ordered := sound.ordered
  rendered := Nat.le_trans sound.rendered onward
  noted := sound.noted
  chronological note member :=
    Nat.le_trans (sound.chronological note member) onward
  sorted := sound.sorted
  departed := sound.departed
  apart := sound.apart

/-- A step of the page leaves the timers as they are. -/
theorem Sound.onPage
    {page : Page}
    {action : PageAction}
    (sound : c.Sound)
    (stepped : c.page.step action = some page) :
    (c.onPage page).Sound := by
  have kept (fresh : (c.onPage page).stale = false) :
      c.stale = false ∧ (c.onPage page).toasts = c.toasts := by
    simp only [ToastContainer.onPage, Bool.or_eq_false_iff,
      decide_eq_false_iff_not, not_not] at fresh
    exact fresh.1
  exact
    { alerting := Page.step_alerting sound.alerting stepped
      shown := fun fresh =>
        (sound.shown (kept fresh).1).trans (kept fresh).2.symm
      pending := fun fresh => sound.pending (kept fresh).1
      held := sound.held
      ordered := sound.ordered
      rendered := sound.rendered
      noted := fun fresh => by
        rw [(kept fresh).2]
        exact sound.noted (kept fresh).1
      chronological := sound.chronological
      sorted := sound.sorted
      departed := sound.departed
      apart := sound.apart }

/-- The effects leave no timer of the render before. -/
theorem Sound.pending_render
    (sound : c.Sound)
    (time : Nat) :
    (c.render time).timers.pending = (c.render time).dismissals := by
  have known : ∀ timer ∈ c.timers.pending, timer.1 ∈ c.items.map Prod.fst := by
    intro timer member
    obtain ⟨item, here, same⟩ := List.mem_map.mp (sound.held.subset member)
    exact List.mem_map.mpr ⟨item, here, congrArg Prod.fst same⟩
  simp only [render, dismissals, Timers.pending_setAll,
    Timers.pending_clearAll_of_known known, List.nil_append]
  rw [List.zip_map_right]
  rfl

theorem Sound.render
    {time : Nat}
    (sound : c.Sound)
    (onward : c.now ≤ time) :
    Sound { c.render time with now := time } := by
  have pending := sound.pending_render time
  have handles : ((c.render time).items.map Prod.snd) = c.toasts := by
    simp [ToastContainer.render, List.map_snd_zip, Timers.handles_setAll]
  exact
    { alerting := sound.alerting
      shown := fun _ => handles
      pending := fun _ => pending
      held := pending ▸ List.Sublist.refl _
      ordered := by
        have ordered := Timers.ordered_setAll
          (c.timers.clearAll (c.items.map Prod.fst))
          (c.toasts.map fun toast =>
            (⟨time + toastDurationMs, toast.id⟩ : Dismissal))
        rw [List.zip_map_right] at ordered
        exact ordered
      rendered := Nat.le_refl _
      noted := fun _ => ⟨c.past, rfl⟩
      chronological := by
        intro note member
        rcases List.mem_cons.mp member with rfl | before
        · exact Nat.le_refl _
        · exact Nat.le_trans (sound.chronological note before) onward
      sorted := List.pairwise_cons.mpr
        ⟨fun note member =>
            Nat.le_trans (sound.chronological note member) onward,
          sound.sorted⟩
      departed := departed_rendered sound.departed
      apart := List.pairwise_cons.mpr
        ⟨fun _ _ => apart_rendered, sound.apart⟩ }

/-- The timer that fires is that of the first toast on screen: all timers are
due together, and this one is the oldest. -/
theorem Sound.head_of_fires
    {time handle : Nat}
    {dismissal : Dismissal}
    (sound : c.Sound)
    (fires : c.Fires time handle dismissal) :
    ∃ toast items others, c.items = (handle, toast) :: items ∧
      c.toasts = toast :: others ∧
      dismissal = ⟨c.renderedAt + toastDurationMs, toast.id⟩ := by
  obtain ⟨fresh, member, -, oldest⟩ := fires
  have pending := sound.pending fresh
  rw [pending] at member oldest
  have ordered := sound.ordered
  have shown := sound.shown fresh
  unfold dismissals at member oldest ordered
  cases stands : c.items with
  | nil => simp [stands] at member
  | cons item items =>
      obtain ⟨first, toast⟩ := item
      rw [stands, List.map_cons] at member oldest ordered shown
      have head : (handle, dismissal) =
          (first, ⟨c.renderedAt + toastDurationMs, toast.id⟩) := by
        rcases List.mem_cons.mp member with same | later
        · exact same
        · obtain ⟨item, _, same⟩ := List.mem_map.mp later
          cases same
          have before := (List.pairwise_cons.mp ordered).1 _ later
          exact absurd (oldest _ List.mem_cons_self before)
            (Nat.lt_irrefl _)
      cases head
      exact ⟨toast, items, items.map Prod.snd, rfl, shown.symm, rfl⟩

/-- The store drops the toast and no other one. -/
theorem Sound.toasts_dismissToast
    {toast : Toast}
    {others : List Toast}
    (sound : c.Sound)
    (shown : c.toasts = toast :: others) :
    (c.page.browser.app.state.dismissToast toast.id).toasts = others := by
  have stored : c.page.browser.app.state.toasts = toast :: others := shown
  have unique := List.pairwise_cons.mp
    (List.pairwise_map.mp (stored ▸ sound.alerting.single))
  rw [AppState.dismissToast, if_pos (by simp [stored])]
  simp only [stored]
  rw [List.filter_cons_of_neg (by simp)]
  apply List.filter_eq_self.mpr
  intro other member
  rw [decide_eq_true_eq]
  intro same
  have one := sound.alerting.eq_of_id
    (stored ▸ List.mem_cons_of_mem toast member)
    (stored ▸ List.mem_cons_self) same
  exact unique.1 other member (congrArg _ one.symm)

/-- A toast that leaves was the first one at the last render. -/
theorem departed_left
    {past older : List ToastNote}
    {time at' : Nat}
    {toast : Toast}
    {others : List Toast}
    (departed : Departed past)
    (noted : past = .rendered at' (toast :: others) :: older)
    (due : at' + toastDurationMs ≤ time) :
    Departed (.left time toast.id others :: past) := by
  intro later moment id left earlier split
  cases later with
  | nil =>
      cases split
      exact ⟨at', toast, older, noted, rfl, due⟩
  | cons note later =>
      cases split
      exact departed later moment id left earlier rfl

/-- What has left before the last render has left long ago. -/
theorem Sound.apart_left
    {time : Nat}
    {id : String}
    {others : List Toast}
    {older : List ToastNote}
    (sound : c.Sound)
    (noted : c.past = .rendered c.renderedAt c.toasts :: older)
    (due : c.renderedAt + toastDurationMs ≤ time) :
    ∀ note ∈ c.past, Apart (.left time id others) note := by
  intro note member moment here before departure
  cases here
  have sorted := sound.sorted
  rw [noted] at member sorted
  rcases List.mem_cons.mp member with rfl | earlier
  · cases departure
  · have rendered := (List.pairwise_cons.mp sorted).1 note earlier
    cases note with
    | rendered _ _ => cases departure
    | left moment id others =>
        cases departure
        exact Nat.le_trans (Nat.add_le_add_right rendered _) due

/-- The container after a timer has dismissed its toast. -/
def afterTimer
    (c : ToastContainer)
    (time handle : Nat)
    (dismissal : Dismissal) : ToastContainer :=
  let next := c.onPage (c.page.update
    { c.page.browser.app with
      state := c.page.browser.app.state.dismissToast dismissal.id })
  { next with
    now := time
    timers := c.timers.clear (some handle)
    past := .left time dismissal.id next.toasts :: c.past }

/-- The other toasts are left on screen until the next render. -/
theorem Sound.toasts_afterTimer
    {time handle due : Nat}
    {toast : Toast}
    {others : List Toast}
    (sound : c.Sound)
    (shown : c.toasts = toast :: others) :
    (c.afterTimer time handle ⟨due, toast.id⟩).toasts = others :=
  sound.toasts_dismissToast shown

theorem Sound.stale_afterTimer
    {time handle due : Nat}
    {toast : Toast}
    {others : List Toast}
    (sound : c.Sound)
    (shown : c.toasts = toast :: others) :
    (c.afterTimer time handle ⟨due, toast.id⟩).stale = true := by
  have stored : c.page.browser.app.state.toasts = toast :: others := shown
  have changed : (c.page.browser.app.state.dismissToast toast.id).toasts ≠
      c.page.browser.app.state.toasts := by
    rw [sound.toasts_dismissToast shown, stored]
    exact (List.cons_ne_self toast others).symm
  simp [afterTimer, ToastContainer.onPage, Page.update, changed]

theorem Sound.timer
    {time handle : Nat}
    {dismissal : Dismissal}
    (sound : c.Sound)
    (onward : c.now ≤ time)
    (fires : c.Fires time handle dismissal) :
    (c.afterTimer time handle dismissal).Sound := by
  obtain ⟨toast, items, others, stands, shown, rfl⟩ :=
    sound.head_of_fires fires
  have stale : (c.afterTimer time handle
      ⟨c.renderedAt + toastDurationMs, toast.id⟩).stale = true :=
    sound.stale_afterTimer shown
  have due : c.renderedAt + toastDurationMs ≤ time := fires.2.2.1
  obtain ⟨older, noted⟩ := sound.noted fires.1
  have pending : c.timers.pending = c.dismissals := sound.pending fires.1
  have first : c.dismissals =
      (handle, ⟨c.renderedAt + toastDurationMs, toast.id⟩) ::
        items.map fun item =>
          (item.1, ⟨c.renderedAt + toastDurationMs, item.2.id⟩) := by
    rw [dismissals, stands, List.map_cons]
  exact
    { alerting := @Page.step_alerting c.page _ (.dismissToast toast.id)
        sound.alerting rfl
      shown := fun fresh => by simp [stale] at fresh
      pending := fun fresh => by simp [stale] at fresh
      held := by
        have cleared := Timers.pending_clear_head (pending.trans first)
          (first ▸ sound.ordered)
        change List.Sublist (c.timers.clear (some handle)).pending c.dismissals
        rw [cleared, first]
        exact List.sublist_cons_self _ _
      ordered := sound.ordered
      rendered := Nat.le_trans sound.rendered onward
      noted := fun fresh => by simp [stale] at fresh
      chronological := by
        intro note member
        rcases List.mem_cons.mp member with rfl | before
        · exact Nat.le_refl _
        · exact Nat.le_trans (sound.chronological note before) onward
      sorted := List.pairwise_cons.mpr
        ⟨fun note member =>
            Nat.le_trans (sound.chronological note member) onward,
          sound.sorted⟩
      departed := by
        have remaining : (c.afterTimer time handle
            ⟨c.renderedAt + toastDurationMs, toast.id⟩).toasts = others :=
          sound.toasts_afterTimer shown
        rw [shown] at noted
        have departed := departed_left sound.departed noted due
        rw [← remaining] at departed
        exact departed
      apart := List.pairwise_cons.mpr
        ⟨fun note member => sound.apart_left noted due note member,
          sound.apart⟩ }

theorem Sound.step
    {next : ToastContainer}
    {event : Nat × ToastAction}
    (sound : c.Sound)
    (stepped : c.step event = some next) :
    next.Sound := by
  obtain ⟨time, action⟩ := event
  unfold ToastContainer.step at stepped
  split at stepped
  · cases stepped
  · next early =>
      have onward : c.now ≤ time := Nat.le_of_not_lt early
      cases action with
      | wait =>
          cases stepped
          exact sound.wait onward
      | page action =>
          obtain ⟨page, moved, rfl⟩ := Option.map_eq_some_iff.mp stepped
          exact (sound.wait onward).onPage moved
      | render =>
          cases stepped
          exact sound.render onward
      | timer handle dismissal =>
          obtain ⟨fires, fired⟩ := Option.ite_none_right_eq_some.mp stepped
          cases fired
          exact sound.timer onward fires

end Steps

theorem sound_of_run
    {visible : Bool}
    {events : List (Nat × ToastAction)}
    {c : ToastContainer}
    (ran : run step (initial visible) events = some c) :
    c.Sound :=
  invariant_of_unconditional_run
    (fun _ _ _ sound stepped => Sound.step sound stepped)
    (sound_initial visible) ran

/-! ## When nothing else happens -/

/-- Time passes, timers fire in time, and what the store calls for is rendered
at once. -/
def Quiet (c : ToastContainer) (event : Nat × ToastAction) : Prop :=
  match event.2 with
  | .page _ => False
  | .render => c.stale = true ∧ event.1 = c.now
  | .wait | .timer _ _ =>
      c.stale = false ∧
        (c.toasts ≠ [] → event.1 ≤ c.renderedAt + toastDurationMs)

/-- So many of the toasts have left, one after each duration. -/
structure Gone (start : ToastContainer) (gone : Nat) (c : ToastContainer) :
    Prop where
  bounded : gone ≤ start.toasts.length
  toasts : c.toasts = start.toasts.drop gone
  rendered : c.stale = false →
    c.renderedAt = start.renderedAt + toastDurationMs * gone
  waited : c.stale = false → c.toasts ≠ [] →
    c.now ≤ c.renderedAt + toastDurationMs
  left : c.stale = true →
    c.now = start.renderedAt + toastDurationMs * gone

section Quiet

variable {start c next : ToastContainer} {event : Nat × ToastAction}

theorem Gone.step
    {gone : Nat}
    (sound : c.Sound)
    (stands : Gone start gone c)
    (quiet : c.Quiet event)
    (stepped : c.step event = some next) :
    ∃ gone, Gone start gone next := by
  obtain ⟨time, action⟩ := event
  unfold ToastContainer.step at stepped
  split at stepped
  · cases stepped
  · next early =>
      cases action with
      | wait =>
          cases stepped
          obtain ⟨fresh, inTime⟩ := quiet
          exact ⟨gone, stands.bounded, stands.toasts, stands.rendered,
            fun _ => inTime, fun stale => by simp [fresh] at stale⟩
      | page action => exact absurd quiet id
      | render =>
          cases stepped
          obtain ⟨stale, same⟩ := quiet
          refine ⟨gone, stands.bounded, stands.toasts,
            fun _ => same.trans (stands.left stale), fun _ _ => ?_,
            fun stale => by cases stale⟩
          exact Nat.le_add_right _ _
      | timer handle dismissal =>
          obtain ⟨fires, fired⟩ := Option.ite_none_right_eq_some.mp stepped
          cases fired
          obtain ⟨fresh, inTime⟩ := quiet
          obtain ⟨toast, items, others, _, shown, rfl⟩ :=
            sound.head_of_fires fires
          have due : c.renderedAt + toastDurationMs ≤ time := fires.2.2.1
          have punctual : time ≤ c.renderedAt + toastDurationMs :=
            inTime (by simp [shown])
          have stale : (c.afterTimer time handle
              ⟨c.renderedAt + toastDurationMs, toast.id⟩).stale = true :=
            sound.stale_afterTimer shown
          have first : start.toasts.drop gone = toast :: others :=
            stands.toasts.symm.trans shown
          have others_eq : start.toasts.drop (gone + 1) = others := by
            rw [← List.tail_drop, first, List.tail_cons]
          have bounded : gone < start.toasts.length := by
            by_contra beyond
            rw [List.drop_eq_nil_of_le (Nat.le_of_not_lt beyond)] at first
            cases first
          refine ⟨gone + 1, bounded,
            (sound.toasts_afterTimer shown).trans others_eq.symm, ?_, ?_, ?_⟩
          · intro fresh
            exact absurd (stale.symm.trans fresh) (by simp)
          · intro fresh
            exact absurd (stale.symm.trans fresh) (by simp)
          · intro _
            have now : time = c.renderedAt + toastDurationMs :=
              Nat.le_antisymm punctual due
            have rendered := stands.rendered fresh
            calc time
              _ = start.renderedAt + toastDurationMs * gone + toastDurationMs :=
                  by rw [now, rendered]
              _ = start.renderedAt + toastDurationMs * (gone + 1) := by
                  rw [Nat.mul_add_one, Nat.add_assoc]

theorem gone_of_run
    {events : List (Nat × ToastAction)}
    {last : ToastContainer}
    (sound : start.Sound)
    (fresh : start.stale = false)
    (early : start.now ≤ start.renderedAt + toastDurationMs)
    (quiet : Follows step Quiet start events)
    (ran : run step start events = some last) :
    last.Sound ∧ ∃ gone, Gone start gone last := by
  have beginning : Gone start 0 start :=
    ⟨Nat.zero_le _, rfl, fun _ => rfl, fun _ _ => early,
      fun stale => absurd (fresh.symm.trans stale) (by simp)⟩
  have preserved : ∀ (c : ToastContainer) event next,
      (c.Sound ∧ ∃ gone, Gone start gone c) → c.Quiet event →
      c.step event = some next → next.Sound ∧ ∃ gone, Gone start gone next := by
    rintro c event next ⟨sound, gone, stands⟩ quiet stepped
    exact ⟨sound.step stepped, stands.step sound quiet stepped⟩
  exact invariant_of_run preserved ⟨sound, 0, beginning⟩ quiet ran

/-- The timer of the first toast fires when it is due. -/
theorem Sound.fires_first
    {handle : Nat}
    {toast : Toast}
    {items : List (Nat × Toast)}
    (sound : c.Sound)
    (fresh : c.stale = false)
    (stands : c.items = (handle, toast) :: items) :
    c.Fires (c.renderedAt + toastDurationMs) handle
      ⟨c.renderedAt + toastDurationMs, toast.id⟩ := by
  have ordered := sound.ordered
  rw [dismissals, stands, List.map_cons] at ordered
  refine ⟨fresh, ?_, Nat.le_refl _, ?_⟩
  · rw [sound.pending fresh, dismissals, stands]
    exact List.mem_cons_self
  · intro other member older
    rw [sound.pending fresh, dismissals, stands, List.map_cons] at member
    rcases List.mem_cons.mp member with rfl | later
    · exact absurd older (Nat.lt_irrefl _)
    · exact absurd older
        (Nat.lt_asymm ((List.pairwise_cons.mp ordered).1 other later))

/-- The toasts on screen can leave without anything else happening. -/
theorem exists_quiet_run
    (sound : c.Sound)
    (fresh : c.stale = false)
    (early : c.now ≤ c.renderedAt + toastDurationMs) :
    ∃ events last, Follows step Quiet c events ∧
      run step c events = some last ∧ last.toasts = [] := by
  induction shown : c.toasts generalizing c with
  | nil => exact ⟨[], c, trivial, rfl, shown⟩
  | cons toast others ih =>
      obtain ⟨handle, items, stands⟩ :
          ∃ handle items, c.items = (handle, toast) :: items := by
        have seen := (sound.shown fresh).trans shown
        obtain ⟨⟨handle, _⟩, items, stands, rfl, _⟩ :=
          List.map_eq_cons_iff.mp seen
        exact ⟨handle, items, stands⟩
      let due := c.renderedAt + toastDurationMs
      let fired := c.afterTimer due handle ⟨due, toast.id⟩
      let next : ToastContainer := { fired.render due with now := due }
      have fires : c.Fires due handle ⟨due, toast.id⟩ :=
        sound.fires_first fresh stands
      have dismissed : c.step (due, .timer handle ⟨due, toast.id⟩) =
          some fired :=
        (if_neg (Nat.not_lt.mpr early)).trans (if_pos fires)
      have rendered : fired.step (due, .render) = some next :=
        if_neg (Nat.lt_irrefl due)
      have onward : next.Sound := (sound.step dismissed).step rendered
      have left : next.toasts = others := sound.toasts_dismissToast shown
      obtain ⟨events, last, quiet, ran, empty⟩ :=
        ih onward rfl (Nat.le_add_right _ _) left
      refine ⟨(due, .timer handle ⟨due, toast.id⟩) :: (due, .render) :: events,
        last, ⟨⟨fresh, fun _ => Nat.le_refl _⟩, ?_⟩, ?_, empty⟩
      · intro reached same
        cases dismissed.symm.trans same
        refine ⟨⟨sound.stale_afterTimer shown, rfl⟩, ?_⟩
        intro reached same
        cases rendered.symm.trans same
        exact quiet
      · exact (run_cons_eq_some step).mpr ⟨fired, dismissed,
          (run_cons_eq_some step).mpr ⟨next, rendered, ran⟩⟩

end Quiet

/-! ## One after the other -/

/-- Toasts leave by their timers one at a time, the first on screen before the
others, and no sooner than a whole duration after the one before; when nothing
else happens, there is one departure for each duration, until all have left. -/
theorem toasts_leave_in_turn
    {visible : Bool}
    {events : List (Nat × ToastAction)}
    {c : ToastContainer}
    (ran : run step (initial visible) events = some c) :
    Departed c.past ∧ c.past.Pairwise Apart ∧
    (c.stale = false → c.now ≤ c.renderedAt + toastDurationMs →
      (∀ later last, Follows step Quiet c later →
        run step c later = some last →
        ∃ gone ≤ c.toasts.length,
          last.toasts = c.toasts.drop gone ∧
          c.renderedAt + toastDurationMs * gone ≤ last.now ∧
          (last.toasts ≠ [] →
            last.now ≤ c.renderedAt + toastDurationMs * (gone + 1))) ∧
      ∃ later last, Follows step Quiet c later ∧
        run step c later = some last ∧ last.toasts = []) := by
  have sound := sound_of_run ran
  refine ⟨sound.departed, sound.apart, fun fresh early => ⟨?_,
    exists_quiet_run sound fresh early⟩⟩
  intro later last quiet followed
  obtain ⟨onward, gone, stands⟩ := gone_of_run sound fresh early quiet followed
  refine ⟨gone, stands.bounded, stands.toasts, ?_, ?_⟩
  · cases stale : last.stale with
    | false =>
        rw [← stands.rendered stale]
        exact onward.rendered
    | true => exact Nat.le_of_eq (stands.left stale).symm
  · intro some
    rw [Nat.mul_add_one, ← Nat.add_assoc]
    cases stale : last.stale with
    | false =>
        rw [← stands.rendered stale]
        exact stands.waited stale some
    | true =>
        rw [stands.left stale]
        exact Nat.le_add_right _ _

/-- Two sessions of a hidden page fall silent, one after the other, and their
toasts leave. -/
def twoAlerts : List (Nat × ToastAction) :=
  loadRun.map (fun action => (0, .page (.operate action))) ++
    [(0, .render),
      (1000, .page (.output "a" 1000)), (1200, .page (.output "b" 1200)),
      (1700, .page (.output "a" 1700)), (1900, .page (.output "b" 1900)),
      (3700, .page (.idleTimer "a")), (3700, .render),
      (3900, .page (.idleTimer "b")), (3900, .render)]

theorem toasts_leave_in_turn_twoAlerts :
    let shown := (run step (initial false) twoAlerts).get (by decide)
    shown.toasts.map (·.sessionId) = ["a", "b"] ∧
      ∃ later last, run step shown later = some last ∧ last.toasts = [] := by
  intro shown
  have fresh : shown.stale = false := by decide
  have early : shown.now ≤ shown.renderedAt + toastDurationMs := by decide
  obtain ⟨_, _, turns⟩ := toasts_leave_in_turn
    (Option.some_get (by decide : (run step (initial false) twoAlerts).isSome)).symm
  obtain ⟨later, last, _, ran, empty⟩ := (turns fresh early).2
  exact ⟨by decide, later, last, ran, empty⟩

end ToastContainer
end Client
end LociTerm
