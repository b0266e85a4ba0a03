import LociTerm.Client.IdleTimers

/-!
# Idle after busy

A page with a clock.  A timer fires exactly when it is due, and `Date.now()` is
the time of the trace.  The unread mark of a session appears at the end of a
burst of output, told from the trace alone.
-/

namespace LociTerm
namespace Client

namespace Page

/-- The session has its unread mark. -/
def unread (page : Page) (sessionId : String) : Bool :=
  page.browser.app.state.sessionUnread sessionId

/-- The search for a session in the loaded lists meets no error object. -/
def locates (page : Page) (sessionId : String) : Bool :=
  (locate sessionId page.browser.app.state.sessions.entries).isSome

end Page

/-- Something that happens on a page, with the page that it finds. -/
structure Moment where
  time : Nat
  page : Page
  action : PageAction
  deriving DecidableEq

namespace Moment

variable (m : Moment) (sessionId : String)

/-- A chunk of output of the session. -/
def isOutput : Bool :=
  match m.action with
  | .output id _ => id = sessionId
  | _ => false

/-- A chunk of output while the session is not on screen. -/
def chunk : Bool := m.isOutput sessionId && !m.page.foreground sessionId

/-- A chunk of output while the session is on screen. -/
def foregroundChunk : Bool :=
  m.isOutput sessionId && m.page.foreground sessionId

/-- The idle timer of the session fires. -/
def fires : Bool := m.action = .idleTimer sessionId

/-- The tracking of the session is cancelled. -/
def cancels : Bool := m.page.cancels sessionId m.action

/-- The end of a burst. -/
def resets : Bool :=
  m.fires sessionId || m.foregroundChunk sessionId || m.cancels sessionId

/-- The unread mark appears. -/
def flips : Bool :=
  !m.page.unread sessionId &&
    (m.page.step m.action).any (·.unread sessionId)

/-- No timer is overdue, one that fires is due, and `Date.now()` is the time. -/
def onTime : Bool :=
  m.page.browser.app.idleTimers.entries.all (m.time ≤ ·.2) &&
    match m.action with
    | .output _ now => now = m.time
    | .idleTimer id => m.page.browser.app.idleTimers.get? id = some m.time
    | _ => true

/-- It begins, lengthens or ends a burst of the session. -/
def concerns : Bool := m.chunk sessionId || m.resets sessionId

end Moment

/-- A page at a time, with what has happened on it, newest first. -/
structure Clock where
  now : Nat
  page : Page
  past : List Moment

namespace Clock

/-- As the page loads. -/
def initial (visible : Bool) : Clock := ⟨0, Page.initial visible, []⟩

/-- The step relation: what happens, and when. -/
def step (clock : Clock) (event : Nat × PageAction) : Option Clock :=
  let m : Moment := ⟨event.1, clock.page, event.2⟩
  if clock.now ≤ m.time ∧ m.onTime then
    (m.page.step m.action).map fun page => ⟨m.time, page, m :: clock.past⟩
  else none

/-- The unread mark of the session appears at a time. -/
def FlipsAt (clock : Clock) (sessionId : String) (time : Nat) : Prop :=
  ∃ m ∈ clock.past, m.time = time ∧ m.flips sessionId = true

end Clock

/-- The times of the chunks since the last firing, foreground chunk or
cancellation, newest first. -/
def burst (sessionId : String) : List Moment → List Nat
  | [] => []
  | m :: earlier =>
      if m.resets sessionId then []
      else if m.chunk sessionId then m.time :: burst sessionId earlier
      else burst sessionId earlier

/-- At this moment a burst of at least `MIN_BUSY_MS` has been over for
`IDLE_MS`, and the session is not on screen. -/
structure BusyThenIdle
    (sessionId : String)
    (m : Moment)
    (earlier : List Moment)
    (first last : Nat) : Prop where
  fires : m.fires sessionId = true
  begins : (burst sessionId earlier).getLast? = some first
  ends : (burst sessionId earlier).head? = some last
  idle : m.time = last + idleMs
  busy : minBusyMs ≤ last - first
  background : m.page.foreground sessionId = false

/-! ## The maps of the module and the burst -/

/-- What the module keeps of a burst. -/
def tracked (times : List Nat) : Tracking :=
  ⟨times.head?.bind fun last => times.getLast?.map fun first => ⟨first, last⟩,
    times.head?.map (· + idleMs)⟩

theorem chunk_tracked (times : List Nat) (now : Nat) :
    (tracked times).chunk now = tracked (now :: times) := by
  cases times with
  | nil => rfl
  | cons last older =>
      simp [tracked, Tracking.chunk, List.getLast?_cons]

/-- The bursts after a step of the page. -/
theorem Moment.tracking_step
    {m : Moment}
    {next : Page}
    (onTime : m.onTime = true)
    (stepped : m.page.step m.action = some next)
    (sessionId : String) :
    next.browser.app.tracking sessionId =
      if m.resets sessionId then Tracking.none
      else if m.chunk sessionId then
        (m.page.browser.app.tracking sessionId).chunk m.time
      else m.page.browser.app.tracking sessionId := by
  obtain ⟨time, page, action⟩ := m
  cases action with
  | output id now =>
      have same : now = time := by
        unfold Moment.onTime at onTime
        simpa using (Bool.and_eq_true_iff.mp onTime).2
      subst same
      simp only [Page.step] at stepped
      split at stepped
      · cases stepped
        simp only [Page.update, App.tracking_markSessionOutput]
        by_cases own : id = sessionId
        · subst own
          by_cases foreground : page.foreground id = true
          · have onScreen := of_decide_eq_true foreground
            simp [resets, fires, foregroundChunk, isOutput, foreground,
              onScreen]
          · have offScreen : ¬(_ ∧ _) := fun onScreen =>
              foreground (decide_eq_true onScreen)
            simp [resets, fires, foregroundChunk, isOutput, chunk, cancels,
              Page.cancels, foreground, offScreen]
        · simp [resets, fires, foregroundChunk, isOutput, chunk, cancels,
            Page.cancels, own]
      · cases stepped
  | idleTimer id =>
      simp only [Page.step] at stepped
      split at stepped
      · cases stepped
        simp [Page.update, App.tracking_idleTimer, resets, fires,
          foregroundChunk, isOutput, chunk, cancels, Page.cancels]
      · cases stepped
  | _ =>
      simpa [resets, fires, foregroundChunk, isOutput, chunk, cancels] using
        Page.tracking_step stepped (by rintro _ _ ⟨⟩) (by rintro _ ⟨⟩) sessionId

/-- The burst of the trace is the one that the module keeps. -/
theorem tracked_burst_cons (m : Moment) (earlier : List Moment)
    (sessionId : String) :
    tracked (burst sessionId (m :: earlier)) =
      if m.resets sessionId then Tracking.none
      else if m.chunk sessionId then
        (tracked (burst sessionId earlier)).chunk m.time
      else tracked (burst sessionId earlier) := by
  simp only [burst]
  split
  · rfl
  · split
    · rw [chunk_tracked]
    · rfl

/-! ## When the mark appears -/

namespace AppState

theorem sessionUnread_alert
    (s : AppState)
    (sessionId : String)
    (t : BusyTrack)
    (id : String) :
    (s.alert sessionId t).sessionUnread id =
      (s.sessionUnread id || decide (sessionId = id) &&
        (locate sessionId s.sessions.entries).isSome) := by
  unfold alert
  split
  · next unread =>
      by_cases same : sessionId = id
      · rw [← same, unread, Bool.true_or]
      · simp [same]
  · cases locate sessionId s.sessions.entries with
    | none => simp
    | some place =>
        simp only
        split
        all_goals
          rw [sessionUnread_mark s sessionId id t.lastByteAt _, Bool.or_comm]
          simp

end AppState

/-- Only the timer of a session sets its mark. -/
theorem Page.unread_of_step
    {page next : Page}
    {action : PageAction}
    (alerting : page.browser.app.Alerting)
    (stepped : page.step action = some next)
    {sessionId : String}
    (notTimer : action ≠ .idleTimer sessionId)
    (unread : next.unread sessionId = true) :
    page.unread sessionId = true := by
  cases action with
  | operate action =>
      obtain ⟨browser, operated, rfl⟩ := Option.map_eq_some_iff.mp stepped
      exact (Browser.step_quieter alerting.ne_undefined
        operated).state.unread sessionId unread
  | output id now =>
      simp only [step] at stepped
      split at stepped
      · cases stepped
        simp only [Page.unread, update, App.markSessionOutput] at unread
        split at unread <;> exact unread
      · cases stepped
  | idleTimer id =>
      have other : id ≠ sessionId := fun same => notTimer (same ▸ rfl)
      simp only [step] at stepped
      split at stepped
      · cases stepped
        simp only [Page.unread, update, App.idleTimer] at unread
        split at unread
        · exact unread
        · split at unread
          · exact unread
          · split at unread
            · exact unread
            · simpa [Page.unread, AppState.sessionUnread_alert, other]
                using unread
      · cases stepped
  | clearSessionUnread id =>
      cases stepped
      exact (page.browser.app.state.seen_quieter id).unread sessionId unread
  | dismissToast id =>
      cases stepped
      simp only [Page.unread, update, AppState.dismissToast] at unread
      split at unread <;> exact unread
  | visibilityChange =>
      cases stepped
      exact unread
  | onVisibility =>
      simp only [step] at stepped
      split at stepped
      · cases stepped
        simp only [Page.unread, update, App.onVisibility] at unread
        split at unread
        · exact (page.browser.app.state.seen_quieter _).unread sessionId unread
        · exact unread
      · cases stepped
        exact unread

/-- What its timer does to the mark of a session. -/
theorem Page.unread_idleTimer
    {page next : Page}
    {sessionId : String}
    (stepped : page.step (.idleTimer sessionId) = some next) :
    next.unread sessionId = true ↔
      page.unread sessionId = true ∨
        (∃ t, (page.browser.app.tracking sessionId).burst = some t ∧
          minBusyMs ≤ t.lastByteAt - t.startedAt) ∧
          page.foreground sessionId = false ∧
          page.locates sessionId = true := by
  simp only [step] at stepped
  split at stepped
  · cases stepped
    simp only [Page.unread, update, App.idleTimer, App.tracking, foreground,
      locates]
    cases page.browser.app.busyTrack.get? sessionId with
    | none => simp [App.cancelIdleTracking]
    | some t =>
        simp only
        split
        · next short =>
            have : ¬minBusyMs ≤ t.lastByteAt - t.startedAt := by omega
            simp [App.cancelIdleTracking, this]
        · next long =>
            have : minBusyMs ≤ t.lastByteAt - t.startedAt := by omega
            split
            · next onScreen => simp [App.cancelIdleTracking, onScreen]
            · next offScreen =>
                simp [AppState.sessionUnread_alert, this, offScreen]
  · cases stepped

/-! ## Every moment of a trace -/

/-- What holds at a moment of a trace, with what has happened earlier. -/
structure Moment.Faithful (m : Moment) (earlier : List Moment) : Prop where
  tracking : ∀ sessionId, m.page.browser.app.tracking sessionId =
    tracked (burst sessionId earlier)
  alerting : m.page.browser.app.Alerting
  onTime : m.onTime = true
  taken : ∃ next, m.page.step m.action = some next
  ordered : ∀ old ∈ earlier, old.time ≤ m.time

namespace Moment
namespace Faithful

variable {m : Moment} {earlier : List Moment} {sessionId : String}

/-- The mark appears exactly at the end of a long enough burst. -/
theorem flips_iff (faithful : m.Faithful earlier) :
    m.flips sessionId = true ↔
      (∃ first last, BusyThenIdle sessionId m earlier first last) ∧
        m.page.unread sessionId = false ∧
        m.page.locates sessionId = true := by
  obtain ⟨next, stepped⟩ := faithful.taken
  unfold flips
  rw [stepped, Option.any_some, Bool.and_eq_true, Bool.not_eq_true']
  by_cases timer : m.action = .idleTimer sessionId
  · have due : m.page.browser.app.idleTimers.get? sessionId = some m.time := by
      have onTime := (Bool.and_eq_true_iff.mp faithful.onTime).2
      simpa [timer] using onTime
    have tracking := faithful.tracking sessionId
    rw [timer] at stepped
    rw [Page.unread_idleTimer stepped, tracking]
    simp only [App.tracking, tracked, Tracking.mk.injEq] at tracking
    have ends := due.symm.trans tracking.2
    constructor
    · rintro ⟨read, unread | ⟨⟨t, kept, busy⟩, background, locates⟩⟩
      · rw [read] at unread
        cases unread
      · simp only [tracked, Option.bind_eq_some_iff,
          Option.map_eq_some_iff] at kept
        obtain ⟨last, newest, first, oldest, rfl⟩ := kept
        rw [newest] at ends
        exact ⟨⟨first, last, decide_eq_true timer, oldest, newest,
          Option.some.inj ends, busy, background⟩, read, locates⟩
    · rintro ⟨⟨first, last, _, oldest, newest, _, busy, background⟩, read,
        locates⟩
      refine ⟨read, Or.inr ⟨⟨⟨first, last⟩, ?_, busy⟩, background, locates⟩⟩
      simp [tracked, newest, oldest]
  · constructor
    · rintro ⟨read, unread⟩
      rw [Page.unread_of_step faithful.alerting stepped timer unread] at read
      cases read
    · rintro ⟨⟨_, _, ended⟩, _⟩
      exact absurd (of_decide_eq_true ended.fires) timer

end Faithful
end Moment

/-- The clock and its past. -/
structure Clock.Faithful (clock : Clock) : Prop where
  tracking : ∀ sessionId, clock.page.browser.app.tracking sessionId =
    tracked (burst sessionId clock.past)
  alerting : clock.page.browser.app.Alerting
  ahead : ∀ sessionId due,
    clock.page.browser.app.idleTimers.get? sessionId = some due →
      clock.now ≤ due
  ordered : ∀ m ∈ clock.past, m.time ≤ clock.now
  moments : ∀ later m earlier, clock.past = later ++ m :: earlier →
    m.Faithful earlier

namespace Clock
namespace Faithful

theorem initial (visible : Bool) : (Clock.initial visible).Faithful where
  tracking := fun _ => rfl
  alerting := App.Alerting.initial
  ahead := fun _ _ timer => by cases timer
  ordered := fun _ member => absurd member List.not_mem_nil
  moments := fun later _ _ split => by cases later <;> cases split

/-- A step of the clock is a moment on time, and nothing that is past has
changed. -/
theorem step_cases
    {clock next : Clock}
    {event : Nat × PageAction}
    (stepped : clock.step event = some next) :
    ∃ m : Moment, ∃ page, m.page = clock.page ∧ clock.now ≤ m.time ∧
      m.onTime = true ∧ m.page.step m.action = some page ∧
      next = ⟨m.time, page, m :: clock.past⟩ := by
  simp only [Clock.step] at stepped
  split at stepped
  · next permitted =>
      obtain ⟨page, taken, rfl⟩ := Option.map_eq_some_iff.mp stepped
      exact ⟨⟨event.1, clock.page, event.2⟩, page, rfl, permitted.1,
        permitted.2, taken, rfl⟩
  · cases stepped

/-- A timer of the page after a moment is not overdue. -/
theorem le_due
    {m : Moment}
    {page : Page}
    (onTime : m.onTime = true)
    (taken : m.page.step m.action = some page)
    {sessionId : String}
    {due : Nat}
    (timer : page.browser.app.idleTimers.get? sessionId = some due) :
    m.time ≤ due := by
  have timed : (page.browser.app.tracking sessionId).timer = some due := timer
  rw [Moment.tracking_step onTime taken] at timed
  split at timed
  · cases timed
  · split at timed
    · cases timed
      exact Nat.le_add_right _ _
    · have pending := (Bool.and_eq_true_iff.mp onTime).1
      have entry := (Table.mem_entries_iff _ _ _).mpr timed
      exact of_decide_eq_true (List.all_eq_true.mp pending _ entry)

theorem step
    {clock next : Clock}
    {event : Nat × PageAction}
    (faithful : clock.Faithful)
    (stepped : clock.step event = some next) :
    next.Faithful := by
  obtain ⟨m, page, found, later, onTime, taken, rfl⟩ := step_cases stepped
  have ordered : ∀ old ∈ clock.past, old.time ≤ m.time :=
    fun old member => Nat.le_trans (faithful.ordered old member) later
  refine
    { tracking := fun sessionId => ?_
      alerting := ?_
      ahead := fun sessionId due timer => le_due onTime taken timer
      ordered := fun old member => ?_
      moments := fun newer old earlier split => ?_ }
  · rw [Moment.tracking_step onTime taken, found, faithful.tracking,
      tracked_burst_cons]
  · rw [found] at taken
    exact Page.step_alerting faithful.alerting taken
  · rcases List.mem_cons.mp member with rfl | member
    · exact Nat.le_refl _
    · exact ordered old member
  · cases newer with
    | nil =>
        obtain ⟨rfl, rfl⟩ := List.cons.inj split
        exact
          { tracking := found ▸ faithful.tracking
            alerting := found ▸ faithful.alerting
            onTime := onTime
            taken := ⟨page, taken⟩
            ordered := ordered }
    | cons newest newer =>
        exact faithful.moments newer old earlier (List.cons.inj split).2

theorem run
    {visible : Bool}
    {events : List (Nat × PageAction)}
    {clock : Clock}
    (ran : run Clock.step (Clock.initial visible) events = some clock) :
    clock.Faithful := by
  have preserved : ∀ (clock : Clock) event next, clock.Faithful →
      clock.step event = some next → next.Faithful :=
    fun _ _ _ faithful stepped => faithful.step stepped
  exact invariant_of_unconditional_run preserved (initial visible) ran

end Faithful
end Clock

/-! ## A whole trace -/

/-- The oldest event of its kind. -/
theorem exists_oldest
    {ε : Type}
    {kind : ε → Bool}
    {history : List ε}
    (happened : ∃ event ∈ history, kind event = true) :
    ∃ newer event older, history = newer ++ event :: older ∧
      kind event = true ∧ ∀ other ∈ older, kind other = false := by
  induction history with
  | nil => simp at happened
  | cons newest history inductionHypothesis =>
      by_cases before : ∃ event ∈ history, kind event = true
      · obtain ⟨newer, event, older, rfl, holds, others⟩ :=
          inductionHypothesis before
        exact ⟨newest :: newer, event, older, rfl, holds, others⟩
      · push Not at before
        refine ⟨[], newest, history, rfl, ?_, fun other member =>
          Bool.eq_false_iff.mpr (before other member)⟩
        obtain ⟨event, member, holds⟩ := happened
        rcases List.mem_cons.mp member with rfl | member
        · exact holds
        · exact absurd holds (before event member)

/-- A burst lasts while nothing concerns the session. -/
theorem burst_append
    {sessionId : String}
    {later : List Moment}
    (unconcerned : ∀ m ∈ later, m.concerns sessionId = false)
    (earlier : List Moment) :
    burst sessionId (later ++ earlier) = burst sessionId earlier := by
  induction later with
  | nil => rfl
  | cons m later inductionHypothesis =>
      have quiet := unconcerned m List.mem_cons_self
      simp only [Moment.concerns, Bool.or_eq_false_iff] at quiet
      rw [List.cons_append, burst, quiet.1, quiet.2]
      exact inductionHypothesis fun other member =>
        unconcerned other (List.mem_cons_of_mem m member)

/-- A burst ends no earlier than any output of its session. -/
theorem le_last
    {sessionId : String}
    {newer older : List Moment}
    {chunk : Moment}
    {last : Nat}
    (output : chunk.isOutput sessionId = true)
    (ordered : ∀ m ∈ newer, chunk.time ≤ m.time)
    (ends : (burst sessionId (newer ++ chunk :: older)).head? = some last) :
    chunk.time ≤ last := by
  induction newer with
  | nil =>
      simp only [List.nil_append, burst] at ends
      split at ends
      · cases ends
      · next unreset =>
          have background : chunk.chunk sessionId = true := by
            cases onScreen : chunk.page.foreground sessionId with
            | false => simp [Moment.chunk, output, onScreen]
            | true =>
                simp [Moment.resets, Moment.foregroundChunk, output,
                  onScreen] at unreset
          rw [if_pos background] at ends
          exact Nat.le_of_eq (Option.some.inj ends)
  | cons m newer inductionHypothesis =>
      have rest : ∀ other ∈ newer, chunk.time ≤ other.time :=
        fun other member => ordered other (List.mem_cons_of_mem m member)
      simp only [List.cons_append, burst] at ends
      split at ends
      · cases ends
      · split at ends
        · have newest : m.time = last := Option.some.inj ends
          rw [← newest]
          exact ordered m List.mem_cons_self
        · exact inductionHypothesis rest ends

namespace Clock
namespace Faithful

variable {clock : Clock} {sessionId : String}

theorem flipsAt_iff (faithful : clock.Faithful) (time : Nat) :
    clock.FlipsAt sessionId time ↔
      ∃ later m earlier, clock.past = later ++ m :: earlier ∧
        m.time = time ∧
        (∃ first last, BusyThenIdle sessionId m earlier first last) ∧
        m.page.unread sessionId = false ∧
        m.page.locates sessionId = true := by
  constructor
  · rintro ⟨m, member, same, flips⟩
    obtain ⟨later, earlier, split⟩ := List.append_of_mem member
    exact ⟨later, m, earlier, split, same,
      (faithful.moments later m earlier split).flips_iff.mp flips⟩
  · rintro ⟨later, m, earlier, split, same, ended⟩
    refine ⟨m, ?_, same,
      (faithful.moments later m earlier split).flips_iff.mpr ended⟩
    rw [split]
    exact List.mem_append_right later List.mem_cons_self

/-- The timer of a burst fires when it is due, unless the session is concerned
earlier. -/
theorem burst_concerned
    (faithful : clock.Faithful)
    {later earlier : List Moment}
    {last : Nat}
    (split : clock.past = later ++ earlier)
    (ends : (burst sessionId earlier).head? = some last)
    (overdue : last + idleMs < clock.now) :
    ∃ newer m older, later = newer ++ m :: older ∧
      m.concerns sessionId = true ∧
      (∀ other ∈ older, other.concerns sessionId = false) ∧
      m.time ≤ last + idleMs ∧
      (m.fires sessionId = true → m.time = last + idleMs) := by
  have happened : ∃ m ∈ later, m.concerns sessionId = true := by
    by_contra never
    push Not at never
    have tracking := faithful.tracking sessionId
    rw [split, burst_append fun m member =>
      Bool.eq_false_iff.mpr (never m member)] at tracking
    simp only [App.tracking, tracked, ends, Tracking.mk.injEq] at tracking
    have ahead : clock.now ≤ last + idleMs :=
      faithful.ahead sessionId _ tracking.2
    omega
  obtain ⟨newer, m, older, rfl, concerned, others⟩ := exists_oldest happened
  refine ⟨newer, m, older, rfl, concerned, others, ?_⟩
  have moment := faithful.moments newer m (older ++ earlier) (by simp [split])
  have tracking := moment.tracking sessionId
  rw [burst_append others] at tracking
  simp only [App.tracking, tracked, ends, Tracking.mk.injEq] at tracking
  obtain ⟨pending, due⟩ := Bool.and_eq_true_iff.mp moment.onTime
  constructor
  · have entry := (Table.mem_entries_iff _ _ _).mpr tracking.2
    exact of_decide_eq_true (List.all_eq_true.mp pending _ entry)
  · intro fires
    have action : m.action = .idleTimer sessionId := of_decide_eq_true fires
    rw [action] at due
    have timer := of_decide_eq_true due
    rw [tracking.2] at timer
    exact (Option.some.inj timer).symm

/-- Between two outputs that are closer than `IDLE_MS` no mark appears. -/
theorem not_flips_between
    (faithful : clock.Faithful)
    {newer between older : List Moment}
    {second first : Moment}
    (split : clock.past = newer ++ second :: (between ++ first :: older))
    (output : first.isOutput sessionId = true)
    (close : second.time - first.time < idleMs) :
    ∀ m ∈ between, m.flips sessionId = false := by
  intro m member
  rw [Bool.eq_false_iff]
  intro flips
  obtain ⟨later, earlier, rfl⟩ := List.append_of_mem member
  have moment := faithful.moments (newer ++ second :: later) m
    (earlier ++ first :: older) (by simp [split])
  obtain ⟨⟨_, last, ended⟩, _⟩ := moment.flips_iff.mp flips
  have ordered : ∀ other ∈ earlier, first.time ≤ other.time := by
    intro other inside
    obtain ⟨right, left, rfl⟩ := List.append_of_mem inside
    have old := faithful.moments (newer ++ second :: (later ++ m :: right)) other
      (left ++ first :: older) (by simp [split])
    exact old.ordered first (by simp)
  have lasts := le_last output ordered ended.ends
  have latest := (faithful.moments newer second _ split).ordered m (by simp)
  have idle := ended.idle
  omega

end Faithful

/-- The unread mark of a session appears exactly at the end of a burst that was
long enough, if the session has no mark then and the search for its title does
not throw.  The burst ends `IDLE_MS` after its last chunk, and no mark appears
while chunks follow each other faster. -/
theorem flips_iff_busyThenIdle
    {visible : Bool}
    {events : List (Nat × PageAction)}
    {clock : Clock}
    (ran : run Clock.step (Clock.initial visible) events = some clock)
    (sessionId : String) :
    (∀ time, clock.FlipsAt sessionId time ↔
      ∃ later m earlier, clock.past = later ++ m :: earlier ∧
        m.time = time ∧
        (∃ first last, BusyThenIdle sessionId m earlier first last) ∧
        m.page.unread sessionId = false ∧
        m.page.locates sessionId = true) ∧
    (∀ later earlier last, clock.past = later ++ earlier →
      (burst sessionId earlier).head? = some last →
      last + idleMs < clock.now →
        ∃ newer m older, later = newer ++ m :: older ∧
          m.concerns sessionId = true ∧
          (∀ other ∈ older, other.concerns sessionId = false) ∧
          m.time ≤ last + idleMs ∧
          (m.fires sessionId = true → m.time = last + idleMs)) ∧
    ∀ newer second between first older,
      clock.past = newer ++ second :: (between ++ first :: older) →
      first.isOutput sessionId = true →
      second.isOutput sessionId = true →
      second.time - first.time < idleMs →
        ∀ m ∈ between, m.flips sessionId = false := by
  have faithful := Faithful.run ran
  refine ⟨faithful.flipsAt_iff, ?_, ?_⟩
  · intro later earlier last split ends overdue
    exact faithful.burst_concerned split ends overdue
  · intro newer second between first older split output _ close
    exact faithful.not_flips_between split output close

/-- A hidden page whose session is busy twice before anybody looks. -/
def awayRun : List (Nat × PageAction) :=
  loadRun.map (fun action => (0, .operate action)) ++
    [(100, .visibilityChange),
      (1000, .output "a" 1000), (1700, .output "a" 1700), (3200, .idleTimer "a"),
      (5000, .output "a" 5000), (5600, .output "a" 5600), (7100, .idleTimer "a")]

/-- The page after that run. -/
def awayClock : Clock :=
  (run Clock.step (Clock.initial true) awayRun).get (by decide)

theorem flips_iff_busyThenIdle_awayRun :
    awayClock.FlipsAt "a" 3200 ↔
      ∃ later m earlier, awayClock.past = later ++ m :: earlier ∧
        m.time = 3200 ∧
        (∃ first last, BusyThenIdle "a" m earlier first last) ∧
        m.page.unread "a" = false ∧
        m.page.locates "a" = true :=
  (flips_iff_busyThenIdle (Option.some_get _).symm "a").1 3200

/-- The second burst brings no second mark. -/
theorem not_flips_of_unread :
    ¬∀ time, awayClock.FlipsAt "a" time ↔
      ∃ later m earlier, awayClock.past = later ++ m :: earlier ∧
        m.time = time ∧
        ∃ first last, BusyThenIdle "a" m earlier first last := by
  intro claimed
  have marked : awayClock.FlipsAt "a" 7100 := by
    refine (claimed 7100).mpr ⟨[], awayClock.past.head (by decide),
      awayClock.past.tail, (List.cons_head_tail _).symm, by decide,
      5000, 5600, ?_⟩
    exact
      { fires := by decide
        begins := by decide
        ends := by decide
        idle := by decide
        busy := by decide
        background := by decide }
  obtain ⟨m, member, same, flips⟩ := marked
  have unmarked : ∀ m ∈ awayClock.past, m.time = 7100 → m.flips "a" = false := by
    decide
  rw [unmarked m member same] at flips
  cases flips

end Clock

end Client
end LociTerm
