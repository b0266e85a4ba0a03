import Mathlib.Algebra.Order.Ring.Rat
import Mathlib.Tactic.Linarith
import Mathlib.Tactic.Ring
import LociTerm.Client.Instances
import LociTerm.Library.Timers

/-!
# Reconnecting

A failed ticket request and the end of a socket set the reconnect timer of
their instance, after a delay that grows with the failures since a socket has
opened.  `Terminal` has a flag for the timer.  Here are the timers themselves,
with their handles and delays, and `Terminal` is what they show.
-/

namespace LociTerm
namespace Client

/-- What `Math.random` returns. -/
structure Draw where
  value : ℚ
  nonneg : 0 ≤ value
  lt_one : value < 1
  deriving DecidableEq

/-- `nextReconnectDelay`, in milliseconds. -/
def nextReconnectDelay (attempts : ℕ) (random : Draw) : ℤ :=
  let base : ℚ := min 10000 (500 * 2 ^ attempts)
  let jitter := base * 0.2 * (random.value * 2 - 1)
  max 250 (base + jitter).floor

/-- A `TerminalInstance` with the reconnect timers that have been set for it. -/
structure Reconnecting where
  terminal : Terminal
  /-- `inst.reconnectTimer`, which outlives the timer. -/
  reconnectTimer : Option Nat
  /-- With their delays. -/
  timers : Timers ℤ
  /-- `disposeTerminal` has been called. -/
  disposed : Bool
  deriving DecidableEq

/-- What happens to an instance with its timers. -/
inductive ReconnectEvent
  /-- A handler runs; `Math.random` returns the draw if it is asked. -/
  | handler (event : TerminalEvent) (random : Draw)
  /-- A timer fires. -/
  | timer (handle : Nat)
  /-- Another instance has come or gone under the session id. -/
  | replaced (has : Bool)
  deriving DecidableEq

namespace Reconnecting

/-- The instance as `createInstance` makes it. -/
def start : Reconnecting :=
  ⟨Terminal.createInstance, none, Timers.empty, false⟩

/-- `scheduleReconnect` -/
def scheduleReconnect (inst : Reconnecting) (random : Draw) : Reconnecting :=
  let cleared := inst.timers.clear inst.reconnectTimer
  let delay := nextReconnectDelay inst.terminal.reconnectAttempts random
  let (timers, handle) := cleared.set delay
  { inst with
    terminal := inst.terminal.scheduleReconnect
    reconnectTimer := some handle
    timers := timers }

/-- `connectWebSocket` when the request for the ticket has failed. -/
def ticketFails (inst : Reconnecting) (random : Draw) : Reconnecting :=
  { inst with
    terminal :=
      { inst.terminal with
        tickets := inst.terminal.tickets - 1
        connecting := false } }.scheduleReconnect random

/-- `ws.onclose` -/
def onclose (inst : Reconnecting) (k : Nat) (random : Draw) : Reconnecting :=
  { inst with
    terminal :=
      { inst.terminal with connecting := false }.modifySocket k fun socket =>
        { socket with readyState := .closed } }.scheduleReconnect random

/-- `disposeTerminal` -/
def dispose (inst : Reconnecting) : Reconnecting :=
  { inst with
    terminal := inst.terminal.dispose
    timers := inst.timers.clear inst.reconnectTimer
    disposed := true }

/-- Handle an event of the instance. -/
def handle (inst : Reconnecting) (random : Draw) : TerminalEvent → Reconnecting
  | .ticketFails => inst.ticketFails random
  | .socketClose k => inst.onclose k random
  | .dispose => inst.dispose
  | event => { inst with terminal := inst.terminal.handle event }

/-- The event is there to be handled.  A disposed instance has left the map,
and its callbacks alone go on. -/
def Enabled (inst : Reconnecting) (event : TerminalEvent) : Prop :=
  event ≠ .reconnectTimer ∧ inst.terminal.Enabled event ∧
    (inst.disposed = true → event.isCallback = true)

instance (inst : Reconnecting) (event : TerminalEvent) :
    Decidable (inst.Enabled event) :=
  inferInstanceAs (Decidable (_ ∧ _ ∧ _))

/-- The step relation. -/
def step (inst : Reconnecting) : ReconnectEvent → Option Reconnecting
  | .handler event random =>
      if inst.Enabled event then some (inst.handle random event) else none
  | .timer handle =>
      (inst.timers.fire handle).map fun timers =>
        { inst with
          terminal := inst.terminal.onReconnectTimer
          timers := timers }
  | .replaced has =>
      if inst.disposed then
        some { inst with terminal := { inst.terminal with registered := has } }
      else none

end Reconnecting

namespace ReconnectEvent

/-- The request for a ticket fails, or a socket closes. -/
def fails : ReconnectEvent → Bool
  | handler .ticketFails _ | handler (.socketClose _) _ => true
  | _ => false

/-- A socket opens. -/
def opens : ReconnectEvent → Bool
  | handler (.socketOpen _) _ => true
  | _ => false

/-- The failures since a socket has opened, after one more event. -/
def count (failures : ℕ) (event : ReconnectEvent) : ℕ :=
  if event.opens then 0
  else if event.fails then failures + 1
  else failures

end ReconnectEvent

/-- How many events have failed since a socket has opened, or since the instance
was created. -/
def failuresSinceOpen (events : List ReconnectEvent) : ℕ :=
  events.foldl ReconnectEvent.count 0

/-- What a delay should be after some failures. -/
structure BacksOff (failures : ℕ) (delay : ℤ) : Prop where
  lower : 0.8 * min 10000 (500 * 2 ^ failures) ≤ (delay : ℚ)
  upper : (delay : ℚ) < 1.2 * min 10000 (500 * 2 ^ failures)
  least : 400 ≤ delay
  most : delay < 12000
  /-- The floor is not what was returned. -/
  floor : delay ≠ 250

/-! ## One delay -/

/-- A fifth of the delay without jitter, which is whole. -/
def fifth (attempts : ℕ) : ℤ := min 2000 (100 * 2 ^ attempts)

theorem base_eq (attempts : ℕ) :
    min 10000 (500 * 2 ^ attempts) = 5 * (fifth attempts : ℚ) := by
  rw [fifth, Int.cast_min, mul_min_of_nonneg _ _ (by norm_num)]
  push_cast
  rw [← mul_assoc]
  norm_num

theorem fifth_bounds (attempts : ℕ) :
    100 ≤ fifth attempts ∧ fifth attempts ≤ 2000 := by
  have grows : (1 : ℤ) ≤ 2 ^ attempts := one_le_pow₀ (by norm_num)
  unfold fifth
  omega

/-- The jitter takes away a fifth at most, and adds less than a fifth. -/
theorem floor_jitter_bounds {n : ℤ} (positive : 0 < n) (random : Draw) :
    4 * n ≤ (5 * (n : ℚ) + 5 * n * 0.2 * (random.value * 2 - 1)).floor ∧
      (5 * (n : ℚ) + 5 * n * 0.2 * (random.value * 2 - 1)).floor < 6 * n := by
  have scale : 0 < (n : ℚ) := Int.cast_pos.mpr positive
  have jittered : 5 * (n : ℚ) + 5 * n * 0.2 * (random.value * 2 - 1) =
      4 * n + 2 * (n * random.value) := by
    ring
  have lower : 0 ≤ n * random.value := mul_nonneg scale.le random.nonneg
  have upper : n * random.value < n :=
    mul_lt_of_lt_one_right scale random.lt_one
  rw [jittered]
  constructor
  · apply Rat.le_floor_iff.mpr
    push_cast
    linarith
  · apply Rat.floor_lt_iff.mpr
    push_cast
    linarith

/-- The delay is the rounded one, since that is never below the floor. -/
theorem nextReconnectDelay_bounds (attempts : ℕ) (random : Draw) :
    4 * fifth attempts ≤ nextReconnectDelay attempts random ∧
      nextReconnectDelay attempts random < 6 * fifth attempts := by
  have least := (fifth_bounds attempts).1
  have positive : 0 < fifth attempts := by omega
  obtain ⟨lower, upper⟩ := floor_jitter_bounds positive random
  unfold nextReconnectDelay
  simp only [base_eq]
  omega

theorem backsOff_nextReconnectDelay (attempts : ℕ) (random : Draw) :
    BacksOff attempts (nextReconnectDelay attempts random) := by
  obtain ⟨least, most⟩ := fifth_bounds attempts
  obtain ⟨lower, upper⟩ := nextReconnectDelay_bounds attempts random
  have low : 4 * (fifth attempts : ℚ) ≤ nextReconnectDelay attempts random := by
    exact_mod_cast lower
  have high : (nextReconnectDelay attempts random : ℚ) < 6 * fifth attempts := by
    exact_mod_cast upper
  constructor
  · rw [base_eq]
    linarith
  · rw [base_eq]
    linarith
  · omega
  · omega
  · omega

/-! ## What the handlers do to the attempts and to the flag -/

namespace Terminal

/-- The attempts and the flag of the timer. -/
def backoff (t : Terminal) : ℕ × Bool := (t.reconnectAttempts, t.reconnectTimer)

@[simp] theorem backoff_modifySocket
    (t : Terminal)
    (k : Nat)
    (change : Socket → Socket) :
    (t.modifySocket k change).backoff = t.backoff := rfl

@[simp] theorem backoff_connectWebSocket (t : Terminal) :
    t.connectWebSocket.backoff = t.backoff := by
  rcases connectWebSocket_cases t with ⟨_, asks⟩ | same
  · rw [asks]
    rfl
  · rw [same]

@[simp] theorem backoff_mount
    (t : Terminal)
    (container : Option Dimensions) :
    (t.mount container).backoff = t.backoff := rfl

theorem backoff_sendResize
    {t u : Terminal}
    (same : u.backoff = t.backoff)
    (dims : Dimensions) :
    (u.sendResize dims).backoff = t.backoff := by
  unfold sendResize
  split
  · split
    · exact same
    · exact same
  · exact same

@[simp] theorem backoff_onattached (t : Terminal) (k : Nat) :
    (t.onattached k).backoff = t.backoff :=
  @onattached_keeps t k (fun u => u.backoff = t.backoff) rfl
    fun _ dims same => backoff_sendResize same dims

@[simp] theorem backoff_onResizeDebounce (t : Terminal) :
    t.onResizeDebounce.backoff = t.backoff :=
  @onResizeDebounce_keeps t (fun u => u.backoff = t.backoff) rfl
    fun _ dims same => backoff_sendResize same dims

@[simp] theorem backoff_onResizeObserver (t : Terminal) :
    t.onResizeObserver.backoff = t.backoff := by
  unfold onResizeObserver
  dsimp only
  split
  · split
    · rfl
    · rfl
  · rfl

@[simp] theorem backoff_effect
    (t : Terminal)
    (container : Option Dimensions) :
    (t.effect container).backoff = t.backoff := by
  unfold effect
  split
  · simp
  · simp

@[simp] theorem backoff_ticketArrives (t : Terminal) :
    t.ticketArrives.backoff = t.backoff := by
  unfold ticketArrives
  split
  · rfl
  · rfl

theorem backoff_dispose (t : Terminal) :
    t.dispose.backoff = (t.reconnectAttempts, false) := by
  unfold dispose
  dsimp only
  split
  · rfl
  · rfl

theorem backoff_onReconnectTimer (t : Terminal) :
    t.onReconnectTimer.backoff = (t.reconnectAttempts, false) := by
  unfold onReconnectTimer
  split
  · rw [backoff_connectWebSocket]
    rfl
  · rfl

/-- An open socket resets the attempts, and only a failure raises them. -/
theorem backoff_handle (t : Terminal) (event : TerminalEvent) :
    (t.handle event).backoff =
      match event with
      | .socketOpen _ => (0, t.reconnectTimer)
      | .ticketFails | .socketClose _ => (t.reconnectAttempts + 1, true)
      | .reconnectTimer | .dispose => (t.reconnectAttempts, false)
      | _ => t.backoff := by
  cases event with
  | effect container => exact backoff_effect t container
  | resizeObserver => exact backoff_onResizeObserver t
  | resizeDebounce => exact backoff_onResizeDebounce t
  | ticketArrives => exact backoff_ticketArrives t
  | socketAttached k => exact backoff_onattached t k
  | reconnectTimer => exact backoff_onReconnectTimer t
  | dispose => exact backoff_dispose t
  | cleanup | layout container | ticketFails | socketOpen k | socketClosing k
  | socketError k | socketClose k => rfl

end Terminal

/-! ## The steps -/

namespace Reconnecting

variable {inst next : Reconnecting}

/-- What `Terminal` has of the instance goes on as `Terminal` does. -/
theorem terminal_handle
    (inst : Reconnecting)
    (random : Draw)
    (event : TerminalEvent) :
    (inst.handle random event).terminal = inst.terminal.handle event := by
  cases event with
  | ticketFails | socketClose k | dispose => rfl
  | effect container | cleanup | layout container | resizeObserver
  | resizeDebounce | ticketArrives | socketOpen k | socketAttached k
  | socketClosing k | socketError k | reconnectTimer => rfl

/-- One timer is pending at most, the instance knows its handle, and the flag of
`Terminal` tells whether there is one. -/
structure Sound (inst : Reconnecting) : Prop where
  single : inst.timers.Single inst.reconnectTimer
  flag : inst.terminal.reconnectTimer = true ↔ inst.timers.pending ≠ []

theorem Sound.start : start.Sound where
  single := Timers.Single.empty none
  flag := by decide

/-- Setting the timer leaves it alone with its delay. -/
theorem Sound.scheduleReconnect
    (single : inst.timers.Single inst.reconnectTimer)
    (random : Draw) :
    (inst.scheduleReconnect random).Sound where
  single := single.set _
  flag := by
    have pending := single.pending_set
      (nextReconnectDelay inst.terminal.reconnectAttempts random)
    refine iff_of_true rfl ?_
    intro empty
    exact absurd (pending.symm.trans empty) (List.cons_ne_nil _ _)

theorem Sound.handle
    (sound : inst.Sound)
    (random : Draw)
    {event : TerminalEvent}
    (other : event ≠ .reconnectTimer) :
    (inst.handle random event).Sound := by
  have flag := congrArg Prod.snd (Terminal.backoff_handle inst.terminal event)
  cases event with
  | ticketFails | socketClose k =>
      apply Sound.scheduleReconnect
      exact sound.single
  | dispose =>
      refine ⟨sound.single.clear, iff_of_false ?_ ?_⟩
      · exact fun isSet => Bool.false_ne_true (flag.symm.trans isSet)
      · exact fun pending => pending sound.single.pending_clear
  | reconnectTimer => exact absurd rfl other
  | effect container | cleanup | layout container | resizeObserver
  | resizeDebounce | ticketArrives | socketOpen k | socketAttached k
  | socketClosing k | socketError k =>
      exact ⟨sound.single, (Bool.eq_iff_iff.mp flag).trans sound.flag⟩

theorem Sound.step
    {event : ReconnectEvent}
    (sound : inst.Sound)
    (stepped : inst.step event = some next) :
    next.Sound := by
  cases event with
  | handler event random =>
      obtain ⟨enabled, ⟨⟩⟩ := Option.ite_none_right_eq_some.mp stepped
      exact sound.handle random enabled.1
  | timer handle =>
      obtain ⟨timers, fires, rfl⟩ := Option.map_eq_some_iff.mp stepped
      have flag := congrArg Prod.snd
        (Terminal.backoff_onReconnectTimer inst.terminal)
      refine ⟨sound.single.fire fires, iff_of_false ?_ ?_⟩
      · exact fun isSet => Bool.false_ne_true (flag.symm.trans isSet)
      · exact fun pending => pending (sound.single.pending_fire fires).2
  | replaced has =>
      obtain ⟨_, ⟨⟩⟩ := Option.ite_none_right_eq_some.mp stepped
      exact ⟨sound.single, sound.flag⟩

theorem Sound.of_run
    {events : List ReconnectEvent}
    (ran : run Reconnecting.step Reconnecting.start events = some next) :
    next.Sound :=
  invariant_of_unconditional_run
    (fun _ _ _ sound stepped => Sound.step sound stepped) Sound.start ran

/-- The attempts count the failures. -/
theorem reconnectAttempts_step
    {event : ReconnectEvent}
    (stepped : inst.step event = some next) :
    next.terminal.reconnectAttempts =
      ReconnectEvent.count inst.terminal.reconnectAttempts event := by
  cases event with
  | handler event random =>
      obtain ⟨_, ⟨⟩⟩ := Option.ite_none_right_eq_some.mp stepped
      have attempts :=
        congrArg Prod.fst (Terminal.backoff_handle inst.terminal event)
      rw [terminal_handle]
      refine Eq.trans attempts ?_
      cases event <;> rfl
  | timer handle =>
      obtain ⟨timers, _, rfl⟩ := Option.map_eq_some_iff.mp stepped
      exact congrArg Prod.fst (Terminal.backoff_onReconnectTimer inst.terminal)
  | replaced has =>
      obtain ⟨_, ⟨⟩⟩ := Option.ite_none_right_eq_some.mp stepped
      rfl

theorem reconnectAttempts_of_run
    {events : List ReconnectEvent}
    (ran : run Reconnecting.step inst events = some next) :
    next.terminal.reconnectAttempts =
      events.foldl ReconnectEvent.count inst.terminal.reconnectAttempts := by
  induction events generalizing inst with
  | nil =>
      cases ran
      rfl
  | cons event events inductionHypothesis =>
      obtain ⟨middle, stepped, rest⟩ :=
        (run_cons_eq_some Reconnecting.step).mp ran
      rw [inductionHypothesis rest, reconnectAttempts_step stepped]
      rfl

/-- A failure sets a new timer, and no other one is left. -/
theorem Sound.pending_of_fails
    {event : ReconnectEvent}
    (sound : inst.Sound)
    (fails : event.fails = true)
    (stepped : inst.step event = some next) :
    ∃ random, next.timers.pending = [(inst.timers.next,
      nextReconnectDelay inst.terminal.reconnectAttempts random)] := by
  cases event with
  | timer handle => cases fails
  | replaced has => cases fails
  | handler event random =>
      obtain ⟨_, ⟨⟩⟩ := Option.ite_none_right_eq_some.mp stepped
      refine ⟨random, ?_⟩
      cases event with
      | ticketFails => exact sound.single.pending_set _
      | socketClose k => exact sound.single.pending_set _
      | effect container | cleanup | layout container | resizeObserver
      | resizeDebounce | ticketArrives | socketOpen k | socketAttached k
      | socketClosing k | socketError k | reconnectTimer | dispose =>
          cases fails

/-! ## Whole runs -/

/-- At most one reconnect timer is pending, and each failure has set one with a
delay for the failures since a socket has opened. -/
structure Spaced (events : List ReconnectEvent) (final : Reconnecting) :
    Prop where
  one : final.timers.pending.length ≤ 1
  delays : ∀ earlier event later, events = earlier ++ event :: later →
    event.fails = true →
      ∃ before after delay,
        run Reconnecting.step start earlier = some before ∧
          before.step event = some after ∧
          after.timers.pending = [(before.timers.next, delay)] ∧
          BacksOff (failuresSinceOpen earlier) delay
  every : ∀ attempts random,
    BacksOff attempts (nextReconnectDelay attempts random)

/-- The reconnect timers are spaced in every run of an instance. -/
theorem spaced_of_run
    {events : List ReconnectEvent}
    {final : Reconnecting}
    (ran : run Reconnecting.step start events = some final) :
    Spaced events final := by
  refine ⟨(Sound.of_run ran).single.length, ?_, backsOff_nextReconnectDelay⟩
  rintro earlier event later rfl fails
  obtain ⟨before, reached, onward⟩ :=
    (run_append_eq_some Reconnecting.step).mp ran
  obtain ⟨after, stepped, _⟩ := (run_cons_eq_some Reconnecting.step).mp onward
  obtain ⟨random, pending⟩ :=
    (Sound.of_run reached).pending_of_fails fails stepped
  refine ⟨before, after, _, reached, stepped, pending, ?_⟩
  have counted : before.terminal.reconnectAttempts =
      failuresSinceOpen earlier := reconnectAttempts_of_run reached
  rw [counted]
  exact backsOff_nextReconnectDelay (failuresSinceOpen earlier) random

/-- A draw that leaves the delay as it is. -/
def half : Draw := ⟨1 / 2, by norm_num, by norm_num⟩

/-- A ticket request fails, the next socket is lost before it opens, and the one
after that when it is open. -/
def flakyRun : List ReconnectEvent :=
  [.handler (.effect (some ⟨80, 24⟩)) half, .handler .ticketFails half,
    .timer 1, .handler .ticketArrives half, .handler (.socketClose 0) half,
    .timer 2, .handler .ticketArrives half, .handler (.socketOpen 1) half,
    .handler (.socketClose 1) half]

theorem spaced_flakyRun :
    Spaced flakyRun
      ((run Reconnecting.step start flakyRun).get (by decide +kernel)) :=
  spaced_of_run (Option.some_get _).symm

end Reconnecting
end Client
end LociTerm
