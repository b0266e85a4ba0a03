import LociTerm.Client.Terminal

/-!
# The size of the server's terminal

A new attach starts at 120×40, and from then on has the size of the last resize
frame on its socket.  The instance remembers the dimensions that it has sent
last, and three places skip a frame when they find the same dimensions again.
The memory outlives the socket on which the frame was sent.
-/

namespace LociTerm
namespace Client

/-- The size that `HandleTerminal` attaches with. -/
def initialSize : Dimensions := ⟨120, 40⟩

/-- Nothing was sent on the socket, and the size is the initial one. -/
def Socket.Untouched (socket : Socket) (dims : Dimensions) : Prop :=
  socket.frames = [] ∧ dims = initialSize

/-- The server has these dimensions for the attach of the socket. -/
def Socket.Shows (socket : Socket) (dims : Dimensions) : Prop :=
  socket.frames.head? = some dims ∨ socket.Untouched dims

instance (socket : Socket) (dims : Dimensions) :
    Decidable (socket.Untouched dims) :=
  inferInstanceAs (Decidable (_ ∧ _))

instance (socket : Socket) (dims : Dimensions) :
    Decidable (socket.Shows dims) :=
  inferInstanceAs (Decidable (_ ∨ _))

namespace Terminal

/-- When the current socket has delivered `attached`, the dimensions that fit
are reported and no debounce is pending, the server has these dimensions. -/
def SizeFollows (t : Terminal) : Prop :=
  ∀ dims ∈ t.usable, ∀ socket ∈ t.socket, socket.told = true →
    t.reported = some dims → t.resizeDebounceTimer = false →
      socket.Shows dims

instance : DecidablePred SizeFollows := fun t =>
  inferInstanceAs
    (Decidable (∀ dims ∈ t.usable, ∀ socket ∈ t.socket, _ → _ → _ → _))

/-- No frame that is needed on the current socket is left out.  The callbacks
skip the frame only for dimensions that were sent on this socket, the debounce
runs into a socket that can take the frame, and the container does not come
back unseen to dimensions that were reported before. -/
def SendsWhenNeeded (t : Terminal) : TerminalEvent → Prop
  | .resizeObserver =>
      ∀ dims ∈ t.usable, ∀ socket ∈ t.socket, socket.told = true →
        t.lastSent = some dims → t.resizeDebounceTimer = false →
          socket.Untouched dims ∨ socket.frames ≠ []
  | .resizeDebounce =>
      ∀ dims ∈ t.usable, ∀ socket ∈ t.socket, socket.told = true →
        t.reported = some dims →
          socket.Untouched dims ∨
            if t.lastSent = some dims then socket.frames ≠ []
            else t.attached = true ∧ socket.readyState = .opened
  | .layout container =>
      ∀ dims ∈ { t with container := container }.usable,
        ∀ socket ∈ t.socket, socket.told = true →
          t.reported = some dims → t.resizeDebounceTimer = false →
            socket.Untouched dims ∨
              (socket.frames ≠ [] ∧ t.lastSent = some dims)
  | _ => True

instance (t : Terminal) : DecidablePred t.SendsWhenNeeded
  | .resizeObserver | .layout _ =>
      inferInstanceAs
        (Decidable (∀ dims ∈ Terminal.usable _, ∀ socket ∈ t.socket, _ → _ → _ → _))
  | .resizeDebounce =>
      inferInstanceAs
        (Decidable (∀ dims ∈ t.usable, ∀ socket ∈ t.socket, _ → _ → _))
  | .effect _ | .cleanup | .ticketArrives | .ticketFails | .socketOpen _
  | .socketAttached _ | .socketClosing _ | .socketError _ | .socketClose _
  | .reconnectTimer | .dispose => inferInstanceAs (Decidable True)

/-! ## What is remembered -/

/-- The last frame on the current socket is the one that is remembered. -/
def Recorded (t : Terminal) : Prop :=
  ∀ socket ∈ t.socket, ∀ dims ∈ socket.frames.head?, t.lastSent = some dims

/-- The server has the remembered dimensions, once something was sent. -/
theorem Recorded.shows_iff
    {t : Terminal}
    {socket : Socket}
    (recorded : t.Recorded)
    (current : socket ∈ t.socket)
    (dims : Dimensions) :
    socket.Shows dims ↔
      socket.Untouched dims ∨
        (socket.frames ≠ [] ∧ t.lastSent = some dims) := by
  have remembered := recorded socket current
  unfold Socket.Shows
  cases sent : socket.frames with
  | nil => simp
  | cons last earlier =>
      rw [remembered last (by simp [sent]), or_comm]
      simp

/-! ## What a step leaves alone -/

variable {t u : Terminal}

/-- The current socket is as it was, but for its ready state. -/
def SameSocket (t u : Terminal) : Prop :=
  ∀ socket ∈ u.socket, ∃ before ∈ t.socket,
    before.told = socket.told ∧ before.frames = socket.frames

theorem SameSocket.of_eq (same : u.socket = t.socket) : SameSocket t u :=
  fun socket current => ⟨socket, same ▸ current, rfl, rfl⟩

/-- Only the ready state of a socket changes. -/
theorem SameSocket.modifySocket
    {k : Nat}
    {change : Socket → Socket}
    (told : ∀ socket, (change socket).told = socket.told)
    (frames : ∀ socket, (change socket).frames = socket.frames) :
    SameSocket t (t.modifySocket k change) := by
  intro socket current
  rw [socket_modifySocket] at current
  split at current
  · obtain ⟨before, there, rfl⟩ := Option.map_eq_some_iff.mp current
    exact ⟨before, there, (told before).symm, (frames before).symm⟩
  · exact ⟨socket, current, rfl, rfl⟩

theorem SameSocket.onopen (t : Terminal) (k : Nat) :
    SameSocket t (t.onopen k) :=
  SameSocket.modifySocket (fun _ => rfl) fun _ => rfl

theorem SameSocket.onclose (t : Terminal) (k : Nat) :
    SameSocket t (t.onclose k) := by
  have closed : SameSocket t
      ({ t with connecting := false }.modifySocket k fun socket =>
        { socket with readyState := .closed }) :=
    SameSocket.modifySocket (fun _ => rfl) fun _ => rfl
  exact closed

theorem SameSocket.closing (t : Terminal) (k : Nat) :
    SameSocket t (t.modifySocket k fun socket =>
      { socket with readyState := .closing }) :=
  SameSocket.modifySocket (fun _ => rfl) fun _ => rfl

theorem Recorded.of_same
    (recorded : t.Recorded)
    (socket : SameSocket t u)
    (lastSent : u.lastSent = t.lastSent) :
    u.Recorded := by
  intro now current dims last
  obtain ⟨before, there, _, frames⟩ := socket now current
  rw [lastSent]
  exact recorded before there dims (frames ▸ last)

/-- Neither the socket nor what the container shows has changed. -/
theorem SizeFollows.of_same
    (follows : t.SizeFollows)
    (socket : SameSocket t u)
    (usable : u.usable = t.usable)
    (reported : u.reported = t.reported)
    (pending : u.resizeDebounceTimer = t.resizeDebounceTimer) :
    u.SizeFollows := by
  intro dims fits now current told shown idle
  obtain ⟨before, there, same, frames⟩ := socket now current
  have shows := follows dims (usable ▸ fits) before there (same.trans told)
    (reported ▸ shown) (pending ▸ idle)
  simpa [Socket.Shows, Socket.Untouched, frames] using shows

/-- A frame that is sent is remembered. -/
theorem Recorded.sendResize (recorded : t.Recorded) (dims : Dimensions) :
    (t.sendResize dims).Recorded := by
  by_cases ready : t.readyState = some .opened
  · obtain ⟨now, current, opened⟩ := readyState_eq_some_iff.mp ready
    obtain ⟨sent, remembered⟩ := sendResize_of_opened current opened dims
    intro socket found last newest
    cases sent.symm.trans found
    cases newest
    exact remembered
  · rw [sendResize_of_not_opened ready]
    exact recorded

@[simp] theorem usable_sendResize (t : Terminal) (dims : Dimensions) :
    (t.sendResize dims).usable = t.usable := by
  unfold Terminal.sendResize
  split
  · split <;> rfl
  · rfl

theorem Recorded.onattached (recorded : t.Recorded) (k : Nat) :
    (t.onattached k).Recorded := by
  have told :
      Recorded ({ t with attached := true }.modifySocket k fun socket =>
        { socket with told := true }) := by
    intro now current dims last
    rw [socket_modifySocket] at current
    split at current
    · obtain ⟨before, there, rfl⟩ := Option.map_eq_some_iff.mp current
      exact recorded before there dims last
    · exact recorded now current dims last
  exact onattached_keeps told fun _ dims recorded => recorded.sendResize dims

theorem Recorded.onResizeDebounce (recorded : t.Recorded) :
    t.onResizeDebounce.Recorded := by
  have cleared : Recorded { t with resizeDebounceTimer := false } := recorded
  exact onResizeDebounce_keeps cleared
    fun _ dims recorded => recorded.sendResize dims

theorem Recorded.onResizeObserver (recorded : t.Recorded) :
    t.onResizeObserver.Recorded := by
  unfold Terminal.onResizeObserver
  dsimp only
  split
  · split
    · exact recorded
    · exact recorded
  · exact recorded

theorem Recorded.connectWebSocket (recorded : t.Recorded) :
    t.connectWebSocket.Recorded := by
  rcases connectWebSocket_cases t with ⟨_, asks⟩ | same
  · rw [asks]
    exact recorded
  · rw [same]
    exact recorded

/-- A new socket carries no frame. -/
theorem Recorded.ticketArrives (recorded : t.Recorded) :
    t.ticketArrives.Recorded := by
  unfold Terminal.ticketArrives
  split
  · intro socket current dims last
    simp only [Terminal.socket, Option.bind_some, List.getElem?_concat_length]
      at current
    cases current
    cases last
  · exact recorded

theorem Recorded.dispose (recorded : t.Recorded) : t.dispose.Recorded := by
  have removed : Recorded
      { t with
        reconnectTimer := false
        resizeDebounceTimer := false
        mounted := false
        registered := false } :=
    recorded
  unfold Terminal.dispose
  dsimp only
  split
  · refine removed.of_same (SameSocket.modifySocket ?_ ?_) rfl
    · intro socket
      split <;> rfl
    · intro socket
      split <;> rfl
  · exact removed

theorem Recorded.step
    {event : TerminalEvent}
    (recorded : t.Recorded)
    (stepped : t.step event = some u) :
    u.Recorded := by
  unfold Terminal.step at stepped
  split at stepped
  · cases stepped
    cases event with
    | effect container =>
        have mounts : (t.mount container).Recorded := recorded
        simp only [handle, effect]
        split
        · exact mounts.connectWebSocket
        · exact mounts
    | cleanup | layout container | ticketFails | socketError k => exact recorded
    | resizeObserver => exact recorded.onResizeObserver
    | resizeDebounce => exact recorded.onResizeDebounce
    | ticketArrives => exact recorded.ticketArrives
    | socketOpen k => exact recorded.of_same (.onopen t k) rfl
    | socketAttached k => exact recorded.onattached k
    | socketClosing k => exact recorded.of_same (.closing t k) rfl
    | socketClose k => exact recorded.of_same (.onclose t k) rfl
    | reconnectTimer =>
        have cleared : Recorded { t with reconnectTimer := false } := recorded
        simp only [handle, onReconnectTimer]
        split
        · exact cleared.connectWebSocket
        · exact cleared
    | dispose => exact recorded.dispose
  · cases stepped

/-! ## When a step keeps the size -/

/-- With the element out of the document there is nothing to follow. -/
theorem SizeFollows.of_usable_none (hidden : t.usable = none) :
    t.SizeFollows := by
  intro dims fits
  rw [hidden] at fits
  cases fits

theorem SizeFollows.of_reported_none (unreported : t.reported = none) :
    t.SizeFollows := by
  intro dims _ socket _ _ shown
  cases unreported.symm.trans shown

theorem sizeFollows_layout_iff
    (recorded : t.Recorded)
    (container : Option Dimensions) :
    SizeFollows { t with container := container } ↔
      t.SendsWhenNeeded (.layout container) := by
  refine forall₂_congr fun dims fits => forall₂_congr fun socket current => ?_
  exact forall₃_congr fun _ _ _ => recorded.shows_iff current dims

theorem usable_eq_some
    {dims : Dimensions}
    (fits : t.usable = some dims) :
    t.mounted = true ∧ t.container = some dims := by
  unfold usable proposeDimensions at fits
  split at fits
  · rename_i mounted
    exact ⟨mounted, (Option.filter_eq_some_iff.mp fits).1⟩
  · cases fits

theorem sizeFollows_onResizeObserver_iff (recorded : t.Recorded) :
    t.onResizeObserver.SizeFollows ↔ t.SendsWhenNeeded .resizeObserver := by
  unfold Terminal.onResizeObserver
  dsimp only
  split
  · rename_i dims fits
    have fits : t.usable = some dims := fits
    split
    · rename_i remembered
      have remembered : t.lastSent = some dims := remembered
      constructor
      · intro follows found here socket current told _ idle
        cases fits.symm.trans here
        have shows := follows dims fits socket current told
          (usable_eq_some fits).2 idle
        rw [recorded.shows_iff current] at shows
        exact shows.imp_right And.left
      · intro sends found here socket current told _ idle
        cases fits.symm.trans here
        rw [recorded.shows_iff current]
        exact (sends dims fits socket current told remembered idle).imp_right
          fun sent => ⟨sent, remembered⟩
    · rename_i other
      constructor
      · intro _ found here socket _ _ remembered
        cases fits.symm.trans here
        exact absurd remembered other
      · intro _ found _ socket _ _ _ idle
        cases idle
  · rename_i hidden
    have hidden : t.usable = none := hidden
    refine iff_of_true (.of_usable_none hidden) fun found here => ?_
    cases hidden.symm.trans here

/-- A frame with the dimensions that fit reaches the server. -/
theorem sizeFollows_sendResize
    {dims : Dimensions}
    (fits : t.usable = some dims)
    (ready : t.readyState = some .opened) :
    (t.sendResize dims).SizeFollows := by
  obtain ⟨now, current, opened⟩ := readyState_eq_some_iff.mp ready
  obtain ⟨sent, _⟩ := sendResize_of_opened current opened dims
  intro found here socket there _ _ _
  rw [usable_sendResize] at here
  cases fits.symm.trans here
  cases sent.symm.trans there
  exact .inl rfl

/-- A frame that was not remembered and is not sent is missing, unless none is
needed. -/
theorem sizeFollows_skip_iff
    {dims : Dimensions}
    (recorded : t.Recorded)
    (fits : t.usable = some dims)
    (other : t.lastSent ≠ some dims)
    (closed : ¬ (t.attached = true ∧ t.readyState = some .opened)) :
    SizeFollows { t with resizeDebounceTimer := false } ↔
      t.SendsWhenNeeded .resizeDebounce := by
  refine forall₂_congr fun found here => forall₂_congr fun socket current => ?_
  cases fits.symm.trans here
  have unsent : ¬ (t.attached = true ∧ socket.readyState = .opened) := by
    rintro ⟨attached, opened⟩
    exact closed ⟨attached, readyState_eq_some_iff.mpr ⟨socket, current, opened⟩⟩
  rw [if_neg other, recorded.shows_iff current]
  simp [other, unsent]

theorem sizeFollows_onResizeDebounce_iff (recorded : t.Recorded) :
    t.onResizeDebounce.SizeFollows ↔ t.SendsWhenNeeded .resizeDebounce := by
  unfold Terminal.onResizeDebounce
  dsimp only
  split
  · rename_i dims fits
    have fits : t.usable = some dims := fits
    split
    · rename_i remembered
      have remembered : t.lastSent = some dims := remembered
      refine forall₂_congr fun found here =>
        forall₂_congr fun socket current => ?_
      cases fits.symm.trans here
      rw [if_pos remembered, recorded.shows_iff current]
      simp [remembered]
    · rename_i other
      have other : t.lastSent ≠ some dims := other
      split
      · rename_i attached
        have attached : t.attached = true := attached
        by_cases ready : t.readyState = some .opened
        · refine iff_of_true (sizeFollows_sendResize fits ready) ?_
          intro found here socket current _ _
          obtain ⟨now, there, opened⟩ := readyState_eq_some_iff.mp ready
          cases fits.symm.trans here
          cases there.symm.trans current
          rw [if_neg other]
          exact .inr ⟨attached, opened⟩
        · have closed :
              Terminal.readyState { t with resizeDebounceTimer := false } ≠
                some .opened :=
            ready
          rw [sendResize_of_not_opened closed]
          exact sizeFollows_skip_iff recorded fits other
            fun sends => ready sends.2
      · rename_i detached
        exact sizeFollows_skip_iff recorded fits other
          fun sends => detached sends.1
  · rename_i hidden
    have hidden : t.usable = none := hidden
    refine iff_of_true (.of_usable_none hidden) fun found here => ?_
    cases hidden.symm.trans here

/-- The handler of the `attached` message sends what fits, unless an old
socket delivered it and the current one is not open. -/
theorem SizeFollows.onattached
    {k : Nat}
    (follows : t.SizeFollows)
    (opened : t.stateOf k = some .opened) :
    (t.onattached k).SizeFollows := by
  unfold Terminal.onattached
  dsimp only
  split
  · rename_i dims fits
    by_cases ready :
        Terminal.readyState
          ({ t with attached := true }.modifySocket k fun socket =>
            { socket with told := true }) = some .opened
    · exact sizeFollows_sendResize fits ready
    · rw [sendResize_of_not_opened ready]
      have old : t.ws ≠ some k := by
        intro current
        refine ready ?_
        rw [readyState, socket_modifySocket, if_pos current, Option.map_map]
        simpa [stateOf, Terminal.socket, current] using opened
      refine follows.of_same (SameSocket.of_eq ?_) rfl rfl rfl
      rw [socket_modifySocket, if_neg old]
      rfl
  · rename_i hidden
    exact .of_usable_none hidden

/-- A new socket has delivered nothing. -/
theorem SizeFollows.ticketArrives (follows : t.SizeFollows) :
    t.ticketArrives.SizeFollows := by
  unfold Terminal.ticketArrives
  split
  · intro dims _ socket current told
    simp only [Terminal.socket, Option.bind_some, List.getElem?_concat_length]
      at current
    cases current
    cases told
  · exact follows

theorem SizeFollows.connectWebSocket (follows : t.SizeFollows) :
    t.connectWebSocket.SizeFollows := by
  rcases connectWebSocket_cases t with ⟨_, asks⟩ | same
  · rw [asks]
    exact follows
  · rw [same]
    exact follows

/-- From a state in which the server has the size, a step leads to another one
exactly if it sends what is needed. -/
theorem sizeFollows_step_iff
    {event : TerminalEvent}
    (recorded : t.Recorded)
    (follows : t.SizeFollows)
    (stepped : t.step event = some u) :
    u.SizeFollows ↔ t.SendsWhenNeeded event := by
  unfold Terminal.step at stepped
  split at stepped
  · rename_i enabled
    cases stepped
    cases event with
    | layout container => exact sizeFollows_layout_iff recorded container
    | resizeObserver => exact sizeFollows_onResizeObserver_iff recorded
    | resizeDebounce => exact sizeFollows_onResizeDebounce_iff recorded
    | effect container =>
        refine iff_of_true ?_ trivial
        have mounts : (t.mount container).SizeFollows := .of_reported_none rfl
        simp only [handle, effect]
        split
        · exact mounts.connectWebSocket
        · exact mounts
    | cleanup => exact iff_of_true (.of_reported_none rfl) trivial
    | ticketArrives => exact iff_of_true follows.ticketArrives trivial
    | ticketFails | socketError k => exact iff_of_true follows trivial
    | socketOpen k =>
        exact iff_of_true (follows.of_same (.onopen t k) rfl rfl rfl) trivial
    | socketAttached k =>
        exact iff_of_true (follows.onattached enabled) trivial
    | socketClosing k =>
        exact iff_of_true (follows.of_same (.closing t k) rfl rfl rfl) trivial
    | socketClose k =>
        exact iff_of_true (follows.of_same (.onclose t k) rfl rfl rfl) trivial
    | reconnectTimer =>
        refine iff_of_true ?_ trivial
        have cleared : SizeFollows { t with reconnectTimer := false } := follows
        simp only [handle, onReconnectTimer]
        split
        · exact cleared.connectWebSocket
        · exact cleared
    | dispose =>
        refine iff_of_true (.of_usable_none ?_) trivial
        simp only [handle, dispose]
        split <;> rfl
  · cases stepped

/-! ## Whole runs -/

theorem recorded_createInstance : createInstance.Recorded := by
  intro socket current
  cases current

theorem sizeFollows_createInstance : createInstance.SizeFollows :=
  .of_usable_none rfl

/-- The server has the size of the terminal throughout a run exactly if every
step sends what is needed. -/
theorem sizeFollows_iff
    {events : List TerminalEvent}
    {final : Terminal}
    (ran : run Terminal.step createInstance events = some final) :
    (∀ first middle, first <+: events →
        run Terminal.step createInstance first = some middle →
          middle.SizeFollows) ↔
      Follows Terminal.step SendsWhenNeeded createInstance events := by
  have preserved :
      ∀ state event next, Recorded state →
        Terminal.step state event = some next → Recorded next :=
    fun _ _ _ recorded stepped => recorded.step stepped
  have exact :
      ∀ state event next, Recorded state → SizeFollows state →
        Terminal.step state event = some next →
          (SizeFollows next ↔ SendsWhenNeeded state event) :=
    fun _ _ _ recorded follows stepped =>
      sizeFollows_step_iff recorded follows stepped
  exact Follows.iff_forall_states preserved exact recorded_createInstance
    sizeFollows_createInstance ran

/-- The socket is lost while the terminal is shown, and the container is
resized after the reconnect. -/
def shownReconnectRun : List TerminalEvent :=
  [.effect (some ⟨100, 30⟩), .ticketArrives, .resizeObserver, .socketOpen 0,
    .socketAttached 0, .resizeDebounce, .socketClose 0, .reconnectTimer,
    .ticketArrives, .socketOpen 1, .socketAttached 1,
    .layout (some ⟨90, 20⟩), .resizeObserver, .resizeDebounce]

theorem sizeFollows_shownReconnectRun :
    ((run Terminal.step createInstance shownReconnectRun).get
      (by decide)).SizeFollows :=
  (sizeFollows_iff (Option.some_get (by decide)).symm).mpr (by decide)
    shownReconnectRun _ List.prefix_rfl (Option.some_get _).symm

/-- The socket is lost while another tab is shown.  The `attached` message of
the next one finds the terminal detached, and later the observer finds the
dimensions that were sent on the lost one. -/
def detachedReconnectRun : List TerminalEvent :=
  [.effect (some ⟨100, 30⟩), .ticketArrives, .resizeObserver, .socketOpen 0,
    .socketAttached 0, .resizeDebounce, .cleanup, .socketClose 0,
    .reconnectTimer, .ticketArrives, .socketOpen 1, .socketAttached 1,
    .effect (some ⟨100, 30⟩), .resizeObserver]

/-- The server stays at 120×40 for a terminal of another size. -/
theorem not_sizeFollows_detachedReconnectRun :
    ¬ ∀ events final,
      run Terminal.step createInstance events = some final →
        final.SizeFollows := by
  intro always
  have follows := always detachedReconnectRun _
    (Option.some_get (by decide)).symm
  exact absurd follows (by decide)

end Terminal
end Client
end LociTerm
