import LociTerm.Library.Run

/-!
# Terminal instances

`useTerminal` keeps one instance for a session id, with the WebSockets that it
has created.  Its handlers run one at a time: the effect of the component and
its cleanup, the observer of the container, three kinds of timer, the answers
to ticket requests, and the events of every socket, old ones included.  What a
terminal shows and what is typed into it is left out.
-/

namespace LociTerm
namespace Client

/-- What `proposeDimensions` returns, and what a resize frame carries. -/
structure Dimensions where
  cols : Nat
  rows : Nat
  deriving DecidableEq

/-- `WebSocket.readyState` -/
inductive ReadyState
  | connecting
  | opened
  | closing
  | closed
  deriving DecidableEq

/-- A WebSocket that the instance has created. -/
structure Socket where
  readyState : ReadyState
  /-- It has delivered the `attached` message. -/
  told : Bool
  /-- The resize frames sent on it, newest first. -/
  frames : List Dimensions
  deriving DecidableEq

/-- A `TerminalInstance` with its sockets and its surroundings. -/
structure Terminal where
  /-- The socket of the instance, by its place in `sockets`. -/
  ws : Option Nat
  connecting : Bool
  /-- The timer is set. -/
  reconnectTimer : Bool
  reconnectAttempts : Nat
  /-- `lastSentCols` and `lastSentRows` -/
  lastSent : Option Dimensions
  /-- The timer is set. -/
  resizeDebounceTimer : Bool
  attached : Bool
  /-- `instances.has(sid)` -/
  registered : Bool
  /-- The sockets created so far, oldest first. -/
  sockets : List Socket
  /-- How many ticket requests are under way. -/
  tickets : Nat
  /-- The element is in a container of the document. -/
  mounted : Bool
  /-- The dimensions that fit the container, if it has a layout. -/
  container : Option Dimensions
  /-- The dimensions at the last report of the `ResizeObserver`, if it has
  reported since it began to observe. -/
  reported : Option Dimensions
  deriving DecidableEq

/-- What happens to an instance.  A socket is given by its place. -/
inductive TerminalEvent
  | effect (container : Option Dimensions)
  | cleanup
  | layout (container : Option Dimensions)
  | resizeObserver
  | resizeDebounce
  | ticketArrives
  | ticketFails
  | socketOpen (socket : Nat)
  | socketAttached (socket : Nat)
  /-- The socket enters `CLOSING`, for which there is no handler. -/
  | socketClosing (socket : Nat)
  | socketError (socket : Nat)
  | socketClose (socket : Nat)
  | reconnectTimer
  | dispose
  deriving DecidableEq

/-- The socket is `CONNECTING` or `OPEN`. -/
def Socket.Live (socket : Socket) : Prop :=
  socket.readyState = .connecting ∨ socket.readyState = .opened

instance (socket : Socket) : Decidable socket.Live :=
  inferInstanceAs (Decidable (_ ∨ _))

namespace Terminal

/-- `createInstance` -/
def createInstance : Terminal :=
  { ws := none
    connecting := false
    reconnectTimer := false
    reconnectAttempts := 0
    lastSent := none
    resizeDebounceTimer := false
    attached := false
    registered := true
    sockets := []
    tickets := 0
    mounted := false
    container := none
    reported := none }

/-- `inst.ws`, if there is one. -/
def socket (t : Terminal) : Option Socket :=
  t.ws.bind fun k => t.sockets[k]?

/-- `inst.ws?.readyState` -/
def readyState (t : Terminal) : Option ReadyState :=
  t.socket.map (·.readyState)

/-- `proposeDimensions`, which is `undefined` for a detached element. -/
def proposeDimensions (t : Terminal) : Option Dimensions :=
  if t.mounted then t.container else none

/-- The proposed dimensions, if there are some and none of them is zero. -/
def usable (t : Terminal) : Option Dimensions :=
  t.proposeDimensions.filter fun dims => dims.cols ≠ 0 && dims.rows ≠ 0

/-- Change one of the sockets. -/
def modifySocket (t : Terminal) (k : Nat) (change : Socket → Socket) :
    Terminal :=
  { t with sockets := t.sockets.modify k change }

/-! ## Connecting -/

/-- `connectWebSocket` does not return at once. -/
def passes (t : Terminal) : Bool :=
  !(t.connecting || t.readyState = some .connecting ||
    t.readyState = some .opened)

/-- `connectWebSocket`, up to the request for a ticket. -/
def connectWebSocket (t : Terminal) : Terminal :=
  if t.passes then { t with connecting := true, tickets := t.tickets + 1 }
  else t

/-- An attempt passes the guard and asks for a ticket, or nothing happens. -/
theorem connectWebSocket_cases (t : Terminal) :
    (t.passes = true ∧
      t.connectWebSocket =
        { t with connecting := true, tickets := t.tickets + 1 }) ∨
      t.connectWebSocket = t := by
  unfold connectWebSocket
  split
  · rename_i passes
    exact .inl ⟨passes, rfl⟩
  · exact .inr rfl

/-- `scheduleReconnect`; setting the timer anew clears the old one. -/
def scheduleReconnect (t : Terminal) : Terminal :=
  { t with
    reconnectAttempts := t.reconnectAttempts + 1
    reconnectTimer := true }

/-- `connectWebSocket` with the ticket. -/
def ticketArrives (t : Terminal) : Terminal :=
  if t.registered then
    { t with
      tickets := t.tickets - 1
      sockets := t.sockets ++ [⟨.connecting, false, []⟩]
      ws := some t.sockets.length }
  else { t with tickets := t.tickets - 1, connecting := false }

/-- `connectWebSocket` when the request for the ticket has failed. -/
def ticketFails (t : Terminal) : Terminal :=
  { t with tickets := t.tickets - 1, connecting := false }.scheduleReconnect

/-- The callback of the timer that `scheduleReconnect` sets. -/
def onReconnectTimer (t : Terminal) : Terminal :=
  if t.registered then { t with reconnectTimer := false }.connectWebSocket
  else { t with reconnectTimer := false }

/-! ## The handlers of a socket -/

/-- Send a resize frame on `inst.ws` if it is `OPEN`. -/
def sendResize (t : Terminal) (dims : Dimensions) : Terminal :=
  match t.ws with
  | some k =>
      if t.readyState = some .opened then
        { t with lastSent := some dims }.modifySocket k fun socket =>
          { socket with frames := dims :: socket.frames }
      else t
  | none => t

theorem readyState_eq_some_iff {t : Terminal} {state : ReadyState} :
    t.readyState = some state ↔
      ∃ socket, t.socket = some socket ∧ socket.readyState = state :=
  Option.map_eq_some_iff

/-- What another change of a socket leaves of the current one. -/
theorem socket_modifySocket
    (t : Terminal)
    (k : Nat)
    (change : Socket → Socket) :
    (t.modifySocket k change).socket =
      if t.ws = some k then t.socket.map change else t.socket := by
  cases current : t.ws with
  | none => simp [socket, modifySocket, current]
  | some j =>
      by_cases same : k = j
      · subst same
        simp [socket, modifySocket, current]
      · have different : ¬ j = k := fun equal => same equal.symm
        simp [socket, modifySocket, current, same, different]

/-- A frame on an open socket is sent and remembered. -/
theorem sendResize_of_opened
    {t : Terminal}
    {now : Socket}
    (current : t.socket = some now)
    (opened : now.readyState = .opened)
    (dims : Dimensions) :
    (t.sendResize dims).socket =
        some { now with frames := dims :: now.frames } ∧
      (t.sendResize dims).lastSent = some dims := by
  have ready : t.readyState = some .opened :=
    readyState_eq_some_iff.mpr ⟨now, current, opened⟩
  have remembered : Terminal.socket { t with lastSent := some dims } = some now :=
    current
  unfold sendResize
  split
  · rename_i k place
    rw [if_pos ready, socket_modifySocket, if_pos place, remembered]
    exact ⟨rfl, rfl⟩
  · rename_i missing
    simp [socket, missing] at current

/-- Nothing is sent on a socket that is not open. -/
theorem sendResize_of_not_opened
    {t : Terminal}
    (closed : t.readyState ≠ some .opened)
    (dims : Dimensions) :
    t.sendResize dims = t := by
  unfold sendResize
  split
  · rw [if_neg closed]
  · rfl

/-- `ws.onopen` -/
def onopen (t : Terminal) (k : Nat) : Terminal :=
  { t with
    connecting := false
    reconnectAttempts := 0
    attached := false
  }.modifySocket k fun socket => { socket with readyState := .opened }

/-- `ws.onmessage` with the `attached` message. -/
def onattached (t : Terminal) (k : Nat) : Terminal :=
  let t := { t with attached := true }.modifySocket k fun socket =>
    { socket with told := true }
  match t.usable with
  | some dims => t.sendResize dims
  | none => t

/-- What a mark on the socket and a frame keep, the `attached` message keeps. -/
theorem onattached_keeps
    {t : Terminal}
    {k : Nat}
    {property : Terminal → Prop}
    (told : property ({ t with attached := true }.modifySocket k
      fun socket => { socket with told := true }))
    (sends : ∀ u dims, property u → property (u.sendResize dims)) :
    property (t.onattached k) := by
  unfold onattached
  dsimp only
  split
  · exact sends _ _ told
  · exact told

/-- `ws.onclose` -/
def onclose (t : Terminal) (k : Nat) : Terminal :=
  ({ t with connecting := false }.modifySocket k fun socket =>
    { socket with readyState := .closed }).scheduleReconnect

/-- `ws.onerror` -/
def onerror (t : Terminal) : Terminal := { t with connecting := false }

/-! ## The component -/

/-- The element goes into the container, which a new `ResizeObserver`
observes. -/
def mount (t : Terminal) (container : Option Dimensions) : Terminal :=
  { t with
    resizeDebounceTimer := false
    mounted := true
    container := container
    reported := none }

/-- The effect of `useTerminal`, after the cleanup of its last run. -/
def effect (t : Terminal) (container : Option Dimensions) : Terminal :=
  if t.ws = none ∨ t.readyState = some .closed then
    (t.mount container).connectWebSocket
  else t.mount container

/-- The cleanup of the effect, and `detachFromContainer`. -/
def cleanup (t : Terminal) : Terminal :=
  { t with resizeDebounceTimer := false, mounted := false, reported := none }

/-- The callback of the `ResizeObserver`. -/
def onResizeObserver (t : Terminal) : Terminal :=
  let t := { t with reported := t.container }
  match t.usable with
  | some dims =>
      if t.lastSent = some dims then t else { t with resizeDebounceTimer := true }
  | none => t

/-- The callback of the debounce timer. -/
def onResizeDebounce (t : Terminal) : Terminal :=
  let t := { t with resizeDebounceTimer := false }
  match t.usable with
  | some dims =>
      if t.lastSent = some dims then t
      else if t.attached then t.sendResize dims
      else t
  | none => t

/-- What the end of the timer and a frame keep, its callback keeps. -/
theorem onResizeDebounce_keeps
    {t : Terminal}
    {property : Terminal → Prop}
    (cleared : property { t with resizeDebounceTimer := false })
    (sends : ∀ u dims, property u → property (u.sendResize dims)) :
    property t.onResizeDebounce := by
  unfold onResizeDebounce
  dsimp only
  split
  · split
    · exact cleared
    · split
      · exact sends _ _ cleared
      · exact cleared
  · exact cleared

/-- `disposeTerminal`, where `ws.close` leads to `CLOSING`. -/
def dispose (t : Terminal) : Terminal :=
  let t :=
    { t with
      reconnectTimer := false
      resizeDebounceTimer := false
      mounted := false
      registered := false }
  match t.ws with
  | some k => t.modifySocket k fun socket =>
      if socket.Live then { socket with readyState := .closing } else socket
  | none => t

/-! ## The step relation -/

/-- The ready state of a socket that has been created. -/
def stateOf (t : Terminal) (k : Nat) : Option ReadyState :=
  (t.sockets[k]?).map (·.readyState)

theorem stateOf_modifySocket
    (t : Terminal)
    (k j : Nat)
    (change : Socket → Socket) :
    (t.modifySocket k change).stateOf j =
      if k = j then (t.sockets[j]?).map fun socket => (change socket).readyState
      else t.stateOf j := by
  simp only [stateOf, modifySocket, List.getElem?_modify]
  split
  · cases found : t.sockets[j]? <;> rfl
  · cases found : t.sockets[j]? <;> rfl

theorem readyState_eq_stateOf (t : Terminal) :
    t.readyState = t.ws.bind t.stateOf := by
  simp only [readyState, socket, Option.map_bind]
  rfl

/-- An event is there to be handled.  A message comes on an open socket. -/
def Enabled (t : Terminal) : TerminalEvent → Prop
  | .effect _ | .dispose => t.registered = true
  | .cleanup | .layout _ => t.mounted = true
  | .resizeObserver => t.mounted = true
  | .resizeDebounce => t.resizeDebounceTimer = true
  | .ticketArrives | .ticketFails => 0 < t.tickets
  | .socketOpen k => t.stateOf k = some .connecting
  | .socketAttached k => t.stateOf k = some .opened
  | .socketClosing k =>
      t.stateOf k = some .connecting ∨ t.stateOf k = some .opened
  | .socketError k | .socketClose k =>
      t.stateOf k ≠ none ∧ t.stateOf k ≠ some .closed
  | .reconnectTimer => t.reconnectTimer = true

instance (t : Terminal) : DecidablePred t.Enabled
  | .effect _ | .dispose | .cleanup | .layout _ | .resizeObserver
  | .resizeDebounce | .socketOpen _ | .socketAttached _ | .reconnectTimer =>
      inferInstanceAs (Decidable (_ = _))
  | .ticketArrives | .ticketFails => inferInstanceAs (Decidable (0 < _))
  | .socketClosing _ => inferInstanceAs (Decidable (_ ∨ _))
  | .socketError _ | .socketClose _ => inferInstanceAs (Decidable (_ ∧ _))

/-- Handle an event. -/
def handle (t : Terminal) : TerminalEvent → Terminal
  | .effect container => t.effect container
  | .cleanup => t.cleanup
  | .layout container => { t with container := container }
  | .resizeObserver => t.onResizeObserver
  | .resizeDebounce => t.onResizeDebounce
  | .ticketArrives => t.ticketArrives
  | .ticketFails => t.ticketFails
  | .socketOpen k => t.onopen k
  | .socketAttached k => t.onattached k
  | .socketClosing k => t.modifySocket k fun socket =>
      { socket with readyState := .closing }
  | .socketError _ => t.onerror
  | .socketClose k => t.onclose k
  | .reconnectTimer => t.onReconnectTimer
  | .dispose => t.dispose

/-- The step relation. -/
def step (t : Terminal) (event : TerminalEvent) : Option Terminal :=
  if t.Enabled event then some (t.handle event) else none

theorem step_eq_some_iff {t next : Terminal} {event : TerminalEvent} :
    t.step event = some next ↔ t.Enabled event ∧ t.handle event = next := by
  simp [step]

/-! ## What a message leaves alone -/

/-- The connection is as it was. -/
structure SameConnection (t u : Terminal) : Prop where
  ws : u.ws = t.ws
  tickets : u.tickets = t.tickets
  reconnectTimer : u.reconnectTimer = t.reconnectTimer
  registered : u.registered = t.registered
  sockets : u.sockets.length = t.sockets.length
  stateOf : ∀ k, u.stateOf k = t.stateOf k

namespace SameConnection

variable {t u : Terminal}

/-- Only what was sent and received on a socket changes. -/
theorem modifySocket
    (same : SameConnection t u)
    (k : Nat)
    {change : Socket → Socket}
    (keeps : ∀ socket, (change socket).readyState = socket.readyState) :
    SameConnection t (u.modifySocket k change) where
  ws := same.ws
  tickets := same.tickets
  reconnectTimer := same.reconnectTimer
  registered := same.registered
  sockets := by simpa [Terminal.modifySocket] using same.sockets
  stateOf j := by
    rw [stateOf_modifySocket, ← same.stateOf j]
    simp only [keeps]
    exact ite_self _

theorem sendResize (same : SameConnection t u) (dims : Dimensions) :
    SameConnection t (u.sendResize dims) := by
  unfold Terminal.sendResize
  split
  · split
    · have remembered : SameConnection t { u with lastSent := some dims } :=
        ⟨same.1, same.2, same.3, same.4, same.5, same.6⟩
      exact remembered.modifySocket _ fun _ => rfl
    · exact same
  · exact same

theorem onattached (t : Terminal) (k : Nat) :
    SameConnection t (t.onattached k) := by
  have attached : SameConnection t { t with attached := true } :=
    ⟨rfl, rfl, rfl, rfl, rfl, fun _ => rfl⟩
  have told :
      SameConnection t ({ t with attached := true }.modifySocket k
        fun socket => { socket with told := true }) :=
    attached.modifySocket k fun _ => rfl
  exact onattached_keeps told fun _ dims same => same.sendResize dims

end SameConnection

/-! ## How many sockets there are -/

@[simp] theorem length_sockets_modifySocket
    (t : Terminal)
    (k : Nat)
    (change : Socket → Socket) :
    (t.modifySocket k change).sockets.length = t.sockets.length := by
  simp [modifySocket]

@[simp] theorem length_sockets_connectWebSocket (t : Terminal) :
    t.connectWebSocket.sockets.length = t.sockets.length := by
  rcases connectWebSocket_cases t with ⟨_, asks⟩ | same
  · rw [asks]
  · rw [same]

@[simp] theorem length_sockets_dispose (t : Terminal) :
    t.dispose.sockets.length = t.sockets.length := by
  unfold dispose
  dsimp only
  split
  · exact length_sockets_modifySocket _ _ _
  · rfl

/-- A socket is created when a ticket arrives while `instances` has the session
id, and never otherwise. -/
theorem length_sockets_of_step
    {t next : Terminal}
    {event : TerminalEvent}
    (stepped : t.step event = some next) :
    next.sockets.length =
      if event = .ticketArrives ∧ t.registered = true then t.sockets.length + 1
      else t.sockets.length := by
  obtain ⟨_, rfl⟩ := step_eq_some_iff.mp stepped
  cases event with
  | effect container =>
      simp only [handle, effect]
      split
      · simp [mount]
      · simp [mount]
  | cleanup => simp [handle, cleanup]
  | layout container => simp [handle]
  | resizeObserver =>
      simp only [handle, onResizeObserver]
      split
      · split <;> simp
      · simp
  | resizeDebounce =>
      have sends (u : Terminal) (dims : Dimensions)
          (same : u.sockets.length = t.sockets.length) :
          (u.sendResize dims).sockets.length = t.sockets.length := by
        unfold sendResize
        split
        · split
          · exact (length_sockets_modifySocket _ _ _).trans same
          · exact same
        · exact same
      have kept : t.onResizeDebounce.sockets.length = t.sockets.length :=
        @onResizeDebounce_keeps t
          (fun u => u.sockets.length = t.sockets.length) rfl sends
      simpa [handle] using kept
  | ticketArrives =>
      simp only [handle, ticketArrives]
      split
      · rename_i registered
        simp [registered]
      · rename_i missing
        simp [missing]
  | ticketFails => simp [handle, ticketFails, scheduleReconnect]
  | socketOpen k => simp [handle, onopen]
  | socketAttached k => simpa [handle] using (SameConnection.onattached t k).sockets
  | socketClosing k => simp [handle]
  | socketError k => simp [handle, onerror]
  | socketClose k => simp [handle, onclose, scheduleReconnect]
  | reconnectTimer =>
      simp only [handle, onReconnectTimer]
      split
      · simp
      · simp
  | dispose => simp [handle]

end Terminal
end Client
end LociTerm
