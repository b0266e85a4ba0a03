import LociTerm.Ws.Devices

/-!
# The phases of a device

A line goes through a bounded number of steps at both of its ends.  A device
has at most one line that is not closed: it waits for the timer, or for a
ticket, or it has one line under way.
-/

namespace LociTerm
namespace Ws

open Tmux Client

/-! ## The steps of a line -/

namespace Line

/-- What the events of a line do to it. -/
inductive Moves : Line → LineEvent → Line → Prop
  | upgrade (received : Received) :
      Moves ⟨.dialing, received⟩ .upgrade ⟨.upgraded, received⟩
  | socketOpen (handler : HandlerStage) (upgraded : handler ≠ .dialing) :
      Moves ⟨handler, .nothing⟩ .socketOpen ⟨handler, .opened⟩
  | attach (received : Received) :
      Moves ⟨.upgraded, received⟩ .attach ⟨.announcing, received⟩
  | writeAttached (received : Received) :
      Moves ⟨.announcing, received⟩ .writeAttached ⟨.pumping, received⟩
  | socketAttached
      (handler : HandlerStage)
      (written : handler = .pumping ∨ handler.finished = true) :
      Moves ⟨handler, .opened⟩ .socketAttached ⟨handler, .told⟩
  | pumpEnds (received : Received) :
      Moves ⟨.pumping, received⟩ .pumpEnds ⟨.shut, received⟩
  | detach (received : Received) :
      Moves ⟨.shut, received⟩ .detach ⟨.returned, received⟩
  | socketClose (handler : HandlerStage) (finished : handler.finished = true) :
      Moves ⟨handler, .told⟩ .socketClose ⟨handler, .closed⟩

theorem moves_of_step
    {line moved : Line}
    {event : LineEvent}
    (stepped : line.step event = some moved) :
    Moves line event moved := by
  obtain ⟨handler, received⟩ := line
  cases event with
  | upgrade =>
      obtain ⟨rfl, ⟨⟩⟩ := Option.ite_none_right_eq_some.mp stepped
      exact .upgrade received
  | socketOpen =>
      obtain ⟨⟨upgraded, rfl⟩, ⟨⟩⟩ := Option.ite_none_right_eq_some.mp stepped
      exact .socketOpen handler upgraded
  | attach =>
      obtain ⟨rfl, ⟨⟩⟩ := Option.ite_none_right_eq_some.mp stepped
      exact .attach received
  | writeAttached =>
      obtain ⟨rfl, ⟨⟩⟩ := Option.ite_none_right_eq_some.mp stepped
      exact .writeAttached received
  | socketAttached =>
      obtain ⟨⟨written, rfl⟩, ⟨⟩⟩ := Option.ite_none_right_eq_some.mp stepped
      exact .socketAttached handler written
  | pumpEnds =>
      obtain ⟨rfl, ⟨⟩⟩ := Option.ite_none_right_eq_some.mp stepped
      exact .pumpEnds received
  | detach =>
      obtain ⟨rfl, ⟨⟩⟩ := Option.ite_none_right_eq_some.mp stepped
      exact .detach received
  | socketClose =>
      obtain ⟨⟨finished, rfl⟩, ⟨⟩⟩ := Option.ite_none_right_eq_some.mp stepped
      exact .socketClose handler finished

end Line

/-- How many steps of its handler a line has taken. -/
def HandlerStage.rank : HandlerStage → Nat
  | .dialing => 0
  | .upgraded => 1
  | .announcing => 2
  | .pumping => 3
  | .shut => 4
  | .returned => 5

/-- How many steps of its browser a line has taken. -/
def Received.rank : Received → Nat
  | .nothing => 0
  | .opened => 1
  | .told => 2
  | .closed => 3

/-- `Attach` has returned at some time. -/
def HandlerStage.attached (stage : HandlerStage) : Bool :=
  stage.serving || stage.finished

namespace Line

/-- The steps of a line, with the ticket and the timer that led to it. -/
def work (line : Line) : Nat := 2 + line.handler.rank + line.received.rank

theorem work_le (line : Line) : line.work ≤ 10 := by
  obtain ⟨handler, received⟩ := line
  cases handler <;> cases received <;> decide

variable {line moved : Line} {event : LineEvent}

theorem work_moves (moves : Moves line event moved) :
    moved.work = line.work + 1 := by
  cases moves <;> simp only [work, HandlerStage.rank, Received.rank] <;> omega

/-- The browser learns of the end only after the server has closed. -/
def Sound (line : Line) : Prop :=
  line.received = .closed → line.handler.finished = true

theorem Sound.moves (sound : line.Sound) (moves : Moves line event moved) :
    moved.Sound := by
  cases moves with
  | upgrade received | attach received | writeAttached received =>
      exact fun closed => absurd (sound closed) Bool.false_ne_true
  | socketOpen handler upgraded | socketAttached handler written =>
      exact fun closed => nomatch closed
  | pumpEnds received | detach received => exact fun _ => rfl
  | socketClose handler finished => exact fun _ => finished

end Line

/-! ## The phases of a device -/

/-- The ready state of a socket, by what the browser has received on it. -/
def Received.readyState : Received → ReadyState
  | .nothing => .connecting
  | .opened | .told => .opened
  | .closed => .closed

namespace Device

/-- Every line is closed. -/
structure Idle (device : Device) : Prop where
  closed : ∀ line ∈ device.lines, line.received = .closed
  registered : device.terminal.registered = true
  sockets : device.terminal.sockets.length = device.lines.length

/-- Every line but the last is closed. -/
structure Connected
    (device : Device)
    (earlier : List Line)
    (current : Line) : Prop where
  lines : device.lines = earlier ++ [current]
  closed : ∀ line ∈ earlier, line.received = .closed
  live : current.received ≠ .closed
  registered : device.terminal.registered = true
  sockets : device.terminal.sockets.length = earlier.length + 1
  ws : device.terminal.ws = some earlier.length
  readyState :
    device.terminal.stateOf earlier.length = some current.received.readyState
  tickets : device.terminal.tickets = 0
  timer : device.terminal.reconnectTimer = false

/-- A device waits for a ticket, has one line that is not closed, or waits for
its reconnect timer. -/
inductive Phase (device : Device) : Prop
  | waiting
      (idle : device.Idle)
      (tickets : device.terminal.tickets = 1)
      (timer : device.terminal.reconnectTimer = false)
  | connected
      (earlier : List Line)
      (current : Line)
      (connected : device.Connected earlier current)
  | backingOff
      (idle : device.Idle)
      (tickets : device.terminal.tickets = 0)
      (timer : device.terminal.reconnectTimer = true)
      (passes : device.terminal.passes = true)

namespace Phase

variable {device : Device} {terminal : Terminal}

theorem start (container : Option Dimensions) :
    Phase ⟨Terminal.createInstance.effect container, []⟩ := by
  refine .waiting ⟨?_, rfl, rfl⟩ rfl rfl
  simp

/-- With the ticket the device gets its next line. -/
theorem ticketArrives
    (phase : device.Phase)
    (stepped : device.terminal.step .ticketArrives = some terminal) :
    Phase ⟨terminal, device.lines ++ [⟨.dialing, .nothing⟩]⟩ ∧
      terminal.tickets + 1 = device.terminal.tickets := by
  obtain ⟨waits, rfl⟩ := Terminal.step_eq_some_iff.mp stepped
  have waits : 0 < device.terminal.tickets := waits
  cases phase with
  | waiting idle tickets timer =>
      rw [Terminal.handle, Terminal.ticketArrives, if_pos idle.registered]
      refine ⟨.connected device.lines ⟨.dialing, .nothing⟩ ?_, by simp [tickets]⟩
      exact
        { lines := rfl
          closed := idle.closed
          live := by rintro ⟨⟩
          registered := idle.registered
          sockets := by simp [idle.sockets]
          ws := by simp [idle.sockets]
          readyState := by
            simp [Terminal.stateOf, ← idle.sockets, Received.readyState]
          tickets := by simp [tickets]
          timer := timer }
  | connected earlier current connected =>
      exact absurd connected.tickets (by omega)
  | backingOff idle tickets timer passes => omega

/-- The timer leads to the next ticket. -/
theorem reconnectTimer
    (phase : device.Phase)
    (stepped : device.terminal.step .reconnectTimer = some terminal) :
    Phase ⟨terminal, device.lines⟩ ∧
      terminal.tickets = device.terminal.tickets + 1 := by
  obtain ⟨armed, rfl⟩ := Terminal.step_eq_some_iff.mp stepped
  have armed : device.terminal.reconnectTimer = true := armed
  cases phase with
  | waiting idle tickets timer => simp [timer] at armed
  | connected earlier current connected => simp [connected.timer] at armed
  | backingOff idle tickets timer passes =>
      have again :
          Terminal.passes { device.terminal with reconnectTimer := false } =
            true :=
        passes
      rw [Terminal.handle, Terminal.onReconnectTimer, if_pos idle.registered,
        Terminal.connectWebSocket, if_pos again]
      refine ⟨.waiting ⟨idle.closed, idle.registered, idle.sockets⟩ ?_ rfl, rfl⟩
      simp [tickets]

/-- A line that is not closed is the current one. -/
theorem connected_of_live
    {k : Nat}
    {line : Line}
    (phase : device.Phase)
    (found : device.lines[k]? = some line)
    (live : line.received ≠ .closed) :
    ∃ earlier, device.Connected earlier line ∧ earlier.length = k := by
  cases phase with
  | waiting idle tickets timer =>
      exact absurd (idle.closed line (List.mem_of_getElem? found)) live
  | backingOff idle tickets timer passes =>
      exact absurd (idle.closed line (List.mem_of_getElem? found)) live
  | connected earlier current connected =>
      rw [connected.lines] at found
      rcases Nat.lt_trichotomy k earlier.length with before | rfl | after
      · rw [List.getElem?_append_left before] at found
        exact absurd (connected.closed line (List.mem_of_getElem? found)) live
      · rw [List.getElem?_concat_length] at found
        cases found
        exact ⟨earlier, connected, rfl⟩
      · rw [List.getElem?_eq_none (by simp; omega)] at found
        cases found

end Phase

/-- Every line stays closed. -/
theorem closed_of_mem_set
    {lines : List Line}
    {k : Nat}
    {line moved other : Line}
    (closed : ∀ line ∈ lines, line.received = .closed)
    (found : lines[k]? = some line)
    (same : moved.received = line.received)
    (member : other ∈ lines.set k moved) :
    other.received = .closed := by
  rcases List.mem_or_eq_of_mem_set member with member | rfl
  · exact closed other member
  · rw [same]
    exact closed line (List.mem_of_getElem? found)

theorem Idle.unseen
    {device : Device}
    {k : Nat}
    {line moved : Line}
    (idle : device.Idle)
    (found : device.lines[k]? = some line)
    (same : moved.received = line.received) :
    Idle ⟨device.terminal, device.lines.set k moved⟩ where
  closed _ := closed_of_mem_set idle.closed found same
  registered := idle.registered
  sockets := by simp [idle.sockets]

theorem Connected.unseen
    {device : Device}
    {earlier : List Line}
    {current line moved : Line}
    {k : Nat}
    (connected : device.Connected earlier current)
    (found : device.lines[k]? = some line)
    (same : moved.received = line.received) :
    Phase ⟨device.terminal, device.lines.set k moved⟩ := by
  rw [connected.lines] at found ⊢
  rcases Nat.lt_trichotomy k earlier.length with before | rfl | after
  · rw [List.getElem?_append_left before] at found
    rw [List.set_append_left _ _ before]
    exact .connected (earlier.set k moved) current
      { lines := rfl
        closed := fun _ => closed_of_mem_set connected.closed found same
        live := connected.live
        registered := connected.registered
        sockets := by simp [connected.sockets]
        ws := by simp [connected.ws]
        readyState := by simp [connected.readyState]
        tickets := connected.tickets
        timer := connected.timer }
  · rw [List.getElem?_concat_length] at found
    cases found
    exact .connected earlier moved
      { lines := by simp
        closed := connected.closed
        live := by simpa [same] using connected.live
        registered := connected.registered
        sockets := connected.sockets
        ws := connected.ws
        readyState := by simpa [same] using connected.readyState
        tickets := connected.tickets
        timer := connected.timer }
  · rw [List.getElem?_eq_none (by simp; omega)] at found
    cases found

namespace Phase

variable {device : Device} {terminal : Terminal}

/-- The server's end of a line moves. -/
theorem unseen
    {k : Nat}
    {line moved : Line}
    (phase : device.Phase)
    (found : device.lines[k]? = some line)
    (same : moved.received = line.received) :
    Phase ⟨device.terminal, device.lines.set k moved⟩ := by
  cases phase with
  | waiting idle tickets timer =>
      exact .waiting (idle.unseen found same) tickets timer
  | backingOff idle tickets timer passes =>
      exact .backingOff (idle.unseen found same) tickets timer passes
  | connected earlier current connected => exact connected.unseen found same

/-- The ready state of the socket that an event of its own changes. -/
theorem stateOf_of_modifySocket
    {u : Terminal}
    {k : Nat}
    {state after : ReadyState}
    (was : u.stateOf k = some state)
    {change : Socket → Socket}
    (becomes : ∀ socket, (change socket).readyState = after) :
    (u.modifySocket k change).stateOf k = some after := by
  obtain ⟨socket, found, _⟩ := Option.map_eq_some_iff.mp was
  rw [Terminal.stateOf_modifySocket, if_pos rfl, found]
  exact congrArg some (becomes socket)

/-- An event of a line keeps the device in one of its phases. -/
theorem line
    {k : Nat}
    {line moved : Line}
    {event : LineEvent}
    (phase : device.Phase)
    (found : device.lines[k]? = some line)
    (moves : Line.Moves line event moved)
    (stepped : (event.terminalEvent k).elim (some device.terminal)
      device.terminal.step = some terminal) :
    Phase ⟨terminal, device.lines.set k moved⟩ ∧
      terminal.tickets = device.terminal.tickets := by
  cases moves with
  | upgrade received | attach received | writeAttached received
  | pumpEnds received | detach received =>
      cases stepped
      exact ⟨phase.unseen found rfl, rfl⟩
  | socketOpen handler upgraded =>
      obtain ⟨earlier, connected, rfl⟩ :=
        phase.connected_of_live found (by rintro ⟨⟩)
      obtain ⟨_, rfl⟩ := Terminal.step_eq_some_iff.mp stepped
      refine ⟨.connected earlier ⟨handler, .opened⟩ ?_, rfl⟩
      exact
        { lines := by simp [connected.lines]
          closed := connected.closed
          live := by rintro ⟨⟩
          registered := connected.registered
          sockets := by
            simpa [Terminal.handle, Terminal.onopen, Terminal.modifySocket]
              using connected.sockets
          ws := connected.ws
          readyState :=
            stateOf_of_modifySocket connected.readyState fun _ => rfl
          tickets := connected.tickets
          timer := connected.timer }
  | socketAttached handler written =>
      obtain ⟨earlier, connected, rfl⟩ :=
        phase.connected_of_live found (by rintro ⟨⟩)
      obtain ⟨_, rfl⟩ := Terminal.step_eq_some_iff.mp stepped
      have same :=
        Terminal.SameConnection.onattached device.terminal earlier.length
      refine ⟨.connected earlier ⟨handler, .told⟩ ?_, same.tickets⟩
      exact
        { lines := by simp [connected.lines]
          closed := connected.closed
          live := by rintro ⟨⟩
          registered := same.registered.trans connected.registered
          sockets := same.sockets.trans connected.sockets
          ws := same.ws.trans connected.ws
          readyState := (same.stateOf _).trans connected.readyState
          tickets := same.tickets.trans connected.tickets
          timer := same.reconnectTimer.trans connected.timer }
  | socketClose handler finished =>
      obtain ⟨earlier, connected, rfl⟩ :=
        phase.connected_of_live found (by rintro ⟨⟩)
      obtain ⟨_, rfl⟩ := Terminal.step_eq_some_iff.mp stepped
      have ended :
          (device.terminal.onclose earlier.length).stateOf earlier.length =
            some .closed :=
        stateOf_of_modifySocket connected.readyState fun _ => rfl
      have ready :
          (device.terminal.onclose earlier.length).readyState =
            some .closed := by
        have ws : (device.terminal.onclose earlier.length).ws =
            some earlier.length :=
          connected.ws
        rw [Terminal.readyState_eq_stateOf, ws]
        exact ended
      refine ⟨.backingOff ⟨?_, connected.registered, ?_⟩ connected.tickets rfl
        ?_, rfl⟩
      · intro other member
        have member : other ∈ earlier ++ [⟨handler, .closed⟩] := by
          simpa [connected.lines] using member
        rcases List.mem_append.mp member with before | last
        · exact connected.closed other before
        · rw [List.mem_singleton.mp last]
      · simpa [Terminal.handle, Terminal.onclose, Terminal.scheduleReconnect,
          Terminal.modifySocket, connected.lines] using connected.sockets
      · simp only [Terminal.handle, Terminal.passes, ready]
        rfl

end Phase
end Device

end Ws
end LociTerm
