import LociTerm.Client.Terminal
import LociTerm.Tmux.Manager
import Mathlib.Logic.Function.Basic

/-!
# Two devices on one session

Two browsers keep the same session open.  Every socket of a browser's terminal
instance is one end of a line; at the other end a `HandleTerminal` call runs
against the manager that both browsers share.  Nothing fails and no user acts:
tickets are granted, upgrades and `Attach` calls succeed, and frames arrive in
order.  Output and resize frames are left out, since they reach neither the
manager's map nor the connection.
-/

namespace LociTerm
namespace Ws

open Tmux Client

/-- How far the `HandleTerminal` call of a line has come. -/
inductive HandlerStage
  /-- The upgrade request is on its way. -/
  | dialing
  | upgraded
  /-- `Attach` has returned, and the `attached` frame is yet to be written. -/
  | announcing
  /-- The goroutines copy between the socket and the pty. -/
  | pumping
  /-- `shutdown` has run, and the deferred `Detach` is yet to run. -/
  | shut
  | returned
  deriving DecidableEq

/-- What the browser has received on a line. -/
inductive Received
  | nothing
  | opened
  | told
  | closed
  deriving DecidableEq

/-- The connection of one socket. -/
structure Line where
  handler : HandlerStage
  received : Received
  deriving DecidableEq

/-- What happens on a line, at one of its ends. -/
inductive LineEvent
  | upgrade
  | socketOpen
  | attach
  | writeAttached
  | socketAttached
  | pumpEnds
  | detach
  | socketClose
  deriving DecidableEq

/-- `Attach` has returned, and the pty is still being read or about to be. -/
def HandlerStage.serving : HandlerStage → Bool
  | .announcing | .pumping => true
  | .dialing | .upgraded | .shut | .returned => false

/-- The connection is closed on the server's side. -/
def HandlerStage.finished : HandlerStage → Bool
  | .shut | .returned => true
  | .dialing | .upgraded | .announcing | .pumping => false

namespace Line

/-- A line moves at one of its ends.  The browser receives what the handler has
sent, in the order in which it was sent. -/
def step (line : Line) : LineEvent → Option Line
  | .upgrade =>
      if line.handler = .dialing then some { line with handler := .upgraded }
      else none
  | .socketOpen =>
      if line.handler ≠ .dialing ∧ line.received = .nothing then
        some { line with received := .opened }
      else none
  | .attach =>
      if line.handler = .upgraded then
        some { line with handler := .announcing }
      else none
  | .writeAttached =>
      if line.handler = .announcing then
        some { line with handler := .pumping }
      else none
  | .socketAttached =>
      if (line.handler = .pumping ∨ line.handler.finished) ∧
          line.received = .opened then
        some { line with received := .told }
      else none
  | .pumpEnds =>
      if line.handler = .pumping then some { line with handler := .shut }
      else none
  | .detach =>
      if line.handler = .shut then some { line with handler := .returned }
      else none
  | .socketClose =>
      if line.handler.finished ∧ line.received = .told then
        some { line with received := .closed }
      else none

end Line

/-- The event of the terminal that an event of its `k`-th line is. -/
def LineEvent.terminalEvent (k : Nat) : LineEvent → Option TerminalEvent
  | .socketOpen => some (.socketOpen k)
  | .socketAttached => some (.socketAttached k)
  | .socketClose => some (.socketClose k)
  | .upgrade | .attach | .writeAttached | .pumpEnds | .detach => none

/-- A browser with the session open. -/
structure Device where
  terminal : Terminal
  /-- The lines of the terminal's sockets, in the order of these. -/
  lines : List Line
  deriving DecidableEq

/-- What happens to a browser.  A line is given by its place. -/
inductive DeviceEvent
  | ticketArrives
  | reconnectTimer
  | line (k : Nat) (event : LineEvent)
  deriving DecidableEq

/-- The attach client of a device's `k`-th line. -/
def client (device : Bool) (k : Nat) : Handle := 2 * k + device.toNat

/-- The device that an attach client belongs to. -/
def ownerOf (client : Handle) : Bool := client % 2 = 1

/-- Two browsers and the server. -/
structure Devices where
  host : Host
  device : Bool → Device
  /-- How often an attach client was closed because of the `Attach` of the
  other browser. -/
  evictions : Nat

namespace Devices

/-- Both browsers have just selected the session. -/
def start (server : Server) (container : Bool → Option Dimensions) : Devices :=
  { host := Host.newManager server
    device := fun device =>
      ⟨Terminal.createInstance.effect (container device), []⟩
    evictions := 0 }

variable (id : String)

/-- The `Attach` call that `HandleTerminal` makes. -/
def attachCall (client : Handle) : AttachCall :=
  ⟨client, id, ⟨120, 40⟩, ⟨false, false⟩⟩

/-- What the handler of a line does with the manager.  The pty is read until
its own side of it is closed. -/
def serve (host : Host) (client : Handle) : LineEvent → Option Host
  | .attach =>
      match host.attach (attachCall id client) with
      | (next, some _) => some next
      | (_, none) => none
  | .pumpEnds =>
      if (host.heap.get? client).any fun session => !session.ptmxOpen then
        some (host.closePTMX client)
      else none
  | .detach => some (host.detach id (some client))
  | .upgrade | .socketOpen | .writeAttached | .socketAttached | .socketClose =>
      some host

/-- The `Attach` of a device's line would close the client of the other. -/
def evicts (host : Host) (device : Bool) : Bool :=
  (host.sessions.get? id).any fun prior =>
    ownerOf prior != device &&
      (host.heap.get? prior).any fun session => !session.closed

/-- Put a browser into its place. -/
def withDevice (state : Devices) (device : Bool) (now : Device) : Devices :=
  { state with device := Function.update state.device device now }

/-- An event of a device's `k`-th line. -/
def lineStep
    (state : Devices)
    (device : Bool)
    (k : Nat)
    (event : LineEvent) : Option Devices :=
  let now := state.device device
  (now.lines[k]?).bind fun line =>
    (line.step event).bind fun moved =>
      (serve id state.host (client device k) event).bind fun host =>
        ((event.terminalEvent k).elim (some now.terminal)
            now.terminal.step).map fun terminal =>
          { state.withDevice device ⟨terminal, now.lines.set k moved⟩ with
            host := host
            evictions :=
              if event = .attach ∧ evicts id state.host device then
                state.evictions + 1
              else state.evictions }

/-- The step relation. -/
def step (state : Devices) : Bool × DeviceEvent → Option Devices
  | (device, .ticketArrives) =>
      let now := state.device device
      (now.terminal.step .ticketArrives).map fun terminal =>
        state.withDevice device
          ⟨terminal, now.lines ++ [⟨.dialing, .nothing⟩]⟩
  | (device, .reconnectTimer) =>
      let now := state.device device
      (now.terminal.step .reconnectTimer).map fun terminal =>
        state.withDevice device ⟨terminal, now.lines⟩
  | (device, .line k event) => state.lineStep id device k event

end Devices
end Ws
end LociTerm
