import LociTerm.Client.Terminal
import LociTerm.Library.Table

/-!
# The instances of a page

`useTerminal` keeps its instances in a map by session id.  The callbacks of an
instance hold the instance itself, and go on after `disposeTerminal` has taken
it out of the map.  By then there may be another instance under its session id.
-/

namespace LociTerm
namespace Client

/-- A `TerminalInstance` that has been in the map. -/
structure Instance where
  /-- The `sid` that its callbacks hold. -/
  sessionId : String
  terminal : Terminal
  /-- How many sockets it had when it was disposed, if it was. -/
  disposed : Option Nat
  /-- The sockets for which it has written to its terminal, newest first. -/
  written : List Nat
  deriving DecidableEq

/-- The map `instances`, with every instance that has been in it. -/
structure Instances where
  /-- Oldest first. -/
  created : List Instance
  /-- The map, with the places of the instances in `created`. -/
  map : Table String Nat
  deriving DecidableEq

/-- What happens to the instances of a page. -/
inductive InstancesEvent
  | effect (sessionId : String) (container : Option Dimensions)
  | disposeTerminal (sessionId : String)
  /-- A callback that holds the instance at a place. -/
  | callback (place : Nat) (event : TerminalEvent)
  /-- `ws.onmessage` with output, or with an `attached` message that tells of a
  new tmux session. -/
  | output (place socket : Nat)
  deriving DecidableEq

/-- The event is handled by a callback that holds the instance. -/
def TerminalEvent.isCallback : TerminalEvent → Bool
  | .effect _ | .dispose => false
  | _ => true

/-- The instance is disposed. -/
def Instance.dispose (inst : Instance) : Instance :=
  { inst with
    terminal := inst.terminal.dispose
    disposed := some inst.terminal.sockets.length }

namespace Instances

/-- The page as it loads. -/
def empty : Instances := ⟨[], Table.empty⟩

/-- `instances.has(sid)` -/
def has (state : Instances) (sessionId : String) : Bool :=
  (state.map.get? sessionId).isSome

/-- The instance as its callbacks find it. -/
def found (state : Instances) (inst : Instance) : Terminal :=
  { inst.terminal with registered := state.has inst.sessionId }

/-- A handler of the instance at a place runs. -/
def advance
    (state : Instances)
    (place : Nat)
    (event : TerminalEvent) : Option Instances :=
  (state.created[place]?).bind fun inst =>
    ((state.found inst).step event).map fun terminal =>
      { state with
        created := state.created.set place { inst with terminal := terminal } }

/-- `instances.set(sessionId, createInstance(activeTheme))` -/
def createInstance (state : Instances) (sessionId : String) : Instances :=
  { created :=
      state.created ++ [⟨sessionId, Terminal.createInstance, none, []⟩]
    map := state.map.set sessionId state.created.length }

/-- The effect of `useTerminal` for a session. -/
def effect
    (state : Instances)
    (sessionId : String)
    (container : Option Dimensions) : Option Instances :=
  match state.map.get? sessionId with
  | some place => state.advance place (.effect container)
  | none =>
      (state.createInstance sessionId).advance state.created.length
        (.effect container)

/-- `disposeTerminal` -/
def disposeTerminal (state : Instances) (sessionId : String) : Instances :=
  match state.map.get? sessionId with
  | some place =>
      { created := state.created.modify place Instance.dispose
        map := state.map.erase sessionId }
  | none => state

/-- `inst.terminal.write` or `inst.terminal.writeln`, in the handler of an open
socket. -/
def output (state : Instances) (place socket : Nat) : Option Instances :=
  (state.created[place]?).bind fun inst =>
    if inst.terminal.stateOf socket = some .opened then
      some { state with
        created :=
          state.created.set place { inst with written := socket :: inst.written } }
    else none

/-- The step relation.  Without a session id there is nothing to do. -/
def step (state : Instances) : InstancesEvent → Option Instances
  | .effect sessionId container =>
      if sessionId = "" then some state else state.effect sessionId container
  | .disposeTerminal sessionId => some (state.disposeTerminal sessionId)
  | .callback place event =>
      if event.isCallback then state.advance place event else none
  | .output place socket => state.output place socket

end Instances
end Client
end LociTerm
