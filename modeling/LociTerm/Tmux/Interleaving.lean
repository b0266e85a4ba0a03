import LociTerm.Library.Run
import LociTerm.Tmux.Manager

/-!
# Interleaved manager calls

Goroutines call the manager concurrently.  A step is one section under the
manager's mutex or one tmux command: `Attach` keeps the mutex over up to three
tmux commands, `KillSession` runs its `kill-session` after releasing it, and a
tmux session can end by itself at any time.
-/

namespace LociTerm
namespace Tmux

/-- How far the `Attach` call that holds the mutex has come. -/
inductive Progress
  /-- `has-session` has answered. -/
  | checked (call : AttachCall) (found : Bool)
  /-- The tmux session exists; the attach client is next. -/
  | existing (call : AttachCall) (recreated : Bool)
  /-- The attach client runs; taking the map slot is next. -/
  | started (call : AttachCall) (recreated : Bool)
  deriving DecidableEq

namespace Progress

/-- The call in progress. -/
def call : Progress → AttachCall
  | .checked call _ => call
  | .existing call _ => call
  | .started call _ => call

/-- The rest of the call, run without interruption. -/
def finish (host : Host) : Progress → Host × Option AttachResult
  | .checked call found => host.attachChecked call found
  | .existing call recreated => host.attachExisting call recreated
  | .started call recreated =>
      (host.attachPublish call, some ⟨call.handle, recreated⟩)

end Progress

/-- A host with the calls that are under way. -/
structure Interleaved where
  host : Host
  /-- The `Attach` call that holds the mutex. -/
  holder : Option Progress
  /-- The `KillSession` calls between their unlock and their `kill-session`. -/
  killing : List String
  /-- The results that `Attach` calls have returned, newest first. -/
  returned : List (String × AttachResult)
  /-- The clients whose handler has run its `Detach`. -/
  detached : List Handle
  deriving DecidableEq

/-- One step of some goroutine, or of the tmux server. -/
inductive Action
  | attachLock (call : AttachCall)
  | attachStep
  | detach (id : String) (client : Handle)
  | resize (id : String) (size : Size) (fails : Bool)
  | killLock (id : String)
  | killTmux (id : String)
  | shutdown
  | resizePTY (client : Handle) (size : Size)
  | closePTMX (client : Handle)
  | sessionEnds (id : String)
  deriving DecidableEq

namespace Interleaved

/-- A new manager on a tmux server that may have sessions already. -/
def start (server : Server) : Interleaved :=
  ⟨Host.newManager server, none, [], [], []⟩

/-- An `Attach` call with this id has returned this client. -/
def Returned (state : Interleaved) (id : String) (client : Handle) : Prop :=
  ∃ recreated, (id, ⟨client, recreated⟩) ∈ state.returned

instance : LawfulBEq (String × AttachResult) := inferInstance

instance (state : Interleaved) (id : String) (client : Handle) :
    Decidable (state.Returned id client) :=
  decidable_of_iff
    ((id, ⟨client, false⟩) ∈ state.returned ∨
      (id, ⟨client, true⟩) ∈ state.returned)
    (by simp [Returned])

/-- The next step of the `Attach` call that holds the mutex. -/
def advance (state : Interleaved) : Progress → Interleaved
  | .checked call true =>
      { state with holder := some (.existing call false) }
  | .checked call false =>
      match state.host.attachCreate call with
      | none => { state with holder := none }
      | some host =>
          { state with host := host, holder := some (.existing call true) }
  | .existing call recreated =>
      match state.host.newSession call with
      | none => { state with holder := none }
      | some host =>
          { state with host := host, holder := some (.started call recreated) }
  | .started call recreated =>
      { state with
        host := state.host.attachPublish call
        holder := none
        returned := (call.id, ⟨call.handle, recreated⟩) :: state.returned }

/-- The step relation.  A section under the mutex needs the mutex to be free,
and `Detach` is only called with what an `Attach` returned. -/
def step (state : Interleaved) : Action → Option Interleaved
  | .attachLock call =>
      if state.holder = none ∧ state.host.heap.get? call.handle = none then
        some { state with
          holder :=
            some (.checked call (state.host.tmuxSessionExists call.id)) }
      else none
  | .attachStep => state.holder.map state.advance
  | .detach id client =>
      if state.holder = none ∧ state.Returned id client then
        some { state with
          host := state.host.detach id (some client)
          detached := client :: state.detached }
      else none
  | .resize id size fails =>
      if state.holder = none then
        some { state with host := (state.host.resize id size fails).1 }
      else none
  | .killLock id =>
      if state.holder = none then
        some { state with
          host := state.host.killLocked id
          killing := id :: state.killing }
      else none
  | .killTmux id =>
      if id ∈ state.killing then
        some { state with
          host := state.host.killTmux id
          killing := state.killing.erase id }
      else none
  | .shutdown =>
      if state.holder = none then
        some { state with host := state.host.shutdown }
      else none
  | .resizePTY client size =>
      some { state with host := state.host.resizePTY client size }
  | .closePTMX client =>
      some { state with host := state.host.closePTMX client }
  | .sessionEnds id =>
      some { state with host := state.host.killTmux id }

variable {state next : Interleaved}

/-! ## What one step can do -/

theorem step_attachLock {call : AttachCall} :
    state.step (.attachLock call) = some next ↔
      (state.holder = none ∧ state.host.heap.get? call.handle = none) ∧
        { state with
          holder := some
            (.checked call (state.host.tmuxSessionExists call.id)) } =
          next := by
  simp [step]

theorem step_attachStep :
    state.step .attachStep = some next ↔
      ∃ progress, state.holder = some progress ∧
        state.advance progress = next := by
  simp [step]

theorem step_detach {id : String} {client : Handle} :
    state.step (.detach id client) = some next ↔
      (state.holder = none ∧ state.Returned id client) ∧
        { state with
          host := state.host.detach id (some client)
          detached := client :: state.detached } = next := by
  simp [step]

theorem step_resize {id : String} {size : Size} {fails : Bool} :
    state.step (.resize id size fails) = some next ↔
      state.holder = none ∧
        { state with host := (state.host.resize id size fails).1 } =
          next := by
  simp [step]

theorem step_killLock {id : String} :
    state.step (.killLock id) = some next ↔
      state.holder = none ∧
        { state with
          host := state.host.killLocked id
          killing := id :: state.killing } = next := by
  simp [step]

theorem step_killTmux {id : String} :
    state.step (.killTmux id) = some next ↔
      id ∈ state.killing ∧
        { state with
          host := state.host.killTmux id
          killing := state.killing.erase id } = next := by
  simp [step]

theorem step_shutdown :
    state.step .shutdown = some next ↔
      state.holder = none ∧
        { state with host := state.host.shutdown } = next := by
  simp [step]

theorem step_resizePTY {client : Handle} {size : Size} :
    state.step (.resizePTY client size) = some next ↔
      { state with host := state.host.resizePTY client size } = next := by
  simp [step]

theorem step_closePTMX {client : Handle} :
    state.step (.closePTMX client) = some next ↔
      { state with host := state.host.closePTMX client } = next := by
  simp [step]

theorem step_sessionEnds {id : String} :
    state.step (.sessionEnds id) = some next ↔
      { state with host := state.host.killTmux id } = next := by
  simp [step]

end Interleaved
end Tmux
end LociTerm
