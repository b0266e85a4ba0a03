import LociTerm.Tmux.Ownership
import LociTerm.Ws.Protocol

/-!
# Terminal handlers

`HandleTerminal` attaches to the session id of its path, writes an `attached`
control frame and detaches when the connection is over.  Any number of
handlers run concurrently, beside the other users of the manager.
-/

namespace LociTerm
namespace Ws

open Tmux

/-- The frame that announces a successful `Attach`. -/
def attachedMessage (recreated : Bool) : Protocol.ControlMessage :=
  { Protocol.ControlMessage.zero with
    type := "attached", shell := "tmux", recreated := recreated }

/-- An `attached` frame that has reached its client. -/
structure Delivery where
  id : String
  client : Handle
  message : Protocol.ControlMessage
  /-- The tmux session incarnation that the handler's attach client joined. -/
  incarnation : Option Nat
  deriving DecidableEq

/-- The terminal handlers of a server. -/
structure Terminals where
  manager : Interleaved
  /-- The `Attach` results whose frame the handler has yet to write. -/
  unwritten : List (String × AttachResult)
  /-- The `attached` frames that reached their clients, newest first. -/
  delivered : List Delivery
  /-- The tmux sessions whose creation will never be announced by the handler
  that created them. -/
  lost : List Nat
  deriving DecidableEq

/-- One step of a terminal handler, of another user of the manager, or of the
tmux server. -/
inductive TerminalAction
  | connect (client : Handle) (id : String) (faults : AttachFaults)
  | writeAttached (id : String) (result : AttachResult) (fails : Bool)
  | manager (action : Action)
  deriving DecidableEq

namespace Terminals

/-- No handler and no tmux session yet. -/
def start : Terminals := ⟨Interleaved.start Server.fresh, [], [], []⟩

/-- The tmux session incarnation that an attach client joined. -/
def incarnation? (state : Terminals) (client : Handle) : Option Nat :=
  (state.manager.host.heap.get? client).bind Session.incarnation

/-- The result that the next step of an `Attach` call returns. -/
def returning (manager : Interleaved) : Action → List (String × AttachResult)
  | .attachStep =>
      match manager.holder with
      | some (.started call recreated) =>
          [(call.id, ⟨call.handle, recreated⟩)]
      | _ => []
  | _ => []

/-- The tmux session that the next step of an `Attach` call leaves behind: the
call has created it, and starting its attach client fails. -/
def abandoning (manager : Interleaved) : Action → List Nat
  | .attachStep =>
      match manager.holder with
      | some (.existing call true) =>
          if call.faults.start then [manager.host.server.incarnations - 1]
          else []
      | _ => []
  | _ => []

/-- A handler detaches after it has tried to write its frame. -/
def Permits (state : Terminals) : Action → Prop
  | .attachLock _ => False
  | .detach id client =>
      (id, ⟨client, false⟩) ∉ state.unwritten ∧
        (id, ⟨client, true⟩) ∉ state.unwritten
  | _ => True

instance (state : Terminals) : ∀ action, Decidable (state.Permits action)
  | .attachLock _ => isFalse id
  | .detach _ _ => inferInstanceAs (Decidable (_ ∧ _))
  | .attachStep | .resize _ _ _ | .killLock _ | .killTmux _ | .shutdown
  | .resizePTY _ _ | .closePTMX _ | .sessionEnds _ => isTrue trivial

/-- The step relation. -/
def step (state : Terminals) : TerminalAction → Option Terminals
  | .connect client id faults =>
      -- An empty id is answered with 400 before the upgrade.
      if id = "" then none
      else
        (state.manager.step
          (.attachLock ⟨client, id, ⟨120, 40⟩, faults⟩)).map fun manager =>
            { state with manager := manager }
  | .writeAttached id result fails =>
      if (id, result) ∈ state.unwritten then
        let written :=
          { state with unwritten := state.unwritten.erase (id, result) }
        if fails then
          some { written with
            lost :=
              if result.recreated then
                (state.incarnation? result.session).toList ++ state.lost
              else state.lost }
        else
          some { written with
            delivered :=
              ⟨id, result.session, attachedMessage result.recreated,
                state.incarnation? result.session⟩ :: state.delivered }
      else none
  | .manager action =>
      if state.Permits action then
        (state.manager.step action).map fun manager =>
          { state with
            manager := manager
            unwritten :=
              returning state.manager action ++ state.unwritten
            lost := abandoning state.manager action ++ state.lost }
      else none

end Terminals
end Ws
end LociTerm
