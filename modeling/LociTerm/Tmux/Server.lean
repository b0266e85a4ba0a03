import LociTerm.Library.Table

/-!
# The tmux server

The part of a tmux server that the manager's commands observe: the live
sessions by name, the clients attached to each, and the `resize-window`
commands each has received since the `new-session` that created it.  Targets
are resolved as exact session names.
-/

namespace LociTerm
namespace Tmux

/-- The identity of the attach client that one attach call starts. -/
abbrev Handle := Nat

/-- Terminal dimensions, 16 bits each as in the control protocol. -/
structure Size where
  cols : UInt16
  rows : UInt16
  deriving DecidableEq

/-- One live session of the tmux server. -/
structure TmuxSession where
  /-- Which `new-session` created it. -/
  incarnation : Nat
  /-- The dimensions given to `new-session`. -/
  created : Size
  /-- The `resize-window` dimensions received since, newest first. -/
  resizes : List Size
  /-- The attach clients connected to it. -/
  clients : List Handle
  deriving DecidableEq

/-- The tmux server behind one socket label. -/
structure Server where
  live : Table String TmuxSession
  /-- How many `new-session` commands have succeeded so far. -/
  incarnations : Nat
  deriving DecidableEq

namespace Server

/-- A server without sessions. -/
def fresh : Server := ⟨Table.empty, 0⟩

/-- `has-session -t name` -/
def hasSession (server : Server) (name : String) : Bool :=
  (server.live.get? name).isSome

/-- `new-session -d -s name -x cols -y rows`; a duplicate name is an error. -/
def newSession (server : Server) (name : String) (size : Size) :
    Option Server :=
  if server.hasSession name then none
  else
    some
      { live := server.live.set name ⟨server.incarnations, size, [], []⟩
        incarnations := server.incarnations + 1 }

/-- `attach-session -t name`.  A client whose target is gone exits at once. -/
def attachSession (server : Server) (name : String) (client : Handle) :
    Server :=
  { server with
    live := server.live.modify name fun session =>
      { session with clients := client :: session.clients } }

/-- `resize-window -t name -x cols -y rows`; an unknown target is an error. -/
def resizeWindow (server : Server) (name : String) (size : Size) :
    Option Server :=
  match server.live.get? name with
  | none => none
  | some session =>
      some
        { server with
          live := server.live.set name
            { session with resizes := size :: session.resizes } }

/-- `kill-session -t name`, and equally the end of the session when its shell
exits. -/
def killSession (server : Server) (name : String) : Server :=
  { server with live := server.live.erase name }

/-- An attach client's process is gone. -/
def clientExits (server : Server) (client : Handle) : Server :=
  { server with
    live := server.live.mapWithKey fun _ session =>
      { session with clients := session.clients.filter (· ≠ client) } }

/-! ## Lookups -/

theorem hasSession_eq_false_iff (server : Server) (name : String) :
    server.hasSession name = false ↔ server.live.get? name = none := by
  simp [hasSession]

theorem newSession_eq_some
    {server next : Server}
    {name : String}
    {size : Size}
    (created : server.newSession name size = some next) :
    server.live.get? name = none ∧
      next = { live := server.live.set name ⟨server.incarnations, size, [], []⟩
               incarnations := server.incarnations + 1 } := by
  unfold newSession at created
  split at created
  · cases created
  · next absent =>
      refine ⟨?_, (Option.some.inj created).symm⟩
      simpa [hasSession] using absent

@[simp] theorem get?_attachSession
    (server : Server)
    (name other : String)
    (client : Handle) :
    (server.attachSession name client).live.get? other =
      if other = name then
        (server.live.get? other).map fun session =>
          { session with clients := client :: session.clients }
      else server.live.get? other :=
  Table.get?_modify server.live name other _

@[simp] theorem get?_killSession (server : Server) (name other : String) :
    (server.killSession name).live.get? other =
      if name = other then none else server.live.get? other :=
  Table.get?_erase server.live name other

@[simp] theorem get?_clientExits
    (server : Server)
    (client : Handle)
    (name : String) :
    (server.clientExits client).live.get? name =
      (server.live.get? name).map fun session =>
        { session with clients := session.clients.filter (· ≠ client) } :=
  Table.get?_mapWithKey server.live _ name

theorem resizeWindow_eq_some
    {server next : Server}
    {name : String}
    {size : Size}
    (resized : server.resizeWindow name size = some next) :
    ∃ session, server.live.get? name = some session ∧
      next = { server with
        live := server.live.set name
          { session with resizes := size :: session.resizes } } := by
  unfold resizeWindow at resized
  split at resized
  · cases resized
  · next session found =>
      exact ⟨session, found, (Option.some.inj resized).symm⟩

end Server
end Tmux
end LociTerm
