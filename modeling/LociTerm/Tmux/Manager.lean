import LociTerm.Tmux.Server

/-!
# The tmux manager

`Manager` keeps one attach client per session id in a map and remembers the
last size it sent to tmux for each id.  A host is a manager together with the
`Session` objects it has created and the tmux server it talks to.

Every operation but `KillSession` runs its whole body under the manager's
mutex.  The operations are given as functions on hosts; `Attach` and
`KillSession`, whose tmux commands other goroutines can observe separately,
are composed from the steps between those commands.
-/

namespace LociTerm
namespace Tmux

/-- `sessionPrefix` -/
def sessionPrefix : String := "lt_"

/-- The tmux session name of a session id. -/
def tmuxName (id : String) : String := sessionPrefix ++ id

theorem tmuxName_injective : Function.Injective tmuxName := by
  intro left right equal
  exact (String.append_right_inj sessionPrefix).mp equal

@[simp] theorem tmuxName_inj {left right : String} :
    tmuxName left = tmuxName right ↔ left = right :=
  tmuxName_injective.eq_iff

/-! ## Attach clients -/

/-- A `Session`: one tmux attach client on a pty. -/
structure Session where
  name : String
  /-- The pty's window size. -/
  winsize : Size
  ptmxOpen : Bool
  closed : Bool
  /-- How often `cmd.Process.Kill` has run. -/
  kills : Nat
  /-- How often `cmd.Wait` has reaped the process. -/
  waits : Nat
  /-- The tmux session incarnation the client joined, if its target was still
  alive when it started. -/
  incarnation : Option Nat
  deriving DecidableEq

namespace Session

/-- `Session.Resize` -/
def resize (session : Session) (size : Size) : Session :=
  { session with winsize := size }

/-- `Session.Close`: close the pty, kill the client and reap it, once. -/
def close (session : Session) : Session :=
  if session.closed then session
  else
    { session with
      closed := true
      ptmxOpen := false
      kills := session.kills + 1
      waits := session.waits + 1 }

/-- `Session.ClosePTMX`: close only the pty side. -/
def closePTMX (session : Session) : Session :=
  if session.closed then session else { session with ptmxOpen := false }

@[simp] theorem closed_close (session : Session) :
    session.close.closed = true := by
  unfold close
  split <;> simp_all

@[simp] theorem close_close (session : Session) :
    session.close.close = session.close := by
  rw [close, if_pos session.closed_close]

@[simp] theorem name_close (session : Session) :
    session.close.name = session.name := by
  unfold close
  split <;> rfl

theorem ptmxOpen_close
    {session : Session}
    (lost : session.closed = false ∨ session.ptmxOpen = false) :
    session.close.ptmxOpen = false := by
  unfold close
  split
  · rename_i closed
    rcases lost with running | lost
    · rw [running] at closed
      cases closed
    · exact lost
  · rfl

@[simp] theorem closed_closePTMX (session : Session) :
    session.closePTMX.closed = session.closed := by
  unfold closePTMX
  split <;> rfl

@[simp] theorem name_closePTMX (session : Session) :
    session.closePTMX.name = session.name := by
  unfold closePTMX
  split <;> rfl

end Session

/-! ## Hosts -/

/-- The fields of `Manager` that its operations change. -/
structure Manager where
  sessions : Table String Handle
  lastSize : Table String Size
  deriving DecidableEq

/-- A manager, the `Session` objects created so far and the tmux server. -/
structure Host extends Manager where
  heap : Table Handle Session
  server : Server
  deriving DecidableEq

/-- Which of the commands of one `Attach` call fail for reasons of their own. -/
structure AttachFaults where
  newSession : Bool
  start : Bool
  deriving DecidableEq

/-- One call of `Attach`, with the identity of the `Session` it would create. -/
structure AttachCall where
  handle : Handle
  id : String
  size : Size
  faults : AttachFaults
  deriving DecidableEq

/-- `AttachResult` -/
structure AttachResult where
  session : Handle
  recreated : Bool
  deriving DecidableEq

namespace Host

/-- `NewManager` on a tmux server that may have sessions already. -/
def newManager (server : Server) : Host :=
  { sessions := Table.empty
    lastSize := Table.empty
    heap := Table.empty
    server := server }

/-- `Session.Close` of one `Session` object. -/
def close (host : Host) (client : Handle) : Host :=
  match host.heap.get? client with
  | none => host
  | some session =>
      if session.closed then host
      else
        { host with
          heap := host.heap.set client session.close
          server := host.server.clientExits client }

/-- `Session.ClosePTMX` of one `Session` object. -/
def closePTMX (host : Host) (client : Handle) : Host :=
  { host with heap := host.heap.modify client Session.closePTMX }

/-- `Session.Resize` of one `Session` object. -/
def resizePTY (host : Host) (client : Handle) (size : Size) : Host :=
  { host with
    heap := host.heap.modify client fun session => session.resize size }

/-- `tmuxSessionExists` -/
def tmuxSessionExists (host : Host) (id : String) : Bool :=
  host.server.hasSession (tmuxName id)

/-- The `new-session` command of `Attach`. -/
def attachCreate (host : Host) (call : AttachCall) : Option Host :=
  if call.faults.newSession then none
  else
    (host.server.newSession (tmuxName call.id) call.size).map fun server =>
      { host with server := server }

/-- `newSession`: start an attach client on a pty. -/
def newSession (host : Host) (call : AttachCall) : Option Host :=
  if call.faults.start then none
  else
    some
      { host with
        heap := host.heap.set call.handle
          { name := tmuxName call.id
            winsize := call.size
            ptmxOpen := true
            closed := false
            kills := 0
            waits := 0
            incarnation :=
              (host.server.live.get? (tmuxName call.id)).map
                TmuxSession.incarnation }
        server := host.server.attachSession (tmuxName call.id) call.handle }

/-- The end of `Attach`: close a prior client of the id and take the slot. -/
def attachPublish (host : Host) (call : AttachCall) : Host :=
  let host := match host.sessions.get? call.id with
    | some prior => host.close prior
    | none => host
  { host with sessions := host.sessions.set call.id call.handle }

/-- `Attach` once the tmux session is known to exist. -/
def attachExisting (host : Host) (call : AttachCall) (recreated : Bool) :
    Host × Option AttachResult :=
  match host.newSession call with
  | none => (host, none)
  | some started =>
      (started.attachPublish call, some ⟨call.handle, recreated⟩)

/-- `Attach` once `has-session` has answered. -/
def attachChecked (host : Host) (call : AttachCall) (found : Bool) :
    Host × Option AttachResult :=
  if found then host.attachExisting call false
  else
    match host.attachCreate call with
    | none => (host, none)
    | some created => created.attachExisting call true

/-- `Manager.Attach` -/
def attach (host : Host) (call : AttachCall) : Host × Option AttachResult :=
  host.attachChecked call (host.tmuxSessionExists call.id)

/-- `Manager.Detach` -/
def detach (host : Host) (id : String) : Option Handle → Host
  | none => host
  | some client =>
      let host :=
        if host.sessions.get? id = some client then
          { host with sessions := host.sessions.erase id }
        else host
      host.close client

/-- `Manager.Resize`; the flag says whether it returned nil.  `fails` is a
`resize-window` command that fails for reasons of its own. -/
def resize (host : Host) (id : String) (size : Size) (fails : Bool) :
    Host × Bool :=
  if host.lastSize.get? id = some size then (host, true)
  else if fails then (host, false)
  else
    match host.server.resizeWindow (tmuxName id) size with
    | none => (host, false)
    | some server =>
        ({ host with
            server := server
            lastSize := host.lastSize.set id size }, true)

/-- The part of `KillSession` under the mutex. -/
def killLocked (host : Host) (id : String) : Host :=
  let host := match host.sessions.get? id with
    | some client =>
        let host := host.close client
        { host with sessions := host.sessions.erase id }
    | none => host
  { host with lastSize := host.lastSize.erase id }

/-- The `kill-session` command, which `KillSession` runs without the mutex. -/
def killTmux (host : Host) (id : String) : Host :=
  { host with server := host.server.killSession (tmuxName id) }

/-- `Manager.KillSession` -/
def killSession (host : Host) (id : String) : Host :=
  (host.killLocked id).killTmux id

/-- One iteration of the loop of `Manager.Shutdown`. -/
def shutdownOne (host : Host) (entry : String × Handle) : Host :=
  let host := host.close entry.2
  { host with sessions := host.sessions.erase entry.1 }

/-- `Manager.Shutdown` -/
def shutdown (host : Host) : Host :=
  host.sessions.entries.foldl shutdownOne host

/-! ## What `close` does -/

@[simp] theorem sessions_close (host : Host) (client : Handle) :
    (host.close client).sessions = host.sessions := by
  unfold close
  split
  · rfl
  · split <;> rfl

@[simp] theorem lastSize_close (host : Host) (client : Handle) :
    (host.close client).lastSize = host.lastSize := by
  unfold close
  split
  · rfl
  · split <;> rfl

theorem get?_heap_close (host : Host) (client other : Handle) :
    (host.close client).heap.get? other =
      if other = client then (host.heap.get? other).map Session.close
      else host.heap.get? other := by
  unfold close
  by_cases same : other = client
  · subst same
    cases found : host.heap.get? other with
    | none => simp [found]
    | some session =>
        by_cases closed : session.closed = true
        · simp [found, closed, Session.close]
        · simp [closed]
  · split
    · simp [same]
    · split
      · simp
      · simp [Table.get?_set_of_ne _ _ (Ne.symm same)]

theorem get?_live_close
    (host : Host)
    (client : Handle)
    (name : String) :
    (host.close client).server.live.get? name =
      if (host.heap.get? client).any fun session => !session.closed then
        (host.server.clientExits client).live.get? name
      else host.server.live.get? name := by
  unfold close
  cases found : host.heap.get? client with
  | none => simp
  | some session => cases closed : session.closed <;> simp [closed]

/-- Closing a client changes no session but that client's list entries. -/
theorem isSome_live_close
    (host : Host)
    (client : Handle)
    (name : String) :
    ((host.close client).server.live.get? name).isSome =
      (host.server.live.get? name).isSome := by
  rw [get?_live_close]
  split <;> simp

@[simp] theorem incarnations_close (host : Host) (client : Handle) :
    (host.close client).server.incarnations = host.server.incarnations := by
  unfold close
  split
  · rfl
  · split <;> rfl

/-! ## How `Resize` ends -/

/-- `Resize` is skipped, fails or is sent. -/
theorem resize_cases
    (host : Host)
    (id : String)
    (size : Size)
    (fails : Bool) :
    (host.lastSize.get? id = some size ∧
        host.resize id size fails = (host, true)) ∨
      (host.lastSize.get? id ≠ some size ∧
        host.resize id size fails = (host, false)) ∨
      (host.lastSize.get? id ≠ some size ∧ fails = false ∧
        ∃ session, host.server.live.get? (tmuxName id) = some session ∧
          host.resize id size fails =
            ({ host with
                server := { host.server with
                  live := host.server.live.set (tmuxName id)
                    { session with resizes := size :: session.resizes } }
                lastSize := host.lastSize.set id size }, true)) := by
  unfold resize
  by_cases cached : host.lastSize.get? id = some size
  · simp [cached]
  · cases fails with
    | true => simp [cached]
    | false =>
        cases sent : host.server.resizeWindow (tmuxName id) size with
        | none => simp [cached]
        | some server =>
            obtain ⟨session, live, rfl⟩ :=
              Server.resizeWindow_eq_some sent
            refine Or.inr (Or.inr ⟨cached, rfl, session, live, ?_⟩)
            simp [cached]

/-! ## What a kill clears -/

theorem get?_sessions_killLocked (host : Host) (id other : String) :
    (host.killLocked id).sessions.get? other =
      if id = other then none else host.sessions.get? other := by
  unfold killLocked
  split
  · simp [Table.get?_erase]
  · next absent =>
      by_cases same : id = other
      · simp [← same, absent]
      · simp [same]

theorem lastSize_killLocked (host : Host) (id : String) :
    (host.killLocked id).lastSize = host.lastSize.erase id := by
  unfold killLocked
  split <;> simp

/-! ## What the parts of `Attach` do -/

/-- `new-session` works only when there is no tmux session of the name. -/
theorem attachCreate_eq_some
    {host created : Host}
    {call : AttachCall}
    (succeeded : host.attachCreate call = some created) :
    call.faults.newSession = false ∧
      host.server.live.get? (tmuxName call.id) = none ∧
      created = { host with
        server :=
          { live := host.server.live.set (tmuxName call.id)
              ⟨host.server.incarnations, call.size, [], []⟩
            incarnations := host.server.incarnations + 1 } } := by
  unfold attachCreate at succeeded
  split at succeeded
  · cases succeeded
  · next works =>
      obtain ⟨server, new, rfl⟩ := Option.map_eq_some_iff.mp succeeded
      obtain ⟨absent, rfl⟩ := Server.newSession_eq_some new
      exact ⟨by simpa using works, absent, rfl⟩

theorem sessions_attachPublish (host : Host) (call : AttachCall) :
    (host.attachPublish call).sessions =
      host.sessions.set call.id call.handle := by
  unfold attachPublish
  split <;> simp

theorem get?_heap_attachPublish
    (host : Host)
    (call : AttachCall)
    (other : Handle) :
    (host.attachPublish call).heap.get? other =
      if host.sessions.get? call.id = some other then
        (host.heap.get? other).map Session.close
      else host.heap.get? other := by
  unfold attachPublish
  cases found : host.sessions.get? call.id with
  | none => simp
  | some prior =>
      simp only [get?_heap_close, Option.some.injEq]
      by_cases same : prior = other
      · simp [same]
      · simp [same, Ne.symm same]

/-- When no command fails, `Attach` starts a client on an open pty and takes
the slot. -/
theorem attach_of_no_faults
    (host : Host)
    (call : AttachCall)
    (works : call.faults = ⟨false, false⟩) :
    ∃ (started : Host) (recreated : Bool) (session : Session),
      host.attach call =
          (started.attachPublish call, some ⟨call.handle, recreated⟩) ∧
        started.sessions = host.sessions ∧
        started.heap = host.heap.set call.handle session ∧
        session.closed = false ∧ session.ptmxOpen = true := by
  have starts (created : Host) (recreated : Bool) :
      ∃ (started : Host) (session : Session),
        created.attachExisting call recreated =
            (started.attachPublish call, some ⟨call.handle, recreated⟩) ∧
          started.sessions = created.sessions ∧
          started.heap = created.heap.set call.handle session ∧
          session.closed = false ∧ session.ptmxOpen = true := by
    simp only [attachExisting, newSession, works]
    exact ⟨_, _, rfl, rfl, rfl, rfl, rfl⟩
  unfold attach attachChecked
  split
  · obtain ⟨started, session, attached, rest⟩ := starts host false
    exact ⟨started, false, session, attached, rest⟩
  · rename_i missing
    have absent : host.server.hasSession (tmuxName call.id) = false := by
      simpa [tmuxSessionExists] using missing
    simp only [attachCreate, works, Server.newSession, absent]
    obtain ⟨started, session, attached, sessions, heap, rest⟩ := starts _ true
    exact ⟨started, true, session, attached, sessions, heap, rest⟩

theorem lastSize_attachPublish (host : Host) (call : AttachCall) :
    (host.attachPublish call).lastSize = host.lastSize := by
  unfold attachPublish
  split <;> simp

end Host
end Tmux
end LociTerm
