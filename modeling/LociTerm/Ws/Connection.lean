import LociTerm.Library.Run
import LociTerm.Tmux.Manager
import LociTerm.Ws.Protocol

/-!
# One terminal connection

`HandleTerminal` behind the upgrade, as a step relation over its three
goroutines: the handler itself, the pump from PTY to WebSocket and the reader of
the WebSocket.  A write takes the lock of `wsWriter`, its frame begins on the
wire and ends there, or the write fails before or within the frame; a frame that
stays incomplete leaves the connection broken.  Others may close the session at
any time.
-/

namespace LociTerm
namespace Ws

open Tmux (Handle)

/-- A frame from the server. -/
inductive ServerFrame
  | control (message : Protocol.ControlMessage)
  | binary (data : Bytes)
  deriving DecidableEq

/-- The wire carries a frame from one mark to the other. -/
inductive Mark
  | begins (frame : ServerFrame)
  | ends (frame : ServerFrame)
  deriving DecidableEq

/-- The frame that is sent with this mark. -/
def Mark.sent? : Mark → Option ServerFrame
  | begins _ => none
  | ends frame => some frame

/-- A call of `writer`. -/
inductive Write
  | error (message : String)
  | attached (recreated : Bool)
  | chunk (data : Bytes)
  | pong
  deriving DecidableEq

/-- The frame that a write puts on the wire. -/
def Write.frame : Write → ServerFrame
  | error message =>
      .control { Protocol.ControlMessage.zero with
        type := "error", message := message }
  | attached recreated =>
      .control { Protocol.ControlMessage.zero with
        type := "attached", shell := "tmux", recreated := recreated }
  | chunk data => .binary data
  | pong => .control { Protocol.ControlMessage.zero with type := "pong" }

/-- What `Attach` has returned. -/
structure Attached where
  handle : Handle
  session : Tmux.Session
  recreated : Bool
  deriving DecidableEq

/-- How far the handler has come. -/
inductive Main
  | attaching
  | refused (message : String)
  | announcing (recreated : Bool)
  /-- `<-done` -/
  | waiting
  /-- The deferred `Detach` is next. -/
  | detaching
  /-- The deferred `conn.Close` is next. -/
  | closing
  | returned
  deriving DecidableEq

/-- The end of a goroutine: its deferred `shutdown`. -/
inductive Phase
  | exiting
  /-- It runs the function of `once`. -/
  | shutting
  | done
  deriving DecidableEq

/-- A goroutine. -/
inductive Routine (task : Type)
  | unstarted
  | at (task : task)
  | ended (phase : Phase)
  deriving DecidableEq

/-- The step of `shutdown` that is next. -/
inductive Shutdown
  | closeDone
  | closeConn
  | closePTMX
  deriving DecidableEq

/-- `sync.Once` -/
inductive Once
  | idle
  | running (next : Shutdown)
  | finished
  deriving DecidableEq

/-- The two goroutines that end in a call of `shutdown`. -/
inductive Side
  | pump
  | reader
  deriving DecidableEq

/-- A connection with its session. -/
structure Connection where
  main : Main
  /-- The chunk that has been read and is to be written. -/
  pump : Routine (Option Bytes)
  /-- Whether a pong is to be written. -/
  reader : Routine Bool
  /-- What is being written under the lock of `wsWriter`. -/
  lock : Option Write
  once : Once
  /-- How often `done` has been closed. -/
  doneCloses : Nat
  socketOpen : Bool
  broken : Bool
  attached : Option Attached
  /-- The sessions that have been passed to `Detach`. -/
  detached : List Handle
  wire : List Mark
  /-- The bytes that `sess.Read` has returned. -/
  read : Bytes
  /-- The writes that have failed. -/
  failures : List Write
  deriving DecidableEq

/-- What happens to a connection. -/
inductive ConnectionAction
  | attach (attached : Attached)
  | attachFails (message : String)
  | begin (write : Write)
  /-- A write fails with nothing of its frame on the wire. -/
  | refuse (write : Write)
  | finish
  /-- A write fails within its frame. -/
  | fail
  /-- `sess.Read`, with bytes or with an error. -/
  | read (result : Option Bytes)
  /-- `conn.ReadMessage`, with a message or with an error. -/
  | receive (result : Option Protocol.Message)
  /-- A call of `shutdown`. -/
  | enter (side : Side)
  | shutdown (side : Side)
  | wake
  | detach
  | closeConn
  /-- `Session.Close` by another user of the manager. -/
  | closeElsewhere
  deriving DecidableEq

namespace Connection

/-- Behind the upgrade. -/
def start : Connection :=
  { main := .attaching
    pump := .unstarted
    reader := .unstarted
    lock := none
    once := .idle
    doneCloses := 0
    socketOpen := true
    broken := false
    attached := none
    detached := []
    wire := []
    read := []
    failures := [] }

/-- The frames that have been sent. -/
def frames (c : Connection) : List ServerFrame :=
  c.wire.filterMap Mark.sent?

/-- The bytes of the binary frames that have been sent. -/
def sentBytes (c : Connection) : Bytes :=
  c.frames.flatMap fun
    | .binary data => data
    | .control _ => []

/-- The bytes that the pump has read and not yet written. -/
def inHand (c : Connection) : Bytes :=
  match c.pump with
  | .at (some data) => data
  | _ => []

/-- A goroutine has come to this write. -/
def Wants (c : Connection) : Write → Prop
  | .error message => c.main = .refused message
  | .attached recreated => c.main = .announcing recreated
  | .chunk data => c.pump = .at (some data)
  | .pong => c.reader = .at true

instance (c : Connection) : ∀ write, Decidable (c.Wants write)
  | .error _ | .attached _ | .chunk _ | .pong =>
      inferInstanceAs (Decidable (_ = _))

/-- A write returns nil. -/
def sent (c : Connection) : Write → Connection
  | .error _ => { c with main := .closing }
  | .attached _ =>
      { c with main := .waiting, pump := .at none, reader := .at false }
  | .chunk _ => { c with pump := .at none }
  | .pong => { c with reader := .at false }

/-- A write returns an error. -/
def failed (c : Connection) (write : Write) : Connection :=
  let c := { c with failures := write :: c.failures }
  match write with
  | .error _ => { c with main := .closing }
  | .attached _ => { c with main := .detaching }
  | .chunk _ => { c with pump := .ended .exiting }
  | .pong => { c with reader := .ended .exiting }

/-- How far a goroutine has come that has left its loop. -/
def phase? (c : Connection) : Side → Option Phase
  | .pump =>
      match c.pump with
      | .ended phase => some phase
      | _ => none
  | .reader =>
      match c.reader with
      | .ended phase => some phase
      | _ => none

/-- A goroutine that has left its loop goes on. -/
def setPhase (c : Connection) (phase : Phase) : Side → Connection
  | .pump => { c with pump := .ended phase }
  | .reader => { c with reader := .ended phase }

/-- A method of the session. -/
def onSession
    (c : Connection)
    (method : Tmux.Session → Tmux.Session) : Connection :=
  { c with
    attached := c.attached.map fun attached =>
      { attached with session := method attached.session } }

/-- A message of the client.  `sess.Write` and `Manager.Resize` do nothing to
the connection. -/
def received (c : Connection) (message : Protocol.Message) : Connection :=
  match Protocol.react message with
  | .pong => { c with reader := .at true }
  | .resize cols rows => c.onSession (·.resize ⟨cols, rows⟩)
  | .write _ | .nothing => c

/-- One step of `shutdown`. -/
def shut (c : Connection) (side : Side) : Shutdown → Connection
  | .closeDone =>
      { c with doneCloses := c.doneCloses + 1, once := .running .closeConn }
  | .closeConn => { c with socketOpen := false, once := .running .closePTMX }
  | .closePTMX =>
      { (c.onSession (·.closePTMX)).setPhase .done side with once := .finished }

/-- The step relation. -/
def step (c : Connection) : ConnectionAction → Option Connection
  | .attach attached =>
      -- A session that `Attach` returns is open.
      if c.main = .attaching ∧ attached.session.ptmxOpen ∧
          attached.session.closed = false then
        some { c with
          main := .announcing attached.recreated
          attached := some attached }
      else none
  | .attachFails message =>
      if c.main = .attaching then some { c with main := .refused message }
      else none
  | .begin write =>
      if c.lock = none ∧ c.Wants write ∧ c.socketOpen ∧ c.broken = false then
        some { c with
          lock := some write
          wire := c.wire ++ [.begins write.frame] }
      else none
  | .refuse write =>
      if c.lock = none ∧ c.Wants write then some (c.failed write) else none
  | .finish =>
      c.lock.map fun write =>
        { c.sent write with
          lock := none
          wire := c.wire ++ [.ends write.frame] }
  | .fail =>
      c.lock.map fun write => { c.failed write with lock := none, broken := true }
  | .read result =>
      if c.pump = .at none then
        match result with
        | some [] => none
        | some data =>
            some { c with pump := .at (some data), read := c.read ++ data }
        | none => some { c with pump := .ended .exiting }
      else none
  | .receive result =>
      if c.reader = .at false then
        match result with
        | some message => some (c.received message)
        | none => some { c with reader := .ended .exiting }
      else none
  | .enter side =>
      if c.phase? side = some .exiting then
        match c.once with
        | .idle =>
            some { c.setPhase .shutting side with once := .running .closeDone }
        | .finished => some (c.setPhase .done side)
        -- `once.Do` waits for the call that is running.
        | .running _ => none
      else none
  | .shutdown side =>
      match c.phase? side, c.once with
      | some .shutting, .running next => some (c.shut side next)
      | _, _ => none
  | .wake =>
      if c.main = .waiting ∧ 0 < c.doneCloses then
        some { c with main := .detaching }
      else none
  | .detach =>
      if c.main = .detaching then
        some { c.onSession (·.close) with
          main := .closing
          detached := c.attached.toList.map (·.handle) ++ c.detached }
      else none
  | .closeConn =>
      if c.main = .closing then
        some { c with main := .returned, socketOpen := false }
      else none
  | .closeElsewhere => some (c.onSession (·.close))

end Connection

/-! ## The moves of a connection -/

/-- A method of the session that leaves a closed PTY closed, and a closed
session with a closed PTY. -/
structure KeepsShut (method : Tmux.Session → Tmux.Session) : Prop where
  pty : ∀ session, session.ptmxOpen = false →
    (method session).ptmxOpen = false
  closed : ∀ session, (session.closed = true → session.ptmxOpen = false) →
    (method session).closed = true → (method session).ptmxOpen = false

namespace KeepsShut

theorem resize (size : Tmux.Size) : KeepsShut (·.resize size) where
  pty := fun _ shut => shut
  closed := fun _ shut => shut

theorem close : KeepsShut (·.close) where
  pty := fun session shut => by
    unfold Tmux.Session.close
    split
    · exact shut
    · rfl
  closed := fun session shut closed => by
    unfold Tmux.Session.close at closed ⊢
    split
    · next already => exact shut already
    · rfl

theorem closePTMX : KeepsShut (·.closePTMX) where
  pty := fun session shut => by
    unfold Tmux.Session.closePTMX
    split
    · exact shut
    · rfl
  closed := fun session shut closed => by
    unfold Tmux.Session.closePTMX at closed ⊢
    split
    · next already => exact shut already
    · rfl

end KeepsShut

namespace Connection

/-- What the steps of a connection do. -/
inductive Moves (c : Connection) : Connection → Prop
  | attach
      (attached : Attached)
      (stage : c.main = .attaching)
      (opened : attached.session.ptmxOpen = true)
      (unclosed : attached.session.closed = false) :
      Moves c { c with
        main := .announcing attached.recreated
        attached := some attached }
  | attachFails (message : String) (stage : c.main = .attaching) :
      Moves c { c with main := .refused message }
  | begin
      (write : Write)
      (free : c.lock = none)
      (wants : c.Wants write)
      (whole : c.broken = false) :
      Moves c { c with
        lock := some write
        wire := c.wire ++ [.begins write.frame] }
  | refuse (write : Write) (free : c.lock = none) (wants : c.Wants write) :
      Moves c (c.failed write)
  | finish (write : Write) (holds : c.lock = some write) :
      Moves c { c.sent write with
        lock := none
        wire := c.wire ++ [.ends write.frame] }
  | fail (write : Write) (holds : c.lock = some write) :
      Moves c { c.failed write with lock := none, broken := true }
  | read (data : Bytes) (idle : c.pump = .at none) :
      Moves c { c with pump := .at (some data), read := c.read ++ data }
  | readFails (idle : c.pump = .at none) :
      Moves c { c with pump := .ended .exiting }
  | ping (idle : c.reader = .at false) : Moves c { c with reader := .at true }
  | receiveFails (idle : c.reader = .at false) :
      Moves c { c with reader := .ended .exiting }
  | onSession
      (method : Tmux.Session → Tmux.Session)
      (keeps : KeepsShut method) :
      Moves c (c.onSession method)
  | nothing : Moves c c
  | enterFirst
      (side : Side)
      (ending : c.phase? side = some .exiting)
      (first : c.once = .idle) :
      Moves c { c.setPhase .shutting side with once := .running .closeDone }
  | enterLater
      (side : Side)
      (ending : c.phase? side = some .exiting)
      (later : c.once = .finished) :
      Moves c (c.setPhase .done side)
  | shut
      (side : Side)
      (next : Shutdown)
      (ending : c.phase? side = some .shutting)
      (running : c.once = .running next) :
      Moves c (c.shut side next)
  | wake (stage : c.main = .waiting) (closed : 0 < c.doneCloses) :
      Moves c { c with main := .detaching }
  | detach (stage : c.main = .detaching) :
      Moves c { c.onSession (·.close) with
        main := .closing
        detached := c.attached.toList.map (·.handle) ++ c.detached }
  | closeConn (stage : c.main = .closing) :
      Moves c { c with main := .returned, socketOpen := false }

theorem moves_received
    {c : Connection}
    (idle : c.reader = .at false)
    (message : Protocol.Message) :
    c.Moves (c.received message) := by
  unfold received
  cases Protocol.react message with
  | pong => exact .ping idle
  | resize cols rows => exact .onSession _ (.resize ⟨cols, rows⟩)
  | write data => exact .nothing
  | nothing => exact .nothing

/-- Every step is one of the moves. -/
theorem moves_of_step
    {c next : Connection}
    {action : ConnectionAction}
    (stepped : c.step action = some next) :
    c.Moves next := by
  cases action with
  | attach attached =>
      simp only [step, Option.ite_none_right_eq_some, Option.some.injEq]
        at stepped
      obtain ⟨⟨stage, opened, unclosed⟩, rfl⟩ := stepped
      exact .attach attached stage opened unclosed
  | attachFails message =>
      simp only [step, Option.ite_none_right_eq_some, Option.some.injEq]
        at stepped
      obtain ⟨stage, rfl⟩ := stepped
      exact .attachFails message stage
  | begin write =>
      simp only [step, Option.ite_none_right_eq_some, Option.some.injEq]
        at stepped
      obtain ⟨⟨free, wants, _, whole⟩, rfl⟩ := stepped
      exact .begin write free wants whole
  | refuse write =>
      simp only [step, Option.ite_none_right_eq_some, Option.some.injEq]
        at stepped
      obtain ⟨⟨free, wants⟩, rfl⟩ := stepped
      exact .refuse write free wants
  | finish =>
      obtain ⟨write, holds, rfl⟩ := Option.map_eq_some_iff.mp stepped
      exact .finish write holds
  | fail =>
      obtain ⟨write, holds, rfl⟩ := Option.map_eq_some_iff.mp stepped
      exact .fail write holds
  | read result =>
      simp only [step, Option.ite_none_right_eq_some] at stepped
      obtain ⟨idle, taken⟩ := stepped
      split at taken
      · cases taken
      · cases taken
        exact .read _ idle
      · cases taken
        exact .readFails idle
  | receive result =>
      simp only [step, Option.ite_none_right_eq_some] at stepped
      obtain ⟨idle, taken⟩ := stepped
      split at taken
      · cases taken
        exact moves_received idle _
      · cases taken
        exact .receiveFails idle
  | enter side =>
      simp only [step, Option.ite_none_right_eq_some] at stepped
      obtain ⟨ending, taken⟩ := stepped
      split at taken
      · next first =>
          cases taken
          exact .enterFirst side ending first
      · next later =>
          cases taken
          exact .enterLater side ending later
      · cases taken
  | shutdown side =>
      simp only [step] at stepped
      split at stepped
      · next next ending running =>
          cases stepped
          exact .shut side next ending running
      · cases stepped
  | wake =>
      simp only [step, Option.ite_none_right_eq_some, Option.some.injEq]
        at stepped
      obtain ⟨⟨stage, closed⟩, rfl⟩ := stepped
      exact .wake stage closed
  | detach =>
      simp only [step, Option.ite_none_right_eq_some, Option.some.injEq]
        at stepped
      obtain ⟨stage, rfl⟩ := stepped
      exact .detach stage
  | closeConn =>
      simp only [step, Option.ite_none_right_eq_some, Option.some.injEq]
        at stepped
      obtain ⟨stage, rfl⟩ := stepped
      exact .closeConn stage
  | closeElsewhere =>
      cases stepped
      exact .onSession _ .close

end Connection

end Ws
end LociTerm
