import LociTerm.Tmux.Ownership
import LociTerm.Ws.WindDown

/-!
# All terminal handlers at one manager

Any number of `HandleTerminal` calls share one manager.  Each of them has a
connection whose session is the object that its `Attach` has returned, so that
whatever closes this object closes the session of the connection.  To one
handler the others are no more than somebody who may close its session.
-/

namespace LociTerm
namespace Ws

open Tmux

namespace Connection

/-- What an action does to the session of the connection. -/
def method (c : Connection) : ConnectionAction → Session → Session
  | .detach => Session.close
  | .shutdown _ =>
      if c.once = .running .closePTMX then Session.closePTMX else id
  | .receive (some message) =>
      match Protocol.react message with
      | .resize cols rows => (·.resize ⟨cols, rows⟩)
      | .write _ | .pong | .nothing => id
  | _ => id

/-- The session that an action passes to `Detach`. -/
def given (c : Connection) : ConnectionAction → List Handle
  | .detach => c.attached.toList.map (·.handle)
  | _ => []

/-- The call of the manager or of the session that an action makes. -/
def call (c : Connection) (id : String) (client : Handle) :
    ConnectionAction → Option Action
  | .detach => some (.detach id client)
  | .shutdown _ =>
      if c.once = .running .closePTMX then some (.closePTMX client) else none
  | .receive (some message) =>
      match Protocol.react message with
      | .resize cols rows => some (.resizePTY client ⟨cols, rows⟩)
      | .write _ | .pong | .nothing => none
  | _ => none

end Connection

/-- The step is taken by `Attach`, or by somebody else. -/
def ConnectionAction.foreign : ConnectionAction → Bool
  | .attach _ | .attachFails _ | .closeElsewhere => true
  | _ => false

/-- The terminal handlers with their manager. -/
structure TerminalServer where
  manager : Interleaved
  /-- The handlers by their attach clients, with their session ids. -/
  lines : Table Handle (String × Connection)

/-- A step of a handler or of the manager. -/
inductive ServerAction
  /-- A handler calls `Attach` and gets the mutex. -/
  | connect (client : Handle) (id : String) (faults : AttachFaults)
  /-- `Attach` goes on; the message is that of its error if it fails. -/
  | attachStep (message : String)
  | handler (client : Handle) (action : ConnectionAction)
  /-- Another user of the manager, or the tmux server. -/
  | manager (action : Action)

/-- Whoever attaches to the same id, kills it or shuts the manager down takes a
client away from its handler. -/
def ServerAction.Disturbs (id : String) (client : Handle) : ServerAction → Prop
  | .connect other theirs _ => theirs = id ∧ other ≠ client
  | .manager (.killLock theirs) => theirs = id
  | .manager .shutdown => True
  | _ => False

/-- The step that the handler of a client takes. -/
def ServerAction.of? (client : Handle) : ServerAction → Option ConnectionAction
  | .handler other action => if other = client then some action else none
  | .connect _ _ _ | .attachStep _ | .manager _ => none

namespace TerminalServer

/-- The session of a connection is the object on the heap. -/
def refresh
    (host : Host)
    (client : Handle)
    (line : String × Connection) : String × Connection :=
  (line.1, line.2.onSession ((host.heap.get? client).getD ·))

/-- What other users do.  `Manager.Resize` is called by handlers as well, after
they have resized the session. -/
def Permits : Action → Prop
  | .resize _ _ _ | .killLock _ | .killTmux _ | .shutdown | .sessionEnds _ =>
      True
  | .attachLock _ | .attachStep | .detach _ _ | .resizePTY _ _ | .closePTMX _ =>
      False

instance : ∀ action, Decidable (Permits action)
  | .resize _ _ _ | .killLock _ | .killTmux _ | .shutdown | .sessionEnds _ =>
      isTrue trivial
  | .attachLock _ | .attachStep | .detach _ _ | .resizePTY _ _ | .closePTMX _ =>
      isFalse id

/-- What the handler gets once its `Attach` has come so far. -/
def reply (manager : Interleaved) (message : String) :
    Progress → Option ConnectionAction
  | .started call recreated =>
      (manager.host.heap.get? call.handle).map fun session =>
        .attach ⟨call.handle, session, recreated⟩
  | .checked _ _ | .existing _ _ =>
      if manager.holder = none then some (.attachFails message) else none

/-- No handler yet. -/
def start (server : Server) : TerminalServer :=
  ⟨Interleaved.start server, Table.empty⟩

/-- Put a connection into its place. -/
def withLine
    (server : TerminalServer)
    (manager : Interleaved)
    (client : Handle)
    (line : String × Connection) : TerminalServer :=
  ⟨manager, (server.lines.set client line).mapWithKey (refresh manager.host)⟩

/-- The step relation. -/
def step (server : TerminalServer) : ServerAction → Option TerminalServer
  | .connect client id faults =>
      -- An empty id is answered with 400 before the upgrade.
      if id = "" ∨ (server.lines.get? client).isSome then none
      else
        (server.manager.step
          (.attachLock ⟨client, id, ⟨120, 40⟩, faults⟩)).map fun manager =>
            server.withLine manager client (id, .start)
  | .attachStep message =>
      server.manager.holder.bind fun progress =>
        let manager := server.manager.advance progress
        let client := progress.call.handle
        (server.lines.get? client).bind fun line =>
          ((reply manager message progress).elim (some line.2)
            line.2.step).map fun next =>
              server.withLine manager client (line.1, next)
  | .handler client action =>
      if action.foreign then none
      else
        (server.lines.get? client).bind fun line =>
          ((line.2.call line.1 client action).elim (some server.manager)
            server.manager.step).bind fun manager =>
              (line.2.step action).map fun next =>
                server.withLine manager client (line.1, next)
  | .manager action =>
      if Permits action then
        (server.manager.step action).map fun manager =>
          ⟨manager, server.lines.mapWithKey (refresh manager.host)⟩
      else none

end TerminalServer

/-! ## What a step does to a session -/

namespace Connection

theorem onSession_of_fixed
    {c : Connection}
    {method : Session → Session}
    (fixed : ∀ attached, c.attached = some attached →
      method attached.session = attached.session) :
    c.onSession method = c := by
  unfold onSession
  cases found : c.attached with
  | none => rw [Option.map_none, ← found]
  | some attached => rw [Option.map_some, fixed attached found, ← found]

theorem onSession_congr
    {c : Connection}
    {method other : Session → Session}
    (agree : ∀ attached, c.attached = some attached →
      method attached.session = other attached.session) :
    c.onSession method = c.onSession other := by
  unfold onSession
  cases found : c.attached with
  | none => rfl
  | some attached => rw [Option.map_some, Option.map_some, agree attached found]

@[simp] theorem onSession_id (c : Connection) : c.onSession id = c :=
  onSession_of_fixed fun _ _ => rfl

/-- A step of the handler does to its session what its method says, and nothing
else. -/
theorem session_step
    {c next : Connection}
    {action : ConnectionAction}
    (native : action.foreign = false)
    (stepped : c.step action = some next) :
    next.attached = (c.onSession (c.method action)).attached ∧
      next.detached = c.given action ++ c.detached := by
  have same : (c.onSession id).attached = c.attached := by rw [onSession_id]
  cases action with
  | attach | attachFails | closeElsewhere => cases native
  | begin write =>
      simp only [step, Option.ite_none_right_eq_some, Option.some.injEq]
        at stepped
      obtain ⟨_, rfl⟩ := stepped
      exact ⟨same.symm, rfl⟩
  | refuse write =>
      simp only [step, Option.ite_none_right_eq_some, Option.some.injEq]
        at stepped
      obtain ⟨_, rfl⟩ := stepped
      cases write <;> exact ⟨same.symm, rfl⟩
  | finish =>
      obtain ⟨write, _, rfl⟩ := Option.map_eq_some_iff.mp stepped
      cases write <;> exact ⟨same.symm, rfl⟩
  | fail =>
      obtain ⟨write, _, rfl⟩ := Option.map_eq_some_iff.mp stepped
      cases write <;> exact ⟨same.symm, rfl⟩
  | read result =>
      simp only [step, Option.ite_none_right_eq_some] at stepped
      obtain ⟨_, taken⟩ := stepped
      split at taken <;> cases taken <;> exact ⟨same.symm, rfl⟩
  | receive result =>
      simp only [step, Option.ite_none_right_eq_some] at stepped
      obtain ⟨_, taken⟩ := stepped
      split at taken
      · next message =>
          cases taken
          simp only [received, method]
          cases Protocol.react message with
          | resize cols rows => exact ⟨rfl, rfl⟩
          | write data | pong | nothing => exact ⟨same.symm, rfl⟩
      · cases taken
        exact ⟨same.symm, rfl⟩
  | enter side =>
      simp only [step, Option.ite_none_right_eq_some] at stepped
      obtain ⟨_, taken⟩ := stepped
      split at taken <;> cases taken <;> cases side <;> exact ⟨same.symm, rfl⟩
  | shutdown side =>
      simp only [step] at stepped
      split at stepped
      · next next _ running =>
          cases stepped
          cases next <;> simp [method, given, running, shut]
          cases side <;> exact ⟨rfl, rfl⟩
      · cases stepped
  | wake =>
      simp only [step, Option.ite_none_right_eq_some, Option.some.injEq]
        at stepped
      obtain ⟨_, rfl⟩ := stepped
      exact ⟨same.symm, rfl⟩
  | detach =>
      simp only [step, Option.ite_none_right_eq_some, Option.some.injEq]
        at stepped
      obtain ⟨_, rfl⟩ := stepped
      exact ⟨rfl, rfl⟩
  | closeConn =>
      simp only [step, Option.ite_none_right_eq_some, Option.some.injEq]
        at stepped
      obtain ⟨_, rfl⟩ := stepped
      exact ⟨same.symm, rfl⟩

theorem mem_given
    {c : Connection}
    {action : ConnectionAction}
    {handle : Handle}
    (member : handle ∈ c.given action) :
    action = .detach ∧
      ∃ attached, c.attached = some attached ∧ attached.handle = handle := by
  cases action with
  | detach =>
      obtain ⟨attached, found, rfl⟩ := List.mem_map.mp member
      exact ⟨rfl, attached, Option.mem_toList.mp found, rfl⟩
  | _ => cases member

/-- Before `Attach` has returned, a handler does nothing. -/
theorem stuck_of_attaching
    {c : Connection}
    (sound : c.Sound)
    (attaching : c.main = .attaching)
    {action : ConnectionAction}
    (native : action.foreign = false) :
    c.step action = none := by
  have pump := sound.opened.unattached (sound.opened.attaching attaching).1
  have reader := sound.opened.both.mp pump
  have unwritten : ∀ write, ¬c.Wants write := by
    intro write
    cases write <;> simp [Wants, attaching, pump, reader]
  have unlocked : c.lock = none := by
    cases holds : c.lock with
    | none => rfl
    | some write => exact absurd (sound.held write holds) (unwritten write)
  have running : ∀ side, c.phase? side = none := by
    intro side
    cases side <;> simp [phase?, pump, reader]
  cases action with
  | attach | attachFails | closeElsewhere => cases native
  | begin write | refuse write => simp [step, unwritten]
  | finish | fail => simp [step, unlocked]
  | read result => simp [step, pump]
  | receive result => simp [step, reader]
  | enter side | shutdown side => simp [step, running]
  | wake | detach | closeConn => simp [step, attaching]

end Connection

/-! ## What a step of the manager does to a client -/

/-- The client is as it was, or it has been closed. -/
def MayClose (before after : Host) (client : Handle) : Prop :=
  after.heap.get? client = before.heap.get? client ∨
    after.heap.get? client = (before.heap.get? client).map Session.close

namespace MayClose

variable {before middle after : Host} {client : Handle}

theorem trans
    (first : MayClose before middle client)
    (second : MayClose middle after client) :
    MayClose before after client := by
  have once : Session.close ∘ Session.close = Session.close :=
    funext Session.close_close
  rcases first with first | first <;> rcases second with second | second
  · exact .inl (second.trans first)
  · exact .inr (by rw [second, first])
  · exact .inr (second.trans first)
  · exact .inr (by rw [second, first, Option.map_map, once])

theorem close (host : Host) (client other : Handle) :
    MayClose host (host.close other) client := by
  unfold MayClose
  rw [Host.get?_heap_close]
  by_cases same : client = other
  · exact .inr (if_pos same)
  · exact .inl (if_neg same)

theorem killLocked (host : Host) (id : String) (client : Handle) :
    MayClose host (host.killLocked id) client := by
  unfold Host.killLocked
  split
  · exact close host client _
  · exact .inl rfl

theorem shutdown (host : Host) (client : Handle) :
    MayClose host host.shutdown client := by
  unfold Host.shutdown
  generalize host.sessions.entries = entries
  induction entries generalizing host with
  | nil => exact .inl rfl
  | cons entry entries inductionHypothesis =>
      have first : MayClose host (host.shutdownOne entry) client :=
        close host client entry.2
      exact first.trans (inductionHypothesis _)

theorem attachPublish (host : Host) (call : AttachCall) (client : Handle) :
    MayClose host (host.attachPublish call) client := by
  unfold MayClose
  rw [Host.get?_heap_attachPublish]
  by_cases prior : host.sessions.get? call.id = some client
  · exact .inr (if_pos prior)
  · exact .inl (if_neg prior)

/-- Other users of the manager do no more to a client than close it. -/
theorem of_permits
    {state next : Interleaved}
    {action : Action}
    (permits : TerminalServer.Permits action)
    (stepped : state.step action = some next)
    (client : Handle) :
    MayClose state.host next.host client ∧ next.holder = state.holder ∧
      next.returned = state.returned ∧ next.detached = state.detached := by
  cases action with
  | attachLock | attachStep | detach | resizePTY | closePTMX =>
      exact permits.elim
  | resize id size fails =>
      obtain ⟨_, rfl⟩ := Interleaved.step_resize.mp stepped
      refine ⟨.inl ?_, rfl, rfl, rfl⟩
      rw [(Interleaved.clients_resize state.host id size fails).1]
  | killLock id =>
      obtain ⟨_, rfl⟩ := Interleaved.step_killLock.mp stepped
      exact ⟨killLocked _ _ _, rfl, rfl, rfl⟩
  | killTmux id =>
      obtain ⟨_, rfl⟩ := Interleaved.step_killTmux.mp stepped
      exact ⟨.inl rfl, rfl, rfl, rfl⟩
  | shutdown =>
      obtain ⟨_, rfl⟩ := Interleaved.step_shutdown.mp stepped
      exact ⟨shutdown _ _, rfl, rfl, rfl⟩
  | sessionEnds id =>
      obtain rfl := Interleaved.step_sessionEnds.mp stepped
      exact ⟨.inl rfl, rfl, rfl, rfl⟩

end MayClose

/-- Only a shutdown and the kill of its own id close a client. -/
theorem heap_of_permits
    {state next : Interleaved}
    {action : Action}
    (permits : TerminalServer.Permits action)
    (stepped : state.step action = some next)
    {client : Handle}
    (running : action ≠ .shutdown)
    (spared : ∀ id, action = .killLock id →
      state.host.sessions.get? id ≠ some client) :
    next.host.heap.get? client = state.host.heap.get? client := by
  cases action with
  | attachLock | attachStep | detach | resizePTY | closePTMX =>
      exact permits.elim
  | shutdown => exact absurd rfl running
  | resize id size fails =>
      obtain ⟨_, rfl⟩ := Interleaved.step_resize.mp stepped
      rw [(Interleaved.clients_resize state.host id size fails).1]
  | killTmux id =>
      obtain ⟨_, rfl⟩ := Interleaved.step_killTmux.mp stepped
      rfl
  | sessionEnds id =>
      obtain rfl := Interleaved.step_sessionEnds.mp stepped
      rfl
  | killLock id =>
      obtain ⟨_, rfl⟩ := Interleaved.step_killLock.mp stepped
      cases held : state.host.sessions.get? id with
      | none => rw [(Interleaved.killLocked_of_no_slot held).2]
      | some other =>
          rw [(Interleaved.givenBack_killLocked held).heap, if_neg]
          rintro rfl
          exact spared id rfl held

/-- How the `Attach` that holds the mutex goes on. -/
inductive Onward (state : Interleaved) (progress : Progress) : Prop
  | holds
      (later : Progress)
      (call : later.call = progress.call)
      (unstarted : ∀ call recreated, progress ≠ .started call recreated)
      (holder : (state.advance progress).holder = some later)
      (returned : (state.advance progress).returned = state.returned)
  | fails
      (unstarted : ∀ call recreated, progress ≠ .started call recreated)
      (holder : (state.advance progress).holder = none)
      (returned : (state.advance progress).returned = state.returned)
  | returns
      (call : AttachCall)
      (recreated : Bool)
      (started : progress = .started call recreated)
      (holder : (state.advance progress).holder = none)
      (returned : (state.advance progress).returned =
        (call.id, ⟨call.handle, recreated⟩) :: state.returned)

theorem Onward.all (state : Interleaved) (progress : Progress) :
    Onward state progress := by
  cases progress with
  | checked call found =>
      cases found with
      | true => exact .holds (.existing call false) rfl (by simp) rfl rfl
      | false =>
          cases created : state.host.attachCreate call with
          | none =>
              refine .fails (by simp) ?_ ?_ <;>
                simp [Interleaved.advance, created]
          | some host =>
              refine .holds (.existing call true) rfl (by simp) ?_ ?_ <;>
                simp [Interleaved.advance, created]
  | existing call recreated =>
      cases began : state.host.newSession call with
      | none =>
          refine .fails (by simp) ?_ ?_ <;> simp [Interleaved.advance, began]
      | some host =>
          refine .holds (.started call recreated) rfl (by simp) ?_ ?_ <;>
            simp [Interleaved.advance, began]
  | started call recreated => exact .returns call recreated rfl rfl rfl

theorem detached_advance (state : Interleaved) (progress : Progress) :
    (state.advance progress).detached = state.detached := by
  cases progress with
  | checked call found =>
      cases found with
      | true => rfl
      | false =>
          simp only [Interleaved.advance]
          split <;> rfl
  | existing call recreated =>
      simp only [Interleaved.advance]
      split <;> rfl
  | started call recreated => rfl

/-- Before `Attach` takes the slot, it leaves the clients of others alone. -/
theorem heap_advance_of_unstarted
    (state : Interleaved)
    {progress : Progress}
    (unstarted : ∀ call recreated, progress ≠ .started call recreated)
    {client : Handle}
    (other : client ≠ progress.call.handle) :
    (state.advance progress).host.heap.get? client =
      state.host.heap.get? client := by
  cases progress with
  | checked call found =>
      cases found with
      | true => rfl
      | false =>
          simp only [Interleaved.advance]
          split
          · rfl
          · next host created =>
              rw [(Interleaved.clients_attachCreate created).1]
  | existing call recreated =>
      simp only [Interleaved.advance]
      split
      · rfl
      · next host began =>
          unfold Host.newSession at began
          split at began
          · cases began
          · cases began
            exact Table.get?_set_of_ne _ _ (Ne.symm other)
  | started call recreated => exact absurd rfl (unstarted call recreated)

/-- `Attach` closes no client but the one that holds its slot. -/
theorem heap_advance
    (state : Interleaved)
    {progress : Progress}
    {client : Handle}
    (other : client ≠ progress.call.handle)
    (spared : state.host.sessions.get? progress.call.id ≠ some client) :
    (state.advance progress).host.heap.get? client =
      state.host.heap.get? client := by
  cases progress with
  | checked call found | existing call recreated =>
      refine heap_advance_of_unstarted state ?_ other
      simp
  | started call recreated =>
      exact (Host.get?_heap_attachPublish _ _ _).trans (if_neg spared)

/-- A step of `Attach` may close a client of another call. -/
theorem MayClose.advance
    (state : Interleaved)
    {progress : Progress}
    {client : Handle}
    (other : client ≠ progress.call.handle) :
    MayClose state.host (state.advance progress).host client := by
  cases progress with
  | checked call found | existing call recreated =>
      refine .inl (heap_advance_of_unstarted state ?_ other)
      simp
  | started call recreated => exact attachPublish _ _ _

/-- What a call of one handler does to the clients. -/
structure Affects
    (client : Handle)
    (method : Session → Session)
    (before after : Interleaved) : Prop where
  heap : ∀ other, after.host.heap.get? other =
    if other = client then (before.host.heap.get? other).map method
    else before.host.heap.get? other
  holder : after.holder = before.holder
  returned : after.returned = before.returned
  detached : before.detached ⊆ after.detached

theorem Affects.refl (client : Handle) (state : Interleaved) :
    Affects client id state state :=
  ⟨fun other => by rw [Option.map_id, id, ite_self], rfl, rfl,
    List.Subset.refl _⟩

theorem Connection.affects_call
    {c : Connection}
    {id : String}
    {client : Handle}
    {action : ConnectionAction}
    {before after : Interleaved}
    (called : (c.call id client action).elim (some before) before.step =
      some after) :
    Affects client (c.method action) before after := by
  cases action with
  | detach =>
      obtain ⟨_, rfl⟩ := Interleaved.step_detach.mp called
      exact ⟨(Interleaved.givenBack_detach _ _ _).heap, rfl, rfl,
        List.subset_cons_self _ _⟩
  | shutdown side =>
      simp only [call, method] at called ⊢
      split at called
      · obtain rfl := Interleaved.step_closePTMX.mp called
        rw [if_pos ‹_›]
        exact ⟨fun other => Table.get?_modify _ _ _ _, rfl, rfl,
          List.Subset.refl _⟩
      · cases called
        rw [if_neg ‹_›]
        exact .refl client _
  | receive result =>
      cases result with
      | none =>
          cases called
          exact .refl client _
      | some message =>
          simp only [call, method] at called ⊢
          cases reaction : Protocol.react message with
          | resize cols rows =>
              rw [reaction] at called
              obtain rfl := Interleaved.step_resizePTY.mp called
              exact ⟨fun other => Table.get?_modify _ _ _ _, rfl, rfl,
                List.Subset.refl _⟩
          | write data | pong | nothing =>
              rw [reaction] at called
              cases called
              exact .refl client _
  | _ =>
      cases called
      exact .refl client _

theorem Connection.detached_of_call
    {c : Connection}
    {id : String}
    {client : Handle}
    {before after : Interleaved}
    (called : (c.call id client .detach).elim (some before) before.step =
      some after) :
    client ∈ after.detached := by
  obtain ⟨_, rfl⟩ := Interleaved.step_detach.mp called
  exact List.mem_cons_self

end Ws
end LociTerm
