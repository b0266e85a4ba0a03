import LociTerm.Tmux.Steady
import LociTerm.Ws.SharedManager

/-!
# Handlers that lose their session

A later `Attach` for the same id, a kill of the id and a shutdown of the manager
take a client out of the map, and nothing puts it back.  Its handler then has
nothing left but to return, whatever the server goes on to do.
-/

namespace LociTerm
namespace Ws

open Tmux

/-! ## What the map has lost -/

theorem sessions_shutdownLoop
    {entries : List (String × Handle)}
    {host : Host}
    (listed : ∀ id client, host.sessions.get? id = some client →
      (id, client) ∈ entries)
    (id : String) :
    (entries.foldl Host.shutdownOne host).sessions.get? id = none := by
  induction entries generalizing host with
  | nil =>
      cases held : host.sessions.get? id with
      | none => exact held
      | some client => exact absurd (listed id client held) List.not_mem_nil
  | cons entry rest inductionHypothesis =>
      apply inductionHypothesis
      intro other client held
      rw [Host.shutdownOne, Host.sessions_close, Table.get?_erase] at held
      split at held
      · cases held
      · next different =>
          rcases List.mem_cons.mp (listed other client held) with same | later
          · exact absurd (congrArg Prod.fst same).symm different
          · exact later

/-- `Shutdown` empties the map. -/
theorem sessions_shutdown (host : Host) (id : String) :
    host.shutdown.sessions.get? id = none := by
  apply sessions_shutdownLoop
  intro other client held
  exact (Table.mem_entries_iff _ _ _).mpr held

/-- No step gives a client that has been returned a slot. -/
theorem slot_of_step
    {state next : Interleaved}
    {action : Action}
    (owned : state.Owned)
    (stepped : state.step action = some next)
    {id : String}
    {client : Handle}
    (returned : state.Returned id client)
    (held : next.host.sessions.get? id = some client) :
    state.host.sessions.get? id = some client := by
  have back : ∀ {after : Host} {name : String} {other : Handle},
      Interleaved.GivenBack state.host after name other →
        after.sessions.get? id = some client →
          state.host.sessions.get? id = some client := by
    intro after name other givenBack held
    rw [givenBack.sessions] at held
    split at held
    · cases held
    · exact held
  cases action with
  | attachLock call =>
      obtain ⟨_, rfl⟩ := Interleaved.step_attachLock.mp stepped
      exact held
  | attachStep =>
      obtain ⟨progress, holds, rfl⟩ := Interleaved.step_attachStep.mp stepped
      cases progress with
      | checked call found =>
          cases found with
          | true => exact held
          | false =>
              simp only [Interleaved.advance] at held
              split at held
              · exact held
              · next host created =>
                  rwa [(Interleaved.clients_attachCreate created).2] at held
      | existing call recreated =>
          simp only [Interleaved.advance] at held
          split at held
          · exact held
          · next host began =>
              unfold Host.newSession at began
              split at began
              · cases began
              · cases began
                exact held
      | started call recreated =>
          have other := owned.pending_ne holds returned
          simp only [Interleaved.advance] at held
          rw [Host.sessions_attachPublish, Table.get?_set] at held
          split at held
          · exact absurd (Option.some.inj held) other
          · exact held
  | detach name other =>
      obtain ⟨_, rfl⟩ := Interleaved.step_detach.mp stepped
      exact back (Interleaved.givenBack_detach _ _ _) held
  | killLock name =>
      obtain ⟨_, rfl⟩ := Interleaved.step_killLock.mp stepped
      rw [Host.get?_sessions_killLocked] at held
      split at held
      · cases held
      · exact held
  | resize name size fails =>
      obtain ⟨_, rfl⟩ := Interleaved.step_resize.mp stepped
      rwa [(Interleaved.clients_resize state.host name size fails).2] at held
  | killTmux name =>
      obtain ⟨_, rfl⟩ := Interleaved.step_killTmux.mp stepped
      exact held
  | shutdown =>
      obtain ⟨_, rfl⟩ := Interleaved.step_shutdown.mp stepped
      rw [sessions_shutdown] at held
      cases held
  | resizePTY other size =>
      obtain rfl := Interleaved.step_resizePTY.mp stepped
      exact held
  | closePTMX other =>
      obtain rfl := Interleaved.step_closePTMX.mp stepped
      exact held
  | sessionEnds name =>
      obtain rfl := Interleaved.step_sessionEnds.mp stepped
      exact held

theorem returned_of_step
    {state next : Interleaved}
    {action : Action}
    (stepped : state.step action = some next)
    {id : String}
    {client : Handle}
    (returned : state.Returned id client) :
    next.Returned id client := by
  by_cases locks : ∃ call, action = .attachLock call
  · obtain ⟨call, rfl⟩ := locks
    obtain ⟨_, rfl⟩ := Interleaved.step_attachLock.mp stepped
    exact returned
  · by_cases attaches : action = .attachStep
    · subst attaches
      obtain ⟨progress, _, rfl⟩ := Interleaved.step_attachStep.mp stepped
      obtain ⟨recreated, member⟩ := returned
      cases Onward.all state progress with
      | holds _ _ _ _ same | fails _ _ same =>
          exact ⟨recreated, by rwa [same]⟩
      | returns _ _ _ _ more =>
          exact ⟨recreated, by rw [more]; exact List.mem_cons_of_mem _ member⟩
    · have same := (Interleaved.unattached_step
        (fun call locked => locks ⟨call, locked⟩) attaches stepped).2
      exact (Interleaved.returned_congr same id client).mpr returned

/-- `Attach` has returned the client, and it is not in the map any more. -/
structure Lost
    (id : String)
    (client : Handle)
    (state : Interleaved) : Prop where
  returned : state.Returned id client
  unheld : state.host.sessions.get? id ≠ some client

namespace Lost

variable {id : String} {client : Handle} {state next : Interleaved}

theorem step
    {action : Action}
    (lost : Lost id client state)
    (owned : state.Owned)
    (stepped : state.step action = some next) :
    Lost id client next where
  returned := returned_of_step stepped lost.returned
  unheld := fun held =>
    lost.unheld (slot_of_step owned stepped lost.returned held)

/-- Its process has been killed and reaped. -/
theorem closed (lost : Lost id client state) (owned : state.Owned) :
    ∃ session, state.host.heap.get? client = some session ∧
      session.closed = true ∧ session.kills = 1 ∧ session.waits = 1 := by
  obtain ⟨session, heap, _, slot⟩ := owned.returned id client lost.returned
  have closed : session.closed = true := by
    by_contra opened
    exact lost.unheld (slot (by simpa using opened))
  obtain ⟨kills, waits⟩ := owned.reaped client session heap
  rw [closed] at kills waits
  exact ⟨session, heap, closed, kills, waits⟩

end Lost

namespace TerminalServer

/-- The step takes from the map what it has under this id. -/
def Takes (server : TerminalServer) (id : String) : ServerAction → Prop
  | .manager .shutdown => True
  | .manager (.killLock theirs) => theirs = id
  | .attachStep _ => ∃ call recreated,
      server.manager.holder = some (.started call recreated) ∧ call.id = id
  | _ => False

/-- A step of the server is no step of its manager, or one. -/
theorem manager_of_step
    {server next : TerminalServer}
    {action : ServerAction}
    (stepped : server.step action = some next) :
    next.manager = server.manager ∨
      ∃ call, server.manager.step call = some next.manager := by
  cases action with
  | connect client id faults =>
      simp only [step] at stepped
      split at stepped
      · cases stepped
      · obtain ⟨manager, moved, rfl⟩ := Option.map_eq_some_iff.mp stepped
        exact .inr ⟨_, moved⟩
  | attachStep message =>
      simp only [step] at stepped
      obtain ⟨progress, holds, rest⟩ := Option.bind_eq_some_iff.mp stepped
      obtain ⟨line, _, moved⟩ := Option.bind_eq_some_iff.mp rest
      obtain ⟨c, _, rfl⟩ := Option.map_eq_some_iff.mp moved
      exact .inr ⟨.attachStep,
        Interleaved.step_attachStep.mpr ⟨progress, holds, rfl⟩⟩
  | handler client action =>
      simp only [step] at stepped
      split at stepped
      · cases stepped
      · obtain ⟨line, _, rest⟩ := Option.bind_eq_some_iff.mp stepped
        obtain ⟨manager, called, moved⟩ := Option.bind_eq_some_iff.mp rest
        obtain ⟨c, _, rfl⟩ := Option.map_eq_some_iff.mp moved
        cases made : line.2.call line.1 client action with
        | none =>
            rw [made] at called
            cases called
            exact .inl rfl
        | some call =>
            rw [made] at called
            exact .inr ⟨call, called⟩
  | manager action =>
      simp only [step] at stepped
      split at stepped
      · obtain ⟨manager, moved, rfl⟩ := Option.map_eq_some_iff.mp stepped
        exact .inr ⟨action, moved⟩
      · cases stepped

/-- What has been taken is lost. -/
theorem lost_of_takes
    {server next : TerminalServer}
    {action : ServerAction}
    (owned : server.manager.Owned)
    {id : String}
    (takes : server.Takes id action)
    (stepped : server.step action = some next)
    {client : Handle}
    (returned : server.manager.Returned id client) :
    Lost id client next.manager := by
  have still : next.manager.Returned id client := by
    rcases manager_of_step stepped with same | ⟨call, moved⟩
    · rwa [same]
    · exact returned_of_step moved returned
  refine ⟨still, ?_⟩
  cases action with
  | connect | handler => exact takes.elim
  | attachStep message =>
      obtain ⟨call, recreated, holds, rfl⟩ := takes
      have other := owned.pending_ne holds returned
      simp only [step, holds, Option.bind_some] at stepped
      obtain ⟨line, _, moved⟩ := Option.bind_eq_some_iff.mp stepped
      obtain ⟨c, _, rfl⟩ := Option.map_eq_some_iff.mp moved
      simp only [withLine, Interleaved.advance]
      rw [Host.sessions_attachPublish, Table.get?_set_self]
      exact fun same => other (Option.some.inj same)
  | manager action =>
      simp only [step] at stepped
      split at stepped
      · obtain ⟨manager, moved, rfl⟩ := Option.map_eq_some_iff.mp stepped
        cases action with
        | shutdown =>
            obtain ⟨_, rfl⟩ := Interleaved.step_shutdown.mp moved
            simp only [sessions_shutdown]
            simp
        | killLock theirs =>
            obtain rfl : theirs = id := takes
            obtain ⟨_, rfl⟩ := Interleaved.step_killLock.mp moved
            simp [Host.get?_sessions_killLocked]
        | _ => exact takes.elim
      · cases stepped

/-- As soon as somebody has attached to the id of a handler, has killed it, or
has shut the manager down, the process of its client has been killed once and
reaped once, and in every run from there the handler rests only when it has
returned and has left nothing behind. -/
theorem taken_handlers_finish
    {tmux : Server}
    {actions more : List ServerAction}
    {server next later : TerminalServer}
    {action : ServerAction}
    (ran : LociTerm.run TerminalServer.step (TerminalServer.start tmux)
      actions = some server)
    (stepped : server.step action = some next)
    (ranOn : LociTerm.run TerminalServer.step next more = some later)
    {client : Handle}
    {id : String}
    {c : Connection}
    (found : server.lines.get? client = some (id, c))
    (attached : c.attached ≠ none)
    (takes : server.Takes id action) :
    ∃ d session, later.lines.get? client = some (id, d) ∧
      (d.Resting ↔ d.Finished) ∧
      later.manager.host.heap.get? client = some session ∧
      session.closed = true ∧ session.kills = 1 ∧ session.waits = 1 := by
  have coupled := Coupled.run ran
  have coupledNext := coupled.step stepped
  obtain ⟨before, now⟩ := Option.ne_none_iff_exists'.mp attached
  obtain ⟨_, _, returned⟩ :=
    (coupled.kept client (id, c) found).attached before now
  have taken := lost_of_takes coupled.owned takes stepped returned
  -- The map does not get it back.
  have kept : ∀ past server action next,
      Coupled tmux past server ∧ Lost id client server.manager →
        server.step action = some next →
          Coupled tmux (past ++ [action]) next ∧
            Lost id client next.manager := by
    rintro past server action next ⟨coupled, lost⟩ stepped
    refine ⟨coupled.step stepped, ?_⟩
    rcases manager_of_step stepped with same | ⟨call, moved⟩
    · rwa [same]
    · exact lost.step coupled.owned moved
  obtain ⟨coupledLater, lost⟩ :=
    history_of_run kept ⟨coupledNext, taken⟩ ranOn
  obtain ⟨session, heap, closed, once⟩ := lost.closed coupledLater.owned
  obtain ⟨d, there, present⟩ := coupledLater.returned id client lost.returned
  have line := coupledLater.kept client (id, d) there
  obtain ⟨steps, went, _⟩ := line.ran
  obtain ⟨sound, staged⟩ := Connection.Staged.run went
  obtain ⟨attachedLater, nowLater⟩ := Option.ne_none_iff_exists'.mp present
  have same : attachedLater.session = session := by
    have again := (line.attached attachedLater nowLater).2.1
    rw [heap] at again
    exact (Option.some.inj again).symm
  refine ⟨d, session, there, ⟨fun resting => ?_, fun done => done.resting⟩,
    heap, closed, once⟩
  rcases resting.main with waiting | returned
  · have serving := resting.serving sound staged waiting
    refine absurd (.inr ⟨attachedLater, nowLater, ?_⟩) serving.uncut
    exact sound.closed.session attachedLater nowLater (same ▸ closed)
  · exact resting.finished sound staged returned

theorem taken_handlers_finish_takeover :
    ∃ server d session, takenOver = some server ∧
      server.lines.get? 0 = some ("a", d) ∧ (d.Resting ↔ d.Finished) ∧
      server.manager.host.heap.get? 0 = some session ∧
      session.closed = true ∧ session.kills = 1 ∧ session.waits = 1 := by
  let before := LociTerm.run TerminalServer.step
    (TerminalServer.start Server.fresh) (takeover.take 9)
  have ran := (Option.some_get (show before.isSome = true by decide)).symm
  let taken := (before.get (by decide)).step (.attachStep "")
  have stepped := (Option.some_get (show taken.isSome = true by decide)).symm
  let after := LociTerm.run TerminalServer.step (taken.get (by decide))
    (takeover.drop 10)
  have ranOn := (Option.some_get (show after.isSome = true by decide)).symm
  have attached : ((before.get (by decide)).lines.get? 0).any fun line =>
      decide (line.1 = "a") && line.2.attached.isSome := by decide
  obtain ⟨⟨id, c⟩, found, shown⟩ := (Option.any_eq_true _ _).mp attached
  simp only [Bool.and_eq_true, decide_eq_true_eq] at shown
  obtain ⟨rfl, present⟩ := shown
  obtain ⟨d, session, last⟩ := taken_handlers_finish ran stepped ranOn found
    (Option.isSome_iff_ne_none.mp present)
    ⟨⟨1, "a", ⟨120, 40⟩, ⟨false, false⟩⟩, false, by decide, rfl⟩
  have whole : LociTerm.run TerminalServer.step
      (TerminalServer.start Server.fresh)
      (takeover.take 9 ++ [.attachStep ""] ++ takeover.drop 10) =
        some (after.get (by decide)) :=
    (run_append_eq_some _).mpr ⟨_, run_concat ran stepped, ranOn⟩
  have parts : takeover.take 9 ++ [.attachStep ""] ++ takeover.drop 10 =
      takeover := rfl
  rw [parts] at whole
  unfold takenOver
  exact ⟨after.get (by decide), d, session, whole, last⟩

end TerminalServer
end Ws
end LociTerm
