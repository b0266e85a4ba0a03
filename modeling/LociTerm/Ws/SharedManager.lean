import LociTerm.Ws.TerminalServer

/-!
# Handlers that share a manager

Whatever the handlers of a server and the other users of its manager do, each
handler goes through a run of one connection, and the manager through a run of
its own.  The invariant ties the connections to the results of `Attach` and to
the `Session` objects of the manager.
-/

namespace LociTerm
namespace Ws

open Tmux

namespace TerminalServer

theorem get?_withLine
    (server : TerminalServer)
    (manager : Interleaved)
    (client : Handle)
    (line : String × Connection)
    (other : Handle) :
    (server.withLine manager client line).lines.get? other =
      if client = other then some (refresh manager.host other line)
      else (server.lines.get? other).map (refresh manager.host other) := by
  rw [withLine, Table.get?_mapWithKey, Table.get?_set]
  split <;> rfl

/-- Nobody has taken the client away from its handler. -/
def Undisturbed
    (past : List ServerAction)
    (id : String)
    (client : Handle) : Prop :=
  ∀ action ∈ past, ¬ action.Disturbs id client

theorem Undisturbed.before
    {past : List ServerAction}
    {action : ServerAction}
    {id : String}
    {client : Handle}
    (undisturbed : Undisturbed (past ++ [action]) id client) :
    Undisturbed past id client :=
  fun earlier member => undisturbed earlier (List.mem_append_left _ member)

theorem Undisturbed.last
    {past : List ServerAction}
    {action : ServerAction}
    {id : String}
    {client : Handle}
    (undisturbed : Undisturbed (past ++ [action]) id client) :
    ¬ action.Disturbs id client :=
  undisturbed action (List.mem_append_right _ List.mem_cons_self)

/-- The connection has gone through the steps of its handler, and its session is
the object that `Attach` has returned. -/
structure Kept
    (past : List ServerAction)
    (manager : Interleaved)
    (client : Handle)
    (line : String × Connection) : Prop where
  ran : ∃ steps, run Connection.step Connection.start steps = some line.2 ∧
    steps.filter (!·.foreign) = past.filterMap (·.of? client) ∧
    (Undisturbed past line.1 client → .closeElsewhere ∉ steps)
  connected : ∃ faults, .connect client line.1 faults ∈ past
  attached : ∀ attached, line.2.attached = some attached →
    attached.handle = client ∧
      manager.host.heap.get? client = some attached.session ∧
      manager.Returned line.1 client
  detached : line.2.detached ⊆ manager.detached

section

variable {past : List ServerAction} {manager after : Interleaved}
  {client : Handle} {line : String × Connection}

/-- A session that is the object on the heap stays as it is. -/
theorem refresh_of_attached
    (attached : ∀ attached, line.2.attached = some attached →
      manager.host.heap.get? client = some attached.session) :
    refresh manager.host client line = line := by
  have fixed : line.2.onSession ((manager.host.heap.get? client).getD ·) =
      line.2 := by
    apply Connection.onSession_of_fixed
    intro one found
    rw [attached one found, Option.getD_some]
  rw [refresh, fixed]

theorem Kept.refresh
    (kept : Kept past manager client line)
    {action : ServerAction}
    (idle : action.of? client = none)
    (mayClose : MayClose manager.host after.host client)
    (spared : Undisturbed (past ++ [action]) line.1 client →
      after.host.heap.get? client = manager.host.heap.get? client)
    (returned : ∀ id, manager.Returned id client → after.Returned id client)
    (detached : manager.detached ⊆ after.detached) :
    Kept (past ++ [action]) after client
      (TerminalServer.refresh after.host client line) := by
  obtain ⟨steps, ran, performed, alone⟩ := kept.ran
  obtain ⟨faults, connected⟩ := kept.connected
  have connected := List.mem_append_left [action] connected
  have waits : (past ++ [action]).filterMap (·.of? client) =
      past.filterMap (·.of? client) := by
    rw [List.filterMap_append]
    simp [idle]
  by_cases same : after.host.heap.get? client = manager.host.heap.get? client
  · rw [refresh_of_attached]
    · refine ⟨⟨steps, ran, performed.trans waits.symm,
        fun undisturbed => alone undisturbed.before⟩, ⟨faults, connected⟩, ?_,
        List.Subset.trans kept.detached detached⟩
      intro attached found
      obtain ⟨handle, heap, now⟩ := kept.attached attached found
      exact ⟨handle, same.trans heap, returned _ now⟩
    · intro attached found
      exact same.trans (kept.attached attached found).2.1
  · have closed := mayClose.resolve_left same
    have shut : TerminalServer.refresh after.host client line =
        (line.1, line.2.onSession Session.close) := by
      unfold TerminalServer.refresh
      rw [Connection.onSession_congr]
      intro attached found
      rw [closed, (kept.attached attached found).2.1]
      rfl
    rw [shut]
    refine ⟨⟨steps ++ [.closeElsewhere], ?_, ?_,
      fun undisturbed => absurd (spared undisturbed) same⟩,
      ⟨faults, connected⟩, ?_, List.Subset.trans kept.detached detached⟩
    · exact run_concat ran rfl
    · rw [List.filter_append, performed, waits]
      exact List.append_nil _
    · intro attached found
      obtain ⟨before, foundBefore, rfl⟩ := Option.map_eq_some_iff.mp found
      obtain ⟨handle, heap, now⟩ := kept.attached before foundBefore
      exact ⟨handle, by rw [closed, heap, Option.map_some], returned _ now⟩

/-- A handler has taken a step of its own. -/
theorem Kept.handled
    (kept : Kept past manager client line)
    {action : ConnectionAction}
    (native : action.foreign = false)
    (called : (line.2.call line.1 client action).elim (some manager)
      manager.step = some after)
    {c : Connection}
    (taken : line.2.step action = some c) :
    Kept (past ++ [.handler client action]) after client (line.1, c) := by
  have affects := Connection.affects_call called
  obtain ⟨session, given⟩ := Connection.session_step native taken
  obtain ⟨steps, ran, performed, alone⟩ := kept.ran
  obtain ⟨faults, connected⟩ := kept.connected
  refine ⟨⟨steps ++ [action], ?_, ?_, ?_⟩,
    ⟨faults, List.mem_append_left _ connected⟩, ?_, ?_⟩
  · exact run_concat ran taken
  · rw [List.filter_append, List.filterMap_append, performed]
    simp [native, ServerAction.of?]
  · intro undisturbed member
    rcases List.mem_append.mp member with before | now
    · exact alone undisturbed.before before
    · rw [← List.mem_singleton.mp now] at native
      cases native
  · intro attached now
    rw [session] at now
    obtain ⟨old, before, rfl⟩ := Option.map_eq_some_iff.mp now
    obtain ⟨handle, heap, returned⟩ := kept.attached old before
    refine ⟨handle, ?_,
      (Interleaved.returned_congr affects.returned _ _).mpr returned⟩
    rw [affects.heap, if_pos rfl, heap, Option.map_some]
  · have before := List.Subset.trans kept.detached affects.detached
    rw [given]
    refine List.append_subset.mpr ⟨?_, before⟩
    intro handle member
    obtain ⟨rfl, attached, found, rfl⟩ := Connection.mem_given member
    rw [(kept.attached attached found).1]
    exact Connection.detached_of_call called

theorem Kept.sound (kept : Kept past manager client line) : line.2.Sound := by
  obtain ⟨_, ran, _⟩ := kept.ran
  exact Connection.Sound.run ran

end

/-- The client of the `Attach` that is about to return has an open PTY. -/
def Ready (manager : Interleaved) : Prop :=
  ∀ call recreated session, manager.holder = some (.started call recreated) →
    manager.host.heap.get? call.handle = some session →
      session.ptmxOpen = true

theorem Ready.of_mayClose
    {before after : Interleaved}
    (ready : Ready before)
    (owned : after.Owned)
    (holder : after.holder = before.holder)
    (mayClose : ∀ call recreated,
      after.holder = some (.started call recreated) →
        MayClose before.host after.host call.handle) :
    Ready after := by
  intro call recreated session started found
  obtain ⟨session', found', _, unclosed, _⟩ := owned.pending _ started
  rw [found] at found'
  cases found'
  rcases mayClose call recreated started with same | closed
  · exact ready call recreated session (holder ▸ started) (same ▸ found)
  · -- It has not been closed.
    rw [closed] at found
    obtain ⟨earlier, _, rfl⟩ := Option.map_eq_some_iff.mp found
    rw [Session.closed_close] at unclosed
    cases unclosed

theorem Ready.advance (state : Interleaved) (progress : Progress) :
    Ready (state.advance progress) := by
  intro call recreated session started found
  cases progress with
  | checked other missing =>
      cases missing with
      | true => cases started
      | false =>
          simp only [Interleaved.advance] at started
          split at started <;> cases started
  | existing other again =>
      simp only [Interleaved.advance] at started found
      split at started
      · cases started
      · next host began =>
          cases started
          rw [began] at found
          unfold Host.newSession at began
          split at began
          · cases began
          · cases began
            rw [Table.get?_set_self] at found
            cases found
            rfl
  | started other again => cases started

/-- The handlers and the manager agree. -/
structure Coupled
    (tmux : Server)
    (past : List ServerAction)
    (server : TerminalServer) : Prop where
  ran : ∃ calls, run Interleaved.step (Interleaved.start tmux) calls =
    some server.manager
  kept : ∀ client line, server.lines.get? client = some line →
    Kept past server.manager client line
  fresh : ∀ client, server.lines.get? client = none →
    past.filterMap (·.of? client) = []
  /-- What `Attach` has returned has been returned to a handler. -/
  returned : ∀ id client, server.manager.Returned id client →
    ∃ c, server.lines.get? client = some (id, c) ∧ c.attached ≠ none
  holder : ∀ progress, server.manager.holder = some progress →
    ∃ c, server.lines.get? progress.call.handle = some (progress.call.id, c) ∧
      c.main = .attaching
  ready : Ready server.manager

theorem Coupled.start (tmux : Server) : Coupled tmux [] (start tmux) where
  ran := ⟨[], rfl⟩
  kept := by
    intro client line found
    rw [TerminalServer.start, Table.get?_empty] at found
    cases found
  fresh := fun _ _ => rfl
  returned := by
    rintro id client ⟨recreated, member⟩
    cases member
  holder := by
    intro progress holds
    cases holds
  ready := by
    intro call recreated session holds
    cases holds

theorem Coupled.owned
    {tmux : Server}
    {past : List ServerAction}
    {server : TerminalServer}
    (coupled : Coupled tmux past server) :
    server.manager.Owned := by
  obtain ⟨calls, ran⟩ := coupled.ran
  exact .ofRun ran

theorem Coupled.calls
    {tmux : Server}
    {past : List ServerAction}
    {server : TerminalServer}
    (coupled : Coupled tmux past server)
    {call : Action}
    {manager : Interleaved}
    (moved : server.manager.step call = some manager) :
    ∃ calls, run Interleaved.step (Interleaved.start tmux) calls =
      some manager := by
  obtain ⟨calls, ran⟩ := coupled.ran
  exact ⟨calls ++ [call], run_concat ran moved⟩

/-- The step changes one connection, and may close the sessions of others. -/
theorem Coupled.withLine
    {tmux : Server}
    {past : List ServerAction}
    {server : TerminalServer}
    (coupled : Coupled tmux past server)
    {action : ServerAction}
    {manager : Interleaved}
    {client : Handle}
    {line : String × Connection}
    (ran : ∃ calls, run Interleaved.step (Interleaved.start tmux) calls =
      some manager)
    (ready : Ready manager)
    (elsewhere : ∀ other, other ≠ client → action.of? other = none ∧
      MayClose server.manager.host manager.host other ∧
      ∀ line, server.lines.get? other = some line →
        Undisturbed (past ++ [action]) line.1 other →
          manager.host.heap.get? other = server.manager.host.heap.get? other)
    (mine : Kept (past ++ [action]) manager client line)
    (stays : ∀ old, server.lines.get? client = some old →
      line.1 = old.1 ∧ (old.2.attached ≠ none → line.2.attached ≠ none))
    (before : ∀ id other, server.manager.Returned id other →
      manager.Returned id other)
    (detached : server.manager.detached ⊆ manager.detached)
    (returned : ∀ id other, manager.Returned id other →
      server.manager.Returned id other ∨
        other = client ∧ line.1 = id ∧ line.2.attached ≠ none)
    (holder : ∀ progress, manager.holder = some progress →
      server.manager.holder = some progress ∧
          progress.call.handle ≠ client ∨
        progress.call.handle = client ∧ line.1 = progress.call.id ∧
          line.2.main = .attaching) :
    Coupled tmux (past ++ [action]) (server.withLine manager client line) := by
  have same : refresh manager.host client line = line :=
    refresh_of_attached fun attached found => (mine.attached attached found).2.1
  have there : (server.withLine manager client line).lines.get? client =
      some line := by
    rw [get?_withLine, if_pos rfl, same]
  have others : ∀ other, other ≠ client →
      (server.withLine manager client line).lines.get? other =
        (server.lines.get? other).map (refresh manager.host other) := by
    intro other different
    rw [get?_withLine, if_neg (Ne.symm different)]
  refine
    { ran := ran, kept := ?_, fresh := ?_, returned := ?_, holder := ?_,
      ready := ready }
  · intro other now found
    by_cases different : other = client
    · subst different
      rw [there] at found
      cases found
      exact mine
    · rw [others other different] at found
      obtain ⟨old, foundOld, rfl⟩ := Option.map_eq_some_iff.mp found
      obtain ⟨idle, mayClose, spared⟩ := elsewhere other different
      exact (coupled.kept other old foundOld).refresh idle mayClose
        (spared old foundOld) (fun id => before id other) detached
  · intro other absent
    have different : other ≠ client := by
      rintro rfl
      rw [there] at absent
      cases absent
    rw [others other different, Option.map_eq_none_iff] at absent
    rw [List.filterMap_append, coupled.fresh other absent]
    simp [(elsewhere other different).1]
  · intro id other now
    rcases returned id other now with old | ⟨rfl, rfl, attached⟩
    · obtain ⟨c, found, attached⟩ := coupled.returned id other old
      by_cases different : other = client
      · subst different
        obtain ⟨rfl, still⟩ := stays (id, c) found
        exact ⟨line.2, there, still attached⟩
      · have now : (server.withLine manager client line).lines.get? other =
            some (refresh manager.host other (id, c)) := by
          rw [others other different, found, Option.map_some]
        refine ⟨_, now, ?_⟩
        simpa [Connection.onSession] using attached
    · exact ⟨line.2, there, attached⟩
  · intro progress holds
    rcases holder progress holds with ⟨old, different⟩ | ⟨rfl, id, stage⟩
    · obtain ⟨c, found, stage⟩ := coupled.holder progress old
      have now : (server.withLine manager client line).lines.get?
          progress.call.handle =
            some (refresh manager.host progress.call.handle
              (progress.call.id, c)) := by
        rw [others _ different, found, Option.map_some]
      exact ⟨_, now, stage⟩
    · rw [← id]
      exact ⟨line.2, there, stage⟩

/-! ## One lemma for each kind of step -/

section

variable {tmux : Server} {past : List ServerAction}
  {server next : TerminalServer}

theorem Coupled.connect
    (coupled : Coupled tmux past server)
    {client : Handle}
    {id : String}
    {faults : AttachFaults}
    (stepped : server.step (.connect client id faults) = some next) :
    Coupled tmux (past ++ [.connect client id faults]) next := by
  simp only [step] at stepped
  split at stepped
  · cases stepped
  · next unused =>
      obtain ⟨manager, moved, rfl⟩ := Option.map_eq_some_iff.mp stepped
      have calls := coupled.calls moved
      have new : server.lines.get? client = none := by
        rw [← Option.not_isSome_iff_eq_none]
        exact fun present => unused (.inr present)
      obtain ⟨_, rfl⟩ := Interleaved.step_attachLock.mp moved
      refine coupled.withLine calls ?_ ?_ ?_ ?_ ?_ ?_ ?_ ?_
      · intro call recreated session started
        cases started
      · exact fun other _ => ⟨rfl, .inl rfl, fun _ _ _ => rfl⟩
      · refine ⟨⟨[], rfl, ?_, fun _ => List.not_mem_nil⟩,
          ⟨faults, List.mem_append_right _ List.mem_cons_self⟩, nofun,
          List.nil_subset _⟩
        rw [List.filterMap_append, coupled.fresh client new]
        rfl
      · intro old found
        rw [new] at found
        cases found
      · exact fun _ _ now => now
      · exact List.Subset.refl _
      · exact fun _ _ now => .inl now
      · intro progress holds
        cases holds
        exact .inr ⟨rfl, rfl, rfl⟩

theorem Coupled.handler
    (coupled : Coupled tmux past server)
    {client : Handle}
    {action : ConnectionAction}
    (stepped : server.step (.handler client action) = some next) :
    Coupled tmux (past ++ [.handler client action]) next := by
  simp only [step] at stepped
  split at stepped
  · cases stepped
  · next own =>
      have native : action.foreign = false := by simpa using own
      obtain ⟨line, found, onward⟩ := Option.bind_eq_some_iff.mp stepped
      obtain ⟨manager, called, moved⟩ := Option.bind_eq_some_iff.mp onward
      obtain ⟨c, taken, rfl⟩ := Option.map_eq_some_iff.mp moved
      have kept := coupled.kept client line found
      have affects := Connection.affects_call called
      obtain ⟨session, _⟩ := Connection.session_step native taken
      have calls : ∃ calls,
          run Interleaved.step (Interleaved.start tmux) calls =
            some manager := by
        cases made : line.2.call line.1 client action with
        | none =>
            rw [made] at called
            cases called
            exact coupled.ran
        | some call =>
            rw [made] at called
            exact coupled.calls called
      have owned : manager.Owned := by
        obtain ⟨_, ran⟩ := calls
        exact .ofRun ran
      -- The handler whose `Attach` is under way is another one.
      have away : ∀ progress, server.manager.holder = some progress →
          progress.call.handle ≠ client := by
        rintro progress holds rfl
        obtain ⟨waiting, there, attaching⟩ := coupled.holder progress holds
        rw [found] at there
        cases there
        rw [Connection.stuck_of_attaching kept.sound attaching native] at taken
        cases taken
      have untouched : ∀ other, other ≠ client →
          manager.host.heap.get? other =
            server.manager.host.heap.get? other := by
        intro other different
        rw [affects.heap, if_neg different]
      have same := Interleaved.returned_congr affects.returned
      refine coupled.withLine calls ?_ ?_ ?_ ?_ ?_ affects.detached ?_ ?_
      · refine coupled.ready.of_mayClose owned affects.holder ?_
        intro call recreated started
        exact .inl (untouched call.handle
          (away (.started call recreated) (affects.holder ▸ started)))
      · intro other different
        exact ⟨if_neg (Ne.symm different), .inl (untouched other different),
          fun _ _ _ => untouched other different⟩
      · exact kept.handled native called taken
      · intro old there
        rw [found] at there
        cases there
        refine ⟨rfl, fun attached => ?_⟩
        rw [session]
        simpa [Connection.onSession] using attached
      · exact fun id other => (same id other).mpr
      · exact fun id other now => .inl ((same id other).mp now)
      · intro progress holds
        rw [affects.holder] at holds
        exact .inl ⟨holds, away progress holds⟩

theorem Coupled.manager
    (coupled : Coupled tmux past server)
    {action : Action}
    (stepped : server.step (.manager action) = some next) :
    Coupled tmux (past ++ [.manager action]) next := by
  simp only [step] at stepped
  split at stepped
  · next permits =>
      obtain ⟨manager, moved, rfl⟩ := Option.map_eq_some_iff.mp stepped
      have spared := MayClose.of_permits permits moved
      have owned := coupled.owned.step moved
      have holder := (spared 0).2.1
      have same := Interleaved.returned_congr (spared 0).2.2.1
      have detached : server.manager.detached ⊆ manager.detached := by
        rw [(spared 0).2.2.2]
        exact List.Subset.refl _
      have lines : ∀ client,
          (server.lines.mapWithKey (refresh manager.host)).get? client =
            (server.lines.get? client).map (refresh manager.host client) :=
        fun client => Table.get?_mapWithKey _ _ _
      refine
        { ran := coupled.calls moved, kept := ?_, fresh := ?_, returned := ?_,
          holder := ?_, ready := ?_ }
      · intro client line found
        rw [lines] at found
        obtain ⟨old, foundOld, rfl⟩ := Option.map_eq_some_iff.mp found
        refine (coupled.kept client old foundOld).refresh rfl (spared client).1
          ?_ (fun id => (same id client).mpr) detached
        intro undisturbed
        refine heap_of_permits permits moved ?_ ?_
        · rintro rfl
          exact undisturbed.last trivial
        · rintro id rfl held
          obtain ⟨c, there, _⟩ := coupled.returned id client
            (coupled.owned.slot id client held).1
          rw [foundOld] at there
          cases there
          exact undisturbed.last rfl
      · intro client absent
        rw [lines, Option.map_eq_none_iff] at absent
        rw [List.filterMap_append, coupled.fresh client absent]
        rfl
      · intro id client now
        obtain ⟨c, found, attached⟩ :=
          coupled.returned id client ((same id client).mp now)
        have present := lines client
        rw [found, Option.map_some] at present
        refine ⟨_, present, ?_⟩
        simpa [Connection.onSession] using attached
      · intro progress holds
        obtain ⟨c, found, attaching⟩ := coupled.holder progress (holder ▸ holds)
        have present := lines progress.call.handle
        rw [found, Option.map_some] at present
        exact ⟨_, present, attaching⟩
      · exact coupled.ready.of_mayClose owned holder
          fun call _ _ => (spared call.handle).1
  · cases stepped

/-- As long as `Attach` has no client, it ends with an error or not yet. -/
theorem reply_of_unstarted
    (manager : Interleaved)
    (message : String)
    {progress : Progress}
    (unstarted : ∀ call recreated, progress ≠ .started call recreated) :
    reply manager message progress =
      if manager.holder = none then some (.attachFails message) else none := by
  cases progress with
  | checked call found => rfl
  | existing call recreated => rfl
  | started call recreated => exact absurd rfl (unstarted call recreated)

/-- What `Attach` answers is a step of its connection that is not its own. -/
theorem Kept.answered
    {manager after : Interleaved}
    {client : Handle}
    {id : String}
    {c answered : Connection}
    {entry : ServerAction}
    {answer : ConnectionAction}
    (kept : Kept past manager client (id, c))
    (idle : entry.of? client = none)
    (taken : c.step answer = some answered)
    (foreign : answer.foreign = true)
    (calm : answer ≠ .closeElsewhere)
    (attached : ∀ attached, answered.attached = some attached →
      attached.handle = client ∧
        after.host.heap.get? client = some attached.session ∧
        after.Returned id client)
    (detached : answered.detached ⊆ after.detached) :
    Kept (past ++ [entry]) after client (id, answered) := by
  obtain ⟨steps, ran, performed, alone⟩ := kept.ran
  obtain ⟨faults, connected⟩ := kept.connected
  refine ⟨⟨steps ++ [answer], run_concat ran taken, ?_, ?_⟩,
    ⟨faults, List.mem_append_left _ connected⟩, attached, detached⟩
  · rw [List.filter_append, List.filterMap_append, performed]
    simp [foreign, idle]
  · intro undisturbed member
    rcases List.mem_append.mp member with before | now
    · exact alone undisturbed.before before
    · exact calm (List.mem_singleton.mp now).symm

section Attaching

variable {message : String} {progress : Progress} {c answered : Connection}

/-- A step of the `Attach` under way may close the client that is published
before it, and leaves every other connection alone. -/
theorem Coupled.withAttaching
    (coupled : Coupled tmux past server)
    (holds : server.manager.holder = some progress)
    (found : server.lines.get? progress.call.handle =
      some (progress.call.id, c))
    (attaching : c.main = .attaching)
    (mine : Kept (past ++ [.attachStep message])
      (server.manager.advance progress) progress.call.handle
      (progress.call.id, answered))
    (before : ∀ id other, server.manager.Returned id other →
      (server.manager.advance progress).Returned id other)
    (returned : ∀ id other,
      (server.manager.advance progress).Returned id other →
        server.manager.Returned id other ∨
          other = progress.call.handle ∧ progress.call.id = id ∧
            answered.attached ≠ none)
    (holder : ∀ last, (server.manager.advance progress).holder = some last →
      last.call = progress.call ∧ answered.main = .attaching) :
    Coupled tmux (past ++ [.attachStep message])
      (server.withLine (server.manager.advance progress) progress.call.handle
        (progress.call.id, answered)) := by
  have kept := coupled.kept _ _ found
  obtain ⟨faults, connected⟩ := kept.connected
  have connected := List.mem_append_left [.attachStep message] connected
  have calls := coupled.calls
    (Interleaved.step_attachStep.mpr ⟨progress, holds, rfl⟩)
  have detached : server.manager.detached ⊆
      (server.manager.advance progress).detached := by
    rw [detached_advance]
    exact List.Subset.refl _
  refine coupled.withLine calls (Ready.advance server.manager progress) ?_ mine
    ?_ before detached returned ?_
  · intro other different
    refine ⟨rfl, .advance server.manager different, ?_⟩
    intro theirs there undisturbed
    refine heap_advance server.manager different ?_
    intro held
    obtain ⟨_, again, _⟩ := coupled.returned _ other
      (coupled.owned.slot _ other held).1
    rw [there] at again
    cases again
    exact undisturbed _ connected ⟨rfl, Ne.symm different⟩
  · intro old there
    rw [found] at there
    cases there
    exact ⟨rfl, fun attached =>
      absurd (kept.sound.opened.attaching attaching).1 attached⟩
  · intro last now
    obtain ⟨call, stage⟩ := holder last now
    rw [call]
    exact .inr ⟨rfl, rfl, stage⟩

/-- `Attach` goes on. -/
theorem Coupled.attachHolds
    (coupled : Coupled tmux past server)
    (holds : server.manager.holder = some progress)
    (found : server.lines.get? progress.call.handle =
      some (progress.call.id, c))
    (attaching : c.main = .attaching)
    {later : Progress}
    (call : later.call = progress.call)
    (holder : (server.manager.advance progress).holder = some later)
    (returned : (server.manager.advance progress).returned =
      server.manager.returned) :
    Coupled tmux (past ++ [.attachStep message])
      (server.withLine (server.manager.advance progress) progress.call.handle
        (progress.call.id, c)) := by
  have kept := coupled.kept _ _ found
  have unattached := (kept.sound.opened.attaching attaching).1
  have same := Interleaved.returned_congr returned
  refine coupled.withAttaching holds found attaching ?_
    (fun id other => (same id other).mpr)
    (fun id other now => .inl ((same id other).mp now)) ?_
  · obtain ⟨steps, ran, performed, alone⟩ := kept.ran
    obtain ⟨faults, connected⟩ := kept.connected
    refine ⟨⟨steps, ran, ?_, fun undisturbed => alone undisturbed.before⟩,
      ⟨faults, List.mem_append_left _ connected⟩, ?_, ?_⟩
    · rw [List.filterMap_append, performed]
      exact (List.append_nil _).symm
    · intro attached now
      cases unattached.symm.trans now
    · rw [detached_advance]
      exact kept.detached
  · intro last now
    cases holder.symm.trans now
    exact ⟨call, attaching⟩

/-- `Attach` returns an error. -/
theorem Coupled.attachFails
    (coupled : Coupled tmux past server)
    (holds : server.manager.holder = some progress)
    (found : server.lines.get? progress.call.handle =
      some (progress.call.id, c))
    (attaching : c.main = .attaching)
    (holder : (server.manager.advance progress).holder = none)
    (returned : (server.manager.advance progress).returned =
      server.manager.returned)
    (taken : c.step (.attachFails message) = some answered) :
    Coupled tmux (past ++ [.attachStep message])
      (server.withLine (server.manager.advance progress) progress.call.handle
        (progress.call.id, answered)) := by
  have kept := coupled.kept _ _ found
  have same := Interleaved.returned_congr returned
  have still : answered.attached = none ∧ answered.detached = c.detached := by
    rw [Connection.step, if_pos attaching] at taken
    cases taken
    exact ⟨(kept.sound.opened.attaching attaching).1, rfl⟩
  refine coupled.withAttaching holds found attaching ?_
    (fun id other => (same id other).mpr)
    (fun id other now => .inl ((same id other).mp now)) ?_
  · refine kept.answered rfl taken rfl (by simp) ?_ ?_
    · intro attached now
      cases still.1.symm.trans now
    · rw [still.2, detached_advance]
      exact kept.detached
  · intro last now
    cases holder.symm.trans now

/-- `Attach` returns its client. -/
theorem Coupled.attachReturns
    {call : AttachCall}
    {recreated : Bool}
    {session : Session}
    (coupled : Coupled tmux past server)
    (holds : server.manager.holder = some (.started call recreated))
    (found : server.lines.get? call.handle = some (call.id, c))
    (attaching : c.main = .attaching)
    (holder : (server.manager.advance (.started call recreated)).holder = none)
    (returned : (server.manager.advance (.started call recreated)).returned =
      (call.id, ⟨call.handle, recreated⟩) :: server.manager.returned)
    (heap : (server.manager.advance (.started call recreated)).host.heap.get?
      call.handle = some session)
    (taken : c.step (.attach ⟨call.handle, session, recreated⟩) =
      some answered) :
    Coupled tmux (past ++ [.attachStep message])
      (server.withLine (server.manager.advance (.started call recreated))
        call.handle (call.id, answered)) := by
  have kept := coupled.kept _ _ found
  have now : answered.attached = some ⟨call.handle, session, recreated⟩ ∧
      answered.detached = c.detached := by
    simp only [Connection.step, Option.ite_none_right_eq_some,
      Option.some.injEq] at taken
    obtain ⟨_, rfl⟩ := taken
    exact ⟨rfl, rfl⟩
  refine coupled.withAttaching holds found attaching ?_ ?_ ?_ ?_
  · refine kept.answered rfl taken rfl (by simp) ?_ ?_
    · intro attached found
      cases now.1.symm.trans found
      refine ⟨rfl, heap, recreated, ?_⟩
      rw [returned]
      exact List.mem_cons_self
    · rw [now.2, detached_advance]
      exact kept.detached
  · rintro id other ⟨again, member⟩
    exact ⟨again, by rw [returned]; exact List.mem_cons_of_mem _ member⟩
  · rintro id other ⟨again, member⟩
    rw [returned] at member
    rcases List.mem_cons.mp member with new | old
    · cases new
      exact .inr ⟨rfl, rfl, by rw [now.1]; exact Option.some_ne_none _⟩
    · exact .inl ⟨again, old⟩
  · intro last now
    cases holder.symm.trans now

end Attaching

theorem Coupled.attachStep
    (coupled : Coupled tmux past server)
    {message : String}
    (stepped : server.step (.attachStep message) = some next) :
    Coupled tmux (past ++ [.attachStep message]) next := by
  simp only [step] at stepped
  obtain ⟨progress, holds, onward⟩ := Option.bind_eq_some_iff.mp stepped
  obtain ⟨line, there, moved⟩ := Option.bind_eq_some_iff.mp onward
  obtain ⟨answered, taken, rfl⟩ := Option.map_eq_some_iff.mp moved
  obtain ⟨c, found, attaching⟩ := coupled.holder progress holds
  cases there.symm.trans found
  cases Onward.all server.manager progress with
  | holds later call unstarted holder returned =>
      rw [reply_of_unstarted _ _ unstarted, if_neg (by simp [holder])] at taken
      cases taken
      exact coupled.attachHolds holds found attaching call holder returned
  | fails unstarted holder returned =>
      rw [reply_of_unstarted _ _ unstarted, if_pos holder] at taken
      exact coupled.attachFails holds found attaching holder returned taken
  | returns call recreated started holder returned =>
      subst started
      obtain ⟨session, heap, _⟩ :=
        (coupled.owned.advance holds).returned call.id call.handle
          ⟨recreated, by rw [returned]; exact List.mem_cons_self⟩
      simp only [reply, heap, Option.map_some, Option.elim_some] at taken
      exact coupled.attachReturns holds found attaching holder returned heap
        taken

theorem Coupled.step
    {action : ServerAction}
    (coupled : Coupled tmux past server)
    (stepped : server.step action = some next) :
    Coupled tmux (past ++ [action]) next := by
  cases action with
  | connect client id faults => exact coupled.connect stepped
  | attachStep message => exact coupled.attachStep stepped
  | handler client action => exact coupled.handler stepped
  | manager action => exact coupled.manager stepped

end

theorem Coupled.run
    {tmux : Server}
    {actions : List ServerAction}
    {server : TerminalServer}
    (ran : LociTerm.run TerminalServer.step (TerminalServer.start tmux)
      actions = some server) :
    Coupled tmux actions server :=
  history_of_run (fun _ _ _ _ coupled stepped => coupled.step stepped)
    (Coupled.start tmux) ran

/-- An `Attach` that is under way can always go on: what it returns is a session
that its handler can serve. -/
theorem Coupled.goes_on
    {tmux : Server}
    {past : List ServerAction}
    {server : TerminalServer}
    (coupled : Coupled tmux past server)
    {progress : Progress}
    (holds : server.manager.holder = some progress)
    (message : String) :
    (server.step (.attachStep message)).isSome = true := by
  obtain ⟨c, found, attaching⟩ := coupled.holder progress holds
  simp only [TerminalServer.step, holds, found, Option.bind_some,
    Option.isSome_map]
  cases Onward.all server.manager progress with
  | holds later _ unstarted holder _ =>
      rw [reply_of_unstarted _ _ unstarted, if_neg (by simp [holder])]
      rfl
  | fails unstarted holder _ =>
      rw [reply_of_unstarted _ _ unstarted, if_pos holder]
      simp [Connection.step, attaching]
  | returns call recreated started holder returned =>
      subst started
      obtain ⟨session, heap, _, unclosed, unreturned⟩ :=
        coupled.owned.pending _ holds
      have shown := coupled.ready call recreated session holds heap
      -- The prior client is another one.
      have kept : (server.manager.host.attachPublish call).heap.get?
          call.handle = some session := by
        rw [Host.get?_heap_attachPublish, if_neg, heap]
        intro prior
        exact unreturned call.id (coupled.owned.slot _ _ prior).1
      simp [reply, Interleaved.advance, kept, Connection.step, attaching, shown,
        unclosed]

/-! ## Where all handlers rest -/

/-- A client whose handler rests is open if it is served, and closed if the
handler has returned. -/
theorem Coupled.at_rest
    {tmux : Server}
    {past : List ServerAction}
    {server : TerminalServer}
    (coupled : Coupled tmux past server)
    (resting : ∀ client id c, server.lines.get? client = some (id, c) →
      c.Resting)
    {id : String}
    {client : Handle}
    (returned : server.manager.Returned id client) :
    ∃ c session, server.lines.get? client = some (id, c) ∧
      server.manager.host.heap.get? client = some session ∧
      (c.Serving ∧ server.manager.host.sessions.get? id = some client ∨
        ¬c.Serving ∧ session.closed = true) := by
  obtain ⟨c, found, present⟩ := coupled.returned id client returned
  have kept := coupled.kept client (id, c) found
  obtain ⟨steps, ran, _⟩ := kept.ran
  obtain ⟨sound, staged⟩ := Connection.Staged.run ran
  obtain ⟨attached, now⟩ := Option.ne_none_iff_exists'.mp present
  obtain ⟨handle, heap, _⟩ := kept.attached attached now
  obtain ⟨session, again, _, slot⟩ := coupled.owned.returned id client returned
  rw [heap] at again
  cases again
  refine ⟨c, attached.session, found, heap, ?_⟩
  rcases (resting client id c found).main with waiting | returned
  · have serving := (resting client id c found).serving sound staged waiting
    refine .inl ⟨serving, slot ?_⟩
    -- Its PTY is open.
    by_contra closed
    refine serving.uncut (.inr ⟨attached, now, ?_⟩)
    exact sound.closed.session attached now (by simpa using closed)
  · refine .inr ⟨fun serving => ?_, ?_⟩
    · rw [serving.main] at returned
      cases returned
    · -- It has been detached, so that it holds no slot.
      by_contra closed
      have held := slot (by simpa using closed)
      have given := (sound.closed.detached (.inr returned) attached now).2
      refine (coupled.owned.slot id client held).2.2 (kept.detached ?_)
      rw [given, handle]
      exact List.mem_cons_self

/-- Every handler of the server goes through a run of one connection: its own
steps in their order, and between them what `Attach` answers and the closing of
its session by others, which happens only if somebody attaches to the same id,
kills it or shuts the manager down.  The manager goes through a run of its own,
and no `Attach` is ever stuck.  Once every handler rests and no `Attach` is
under way, the map holds the clients of the handlers that serve, each under its
id, and every other client has been closed, its process killed once and reaped
once. -/
theorem handlers_share_manager
    {tmux : Server}
    {actions : List ServerAction}
    {server : TerminalServer}
    (ran : LociTerm.run TerminalServer.step (TerminalServer.start tmux)
      actions = some server) :
    (∀ client id c, server.lines.get? client = some (id, c) →
      (∃ steps, LociTerm.run Connection.step Connection.start steps = some c ∧
        steps.filter (!·.foreign) = actions.filterMap (·.of? client) ∧
        (Undisturbed actions id client → .closeElsewhere ∉ steps)) ∧
      ∀ attached, c.attached = some attached →
        attached.handle = client ∧
          server.manager.host.heap.get? client = some attached.session) ∧
    (∃ calls, LociTerm.run Interleaved.step (Interleaved.start tmux) calls =
      some server.manager) ∧
    (∀ progress, server.manager.holder = some progress →
      ∀ message, (server.step (.attachStep message)).isSome = true) ∧
    (server.manager.holder = none →
      (∀ client id c, server.lines.get? client = some (id, c) → c.Resting) →
        (∀ id client, server.manager.host.sessions.get? id = some client ↔
          ∃ c, server.lines.get? client = some (id, c) ∧ c.Serving) ∧
        ∀ client session, server.manager.host.heap.get? client = some session →
          (∃ id c, server.lines.get? client = some (id, c) ∧ c.Serving) ∨
            session.closed = true ∧ session.kills = 1 ∧ session.waits = 1) := by
  have coupled := Coupled.run ran
  refine ⟨fun client id c found => ?_, coupled.ran,
    fun progress holds => coupled.goes_on holds, fun idle resting => ⟨?_, ?_⟩⟩
  · have kept := coupled.kept client (id, c) found
    refine ⟨kept.ran, fun attached now => ?_⟩
    obtain ⟨handle, heap, _⟩ := kept.attached attached now
    exact ⟨handle, heap⟩
  · intro id client
    constructor
    · intro held
      obtain ⟨returned, ⟨session, heap, opened⟩, _⟩ :=
        coupled.owned.slot id client held
      obtain ⟨c, same, found, again, ⟨serving, _⟩ | ⟨_, closed⟩⟩ :=
        coupled.at_rest resting returned
      · exact ⟨c, found, serving⟩
      · rw [heap] at again
        cases again
        rw [opened] at closed
        cases closed
    · rintro ⟨c, found, serving⟩
      have kept := coupled.kept client (id, c) found
      obtain ⟨attached, now⟩ : ∃ attached, c.attached = some attached := by
        apply Option.ne_none_iff_exists'.mp
        intro missing
        have unstarted := kept.sound.opened.unattached missing
        rw [serving.pump] at unstarted
        cases unstarted
      obtain ⟨_, _, returned⟩ := kept.attached attached now
      obtain ⟨again, _, there, _, ⟨_, held⟩ | ⟨unserved, _⟩⟩ :=
        coupled.at_rest resting returned
      · exact held
      · rw [found] at there
        cases there
        exact absurd serving unserved
  · intro client session heap
    rcases coupled.owned.known client session heap with ⟨id, returned⟩ | started
    · obtain ⟨c, again, found, there, ⟨serving, _⟩ | ⟨_, closed⟩⟩ :=
        coupled.at_rest resting returned
      · exact .inl ⟨id, c, found, serving⟩
      · rw [heap] at there
        cases there
        obtain ⟨kills, waits⟩ := coupled.owned.reaped client session heap
        rw [closed] at kills waits
        exact .inr ⟨closed, kills, waits⟩
    · obtain ⟨_, _, holds, _⟩ := started
      rw [idle] at holds
      cases holds

/-- A second device takes the session, and the handler of the first goes. -/
def takeover : List ServerAction :=
  [.connect 0 "a" ⟨false, false⟩, .attachStep "", .attachStep "",
    .attachStep "", .handler 0 (.begin (.attached true)), .handler 0 .finish,
    .connect 1 "a" ⟨false, false⟩, .attachStep "", .attachStep "",
    .attachStep "", .handler 1 (.begin (.attached false)), .handler 1 .finish,
    .handler 0 (.read none), .handler 0 (.enter .pump),
    .handler 0 (.shutdown .pump), .handler 0 (.shutdown .pump),
    .handler 0 (.shutdown .pump), .handler 0 .wake, .handler 0 .detach,
    .handler 0 .closeConn, .handler 0 (.receive none),
    .handler 0 (.enter .reader)]

/-- The server behind it. -/
def takenOver : Option TerminalServer :=
  LociTerm.run TerminalServer.step (TerminalServer.start Server.fresh) takeover

theorem handlers_share_manager_takeover :
    ∃ server, takenOver = some server ∧
      server.manager.host.sessions.get? "a" = some 1 ∧
      (∃ c, server.lines.get? 1 = some ("a", c) ∧ c.Serving) ∧
      ∀ client session, server.manager.host.heap.get? client = some session →
        (∃ id c, server.lines.get? client = some (id, c) ∧ c.Serving) ∨
          session.closed = true ∧ session.kills = 1 ∧ session.waits = 1 := by
  have ran := (Option.some_get (show takenOver.isSome = true by decide)).symm
  obtain ⟨lines, _, _, rest⟩ := handlers_share_manager ran
  -- One handler has returned and the other serves.
  have settled : ∀ entry ∈ (takenOver.get (by decide)).lines.entries,
      (entry.2.2.main = .returned ∧ entry.2.2.pump = .ended .done ∧
          entry.2.2.reader = .ended .done ∧ entry.2.2.lock = none ∧
          entry.2.2.socketOpen = false ∧
          entry.2.2.attached.all (!·.session.ptmxOpen)) ∨
        entry.2.2.main = .waiting ∧ entry.2.2.pump = .at none ∧
          entry.2.2.reader = .at false ∧ entry.2.2.lock = none ∧
          entry.2.2.once = .idle ∧ entry.2.2.socketOpen = true ∧
          entry.2.2.attached.all (·.session.ptmxOpen) := by decide
  have held : (takenOver.get (by decide)).manager.host.sessions.get? "a" =
      some 1 := by decide
  obtain ⟨slots, clients⟩ := rest (by decide) fun client id c found => by
    obtain ⟨⟨steps, went, _⟩, _⟩ := lines client id c found
    have member := (Table.mem_entries_iff _ _ _).mpr found
    rcases settled _ member with
      ⟨main, pump, reader, lock, socket, shut⟩ |
      ⟨main, pump, reader, lock, once, socket, shown⟩
    · refine Connection.Finished.resting
        ⟨main, .inr pump, .inr reader, lock, socket, ?_⟩
      intro attached now
      simpa [now] using shut
    · refine Connection.Serving.resting
        ⟨main, pump, reader, lock, once, ?_⟩ (Connection.Sound.run went)
      rintro (cut | ⟨attached, now, shut⟩)
      · rw [socket] at cut
        cases cut
      · simp [now, shut] at shown
  exact ⟨_, ran, held, (slots "a" 1).mp held, clients⟩

end TerminalServer
end Ws
end LociTerm
