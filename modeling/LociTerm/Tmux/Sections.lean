import LociTerm.Tmux.Interleaving

/-!
# Inside the sections under the mutex

An interleaving takes each section under the manager's mutex as one step.  Here
a section goes on statement by statement, and whatever does not take the mutex
happens in between: a handler resizes its PTY or closes it, a `kill-session`
runs, a tmux session ends.  `Shutdown` visits the map in any order.  Nobody can
tell the difference.
-/

namespace LociTerm
namespace Tmux

/-- A statement of a section. -/
inductive Statement
  /-- `sess.Close()` -/
  | close (client : Handle)
  /-- `delete(m.sessions, id)` -/
  | deleteSession (id : String)
  /-- `m.sessions[id] = sess` -/
  | setSession (id : String) (client : Handle)
  /-- `delete(m.lastSize, id)` -/
  | deleteSize (id : String)
  /-- `m.lastSize[id] = size` -/
  | setSize (id : String) (size : Size)
  /-- `Attach` returns. -/
  | answer (id : String) (result : AttachResult)
  /-- `Detach` returns. -/
  | givenBack (client : Handle)
  deriving DecidableEq

/-- What a statement does to the host. -/
def Statement.onHost (host : Host) : Statement → Host
  | .close client => host.close client
  | .deleteSession id => { host with sessions := host.sessions.erase id }
  | .setSession id client =>
      { host with sessions := host.sessions.set id client }
  | .deleteSize id => { host with lastSize := host.lastSize.erase id }
  | .setSize id size => { host with lastSize := host.lastSize.set id size }
  | .answer _ _ | .givenBack _ => host

/-- Execute a statement. -/
def Statement.run (state : Interleaved) (statement : Statement) : Interleaved :=
  let state := { state with host := statement.onHost state.host }
  match statement with
  | .answer id result =>
      { state with returned := (id, result) :: state.returned }
  | .givenBack client => { state with detached := client :: state.detached }
  | _ => state

namespace Host

/-- The rest of `Attach`, once its client runs. -/
def publishBody
    (host : Host)
    (call : AttachCall)
    (recreated : Bool) : List Statement :=
  (match host.sessions.get? call.id with
    | some prior => [.close prior]
    | none => []) ++
    [.setSession call.id call.handle, .answer call.id ⟨call.handle, recreated⟩]

/-- `Detach` -/
def detachBody (host : Host) (id : String) (client : Handle) : List Statement :=
  (if host.sessions.get? id = some client then [.deleteSession id] else []) ++
    [.close client, .givenBack client]

/-- `KillSession`, up to its `Unlock`. -/
def killBody (host : Host) (id : String) : List Statement :=
  (match host.sessions.get? id with
    | some client => [.close client, .deleteSession id]
    | none => []) ++ [.deleteSize id]

end Host

/-- `Shutdown`, with the order in which it visits the map. -/
def shutdownBody (order : List (String × Handle)) : List Statement :=
  order.flatMap fun entry => [.close entry.2, .deleteSession entry.1]

/-- Where the call is that holds the mutex, if it is no `Attach` that waits for
tmux. -/
inductive Inside
  /-- `Resize` has looked into the cache; its `resize-window` is next. -/
  | resizing (id : String) (size : Size)
  /-- The statements that are left.  The id is that of a `KillSession`. -/
  | running (kills : Option String) (left : List Statement)
  deriving DecidableEq

/-- The calls of a manager, with the section that is under way.  A `KillSession`
is listed in `killing` from the start of its section. -/
structure Detailed where
  state : Interleaved
  inside : Option Inside
  deriving DecidableEq

/-- A statement of a section, the start or the end of one, or what happens
without the mutex. -/
inductive DetailedAction
  | attachLock (call : AttachCall)
  /-- A step of `Attach` with a tmux command. -/
  | attachCommand
  | publish
  | detachLock (id : String) (client : Handle)
  | killLock (id : String)
  | shutdownLock (order : List (String × Handle))
  /-- `Resize` finds the size in the cache, and returns. -/
  | resizeCached (id : String) (size : Size)
  | resizeLock (id : String) (size : Size)
  | resizeCommand (id : String) (size : Size) (fails : Bool)
  | statement
  | unlock
  | killTmux (id : String)
  | resizePTY (client : Handle) (size : Size)
  | closePTMX (client : Handle)
  | sessionEnds (id : String)
  deriving DecidableEq

/-- The step of an interleaving that a step inside a section stands for. -/
def DetailedAction.commit : DetailedAction → Option Action
  | .attachLock call => some (.attachLock call)
  | .attachCommand | .publish => some .attachStep
  | .detachLock id client => some (.detach id client)
  | .killLock id => some (.killLock id)
  | .shutdownLock _ => some .shutdown
  | .resizeCached id size => some (.resize id size false)
  | .resizeCommand id size fails => some (.resize id size fails)
  | .resizeLock _ _ | .statement | .unlock => none
  | .killTmux id => some (.killTmux id)
  | .resizePTY client size => some (.resizePTY client size)
  | .closePTMX client => some (.closePTMX client)
  | .sessionEnds id => some (.sessionEnds id)

namespace Detailed

/-- No call has begun. -/
def start (server : Server) : Detailed := ⟨Interleaved.start server, none⟩

/-- Nobody holds the mutex. -/
def Free (d : Detailed) : Prop := d.inside = none ∧ d.state.holder = none

instance (d : Detailed) : Decidable d.Free :=
  inferInstanceAs (Decidable (_ ∧ _))

/-- How many of the listed `KillSession` calls are in their section. -/
def inSection (d : Detailed) (id : String) : Nat :=
  match d.inside with
  | some (.running (some kills) _) => if kills = id then 1 else 0
  | _ => 0

/-- The step relation. -/
def step (d : Detailed) : DetailedAction → Option Detailed
  | .attachLock call =>
      if d.inside = none then
        (d.state.step (.attachLock call)).map ({ d with state := · })
      else none
  | .attachCommand =>
      match d.inside, d.state.holder with
      | none, some (.checked call found) =>
          some { d with state := d.state.advance (.checked call found) }
      | none, some (.existing call recreated) =>
          some { d with state := d.state.advance (.existing call recreated) }
      | _, _ => none
  | .publish =>
      match d.inside, d.state.holder with
      | none, some (.started call recreated) =>
          some ⟨{ d.state with holder := none },
            some (.running none (d.state.host.publishBody call recreated))⟩
      | _, _ => none
  | .detachLock id client =>
      if d.Free ∧ d.state.Returned id client then
        some { d with
          inside := some (.running none (d.state.host.detachBody id client)) }
      else none
  | .killLock id =>
      if d.Free then
        some ⟨{ d.state with killing := id :: d.state.killing },
          some (.running (some id) (d.state.host.killBody id))⟩
      else none
  | .shutdownLock order =>
      if d.Free ∧ order.Perm d.state.host.sessions.entries then
        some { d with inside := some (.running none (shutdownBody order)) }
      else none
  | .resizeCached id size =>
      if d.Free ∧ d.state.host.lastSize.get? id = some size then some d
      else none
  | .resizeLock id size =>
      if d.Free ∧ d.state.host.lastSize.get? id ≠ some size then
        some { d with inside := some (.resizing id size) }
      else none
  | .resizeCommand id size fails =>
      if d.inside = some (.resizing id size) then
        if fails then some { d with inside := none }
        else
          match d.state.host.server.resizeWindow (tmuxName id) size with
          | none => some { d with inside := none }
          | some server =>
              some ⟨{ d.state with host := { d.state.host with server } },
                some (.running none [.setSize id size])⟩
      else none
  | .statement =>
      match d.inside with
      | some (.running kills (statement :: left)) =>
          some ⟨statement.run d.state, some (.running kills left)⟩
      | _ => none
  | .unlock =>
      match d.inside with
      | some (.running _ []) => some { d with inside := none }
      | _ => none
  | .killTmux id =>
      if d.inSection id < d.state.killing.count id then
        (d.state.step (.killTmux id)).map ({ d with state := · })
      else none
  | .resizePTY client size =>
      (d.state.step (.resizePTY client size)).map ({ d with state := · })
  | .closePTMX client =>
      (d.state.step (.closePTMX client)).map ({ d with state := · })
  | .sessionEnds id =>
      (d.state.step (.sessionEnds id)).map ({ d with state := · })

/-- The state once the section under way has come to its end. -/
def whole (d : Detailed) : Interleaved :=
  match d.inside with
  | some (.running _ left) => left.foldl Statement.run d.state
  | some (.resizing _ _) | none => d.state

end Detailed

/-! ## What commutes with a statement -/

namespace Session

theorem close_closePTMX (session : Session) :
    session.closePTMX.close = session.close.closePTMX := by
  cases closed : session.closed <;> simp [close, closePTMX, closed]

theorem close_resize (session : Session) (size : Size) :
    (session.resize size).close = session.close.resize size := by
  cases closed : session.closed <;> simp [close, resize, closed]

end Session

theorem modify_comm
    {heap : Table Handle Session}
    {client other : Handle}
    {f g : Session → Session}
    (commute : client = other → ∀ session, f (g session) = g (f session)) :
    (heap.modify client f).modify other g =
      (heap.modify other g).modify client f := by
  unfold Table.modify
  rw [Table.mapWithKey_mapWithKey, Table.mapWithKey_mapWithKey]
  congr 1
  funext key session
  split <;> split
  · next second first => exact (commute (first.symm.trans second) session).symm
  all_goals rfl

/-- The process of the client runs. -/
def Host.runs (host : Host) (client : Handle) : Bool :=
  (host.heap.get? client).any (!·.closed)

theorem Host.close_eq (host : Host) (client : Handle) :
    host.close client =
      { host with
        heap := host.heap.modify client Session.close
        server := if host.runs client then host.server.clientExits client
          else host.server } := by
  unfold Host.close Host.runs
  cases found : host.heap.get? client with
  | none =>
      rw [Table.modify_of_fixed]
      · rfl
      · simp [found]
  | some session =>
      cases closed : session.closed with
      | true =>
          rw [Table.modify_of_fixed]
          · simp [closed]
          · simp [found, Session.close, closed]
      | false =>
          simp only [closed, Bool.false_eq_true, if_false]
          rw [Table.set_eq_modify (f := Session.close) found]
          simp [closed]

theorem Host.runs_modify
    (host : Host)
    (client other : Handle)
    {f : Session → Session}
    (keeps : ∀ session, (f session).closed = session.closed) :
    ({ host with heap := host.heap.modify client f } : Host).runs other =
      host.runs other := by
  simp only [Host.runs, Table.get?_modify]
  split
  · cases host.heap.get? other with
    | none => rfl
    | some session => simp [keeps]
  · rfl

/-- Whatever leaves the flag alone commutes with `Close`. -/
theorem Host.close_modify
    (host : Host)
    (client other : Handle)
    {f : Session → Session}
    (keeps : ∀ session, (f session).closed = session.closed)
    (commute : ∀ session, (f session).close = f session.close) :
    ({ host with heap := host.heap.modify client f } : Host).close other =
      { host.close other with
        heap := (host.close other).heap.modify client f } := by
  rw [Host.close_eq, Host.close_eq, Host.runs_modify host client other keeps]
  simp only
  rw [modify_comm fun _ session => (commute session).symm]

theorem Host.close_killTmux (host : Host) (client : Handle) (id : String) :
    (host.killTmux id).close client = (host.close client).killTmux id := by
  rw [Host.close_eq, Host.close_eq]
  have same : (host.killTmux id).runs client = host.runs client := rfl
  rw [same]
  simp only [Host.killTmux]
  split
  · simp [Server.clientExits, Server.killSession, Table.erase_mapWithKey]
  · rfl

/-- The order in which clients are closed does not matter. -/
theorem Host.close_comm (host : Host) (client other : Handle) :
    (host.close client).close other = (host.close other).close client := by
  by_cases same : client = other
  · rw [same]
  · have apart : ∀ {first second : Handle}, first ≠ second →
        (host.close first).runs second = host.runs second := by
      intro first second different
      simp only [Host.runs, Host.get?_heap_close, if_neg different.symm]
    rw [Host.close_eq (host.close client), Host.close_eq (host.close other),
      apart same, apart (Ne.symm same), Host.close_eq host client,
      Host.close_eq host other]
    simp only
    rw [modify_comm fun same' => absurd same' same]
    congr 1
    split <;> split
    · simp only [Server.clientExits, Table.mapWithKey_mapWithKey,
        List.filter_filter, Bool.and_comm]
    all_goals rfl

/-- What happens to the clients and to tmux without the mutex. -/
structure Outside (change : Host → Host) : Prop where
  lastSize : ∀ host, (change host).lastSize = host.lastSize
  commutes : ∀ host (statement : Statement),
    statement.onHost (change host) = change (statement.onHost host)

namespace Outside

theorem killTmux (id : String) : Outside (·.killTmux id) where
  lastSize := fun _ => rfl
  commutes := by
    intro host statement
    cases statement with
    | close client => exact host.close_killTmux client id
    | _ => rfl

theorem resizePTY (client : Handle) (size : Size) :
    Outside (·.resizePTY client size) where
  lastSize := fun _ => rfl
  commutes := by
    intro host statement
    cases statement with
    | close other =>
        apply host.close_modify client other
        · exact fun _ => rfl
        · exact fun session => session.close_resize size
    | _ => rfl

theorem closePTMX (client : Handle) : Outside (·.closePTMX client) where
  lastSize := fun _ => rfl
  commutes := by
    intro host statement
    cases statement with
    | close other =>
        apply host.close_modify client other
        · exact Session.closed_closePTMX
        · exact Session.close_closePTMX
    | _ => rfl

/-- It makes no difference whether it happens before or after the rest of the
section. -/
theorem foldl
    {change : Host → Host}
    (outside : Outside change)
    (kills : List String → List String)
    (left : List Statement)
    (state : Interleaved) :
    left.foldl Statement.run
        { state with
          host := change state.host
          killing := kills state.killing } =
      { left.foldl Statement.run state with
        host := change (left.foldl Statement.run state).host
        killing := kills (left.foldl Statement.run state).killing } := by
  let after (state : Interleaved) : Interleaved :=
    { state with host := change state.host, killing := kills state.killing }
  apply List.foldl_hom after
  intro state statement
  simp only [Statement.run, after, outside.commutes]
  cases statement <;> rfl

end Outside

/-! ## The sections as a whole -/

theorem foldl_shutdownBody
    (order : List (String × Handle))
    (state : Interleaved) :
    (shutdownBody order).foldl Statement.run state =
      { state with host := order.foldl Host.shutdownOne state.host } := by
  induction order generalizing state with
  | nil => rfl
  | cons entry order inductionHypothesis => exact inductionHypothesis _

theorem Host.shutdownOne_comm (host : Host) (entry other : String × Handle) :
    (host.shutdownOne entry).shutdownOne other =
      (host.shutdownOne other).shutdownOne entry := by
  have inside : ∀ (host : Host) sessions client,
      ({ host with sessions := sessions } : Host).close client =
        { host.close client with sessions := sessions } := by
    intro host sessions client
    rw [Host.close_eq, Host.close_eq]
    rfl
  simp only [Host.shutdownOne]
  rw [inside (host.close entry.2), inside (host.close other.2),
    host.close_comm entry.2 other.2]
  simp only [Host.sessions_close, Table.erase_comm _ entry.1 other.1]

/-- `Shutdown` may visit the map in any order. -/
theorem Host.shutdown_eq_of_perm
    {host : Host}
    {order : List (String × Handle)}
    (perm : order.Perm host.sessions.entries) :
    order.foldl Host.shutdownOne host = host.shutdown := by
  apply perm.foldl_eq'
  intro entry _ other _ host
  exact host.shutdownOne_comm entry other

theorem foldl_detachBody
    (state : Interleaved)
    (id : String)
    (client : Handle) :
    (state.host.detachBody id client).foldl Statement.run state =
      { state with
        host := state.host.detach id (some client)
        detached := client :: state.detached } := by
  simp only [Host.detachBody, Host.detach]
  split <;> rfl

theorem foldl_killBody (state : Interleaved) (id : String) :
    (state.host.killBody id).foldl Statement.run state =
      { state with host := state.host.killLocked id } := by
  cases held : state.host.sessions.get? id with
  | none =>
      simp only [Host.killBody, Host.killLocked, held]
      rfl
  | some client =>
      simp only [Host.killBody, Host.killLocked, held]
      rfl

theorem foldl_publishBody
    (state : Interleaved)
    (call : AttachCall)
    (recreated : Bool) :
    (state.host.publishBody call recreated).foldl Statement.run
        { state with holder := none } =
      state.advance (.started call recreated) := by
  cases held : state.host.sessions.get? call.id with
  | none =>
      simp only [Host.publishBody, Interleaved.advance, Host.attachPublish,
        held]
      rfl
  | some prior =>
      simp only [Host.publishBody, Interleaved.advance, Host.attachPublish,
        held]
      rfl

namespace Detailed

/-- The mutex is held by one call at a time. -/
structure Exclusive (d : Detailed) : Prop where
  alone : d.inside ≠ none → d.state.holder = none
  uncached : ∀ id size, d.inside = some (.resizing id size) →
    d.state.host.lastSize.get? id ≠ some size

theorem Exclusive.start (server : Server) : (start server).Exclusive where
  alone := fun present => absurd rfl present
  uncached := by
    intro id size resizing
    cases resizing

/-! ## One step -/

section

variable {d next : Detailed}

theorem whole_of_free (free : d.Free) : d.whole = d.state := by
  rw [whole, free.1]

theorem killing_whole (d : Detailed) : d.whole.killing = d.state.killing := by
  have kept : ∀ (left : List Statement) (state : Interleaved),
      (left.foldl Statement.run state).killing = state.killing := by
    intro left
    induction left with
    | nil => exact fun _ => rfl
    | cons statement left inductionHypothesis =>
        intro state
        refine (inductionHypothesis _).trans ?_
        cases statement <;> rfl
  unfold whole
  split
  · exact kept _ _
  · rfl
  · rfl

/-- The section under way does not notice what happens without the mutex. -/
theorem whole_outside
    {change : Host → Host}
    (outside : Outside change)
    (kills : List String → List String)
    (d : Detailed) :
    (⟨{ d.state with
        host := change d.state.host
        killing := kills d.state.killing }, d.inside⟩ : Detailed).whole =
      { d.whole with
        host := change d.whole.host
        killing := kills d.whole.killing } := by
  obtain ⟨state, inside⟩ := d
  cases inside with
  | none => rfl
  | some inside =>
      cases inside with
      | resizing id size => rfl
      | running id left => exact outside.foldl kills left state

theorem Exclusive.outside
    {change : Host → Host}
    (exclusive : d.Exclusive)
    (outside : Outside change)
    (kills : List String → List String) :
    (⟨{ d.state with
        host := change d.state.host
        killing := kills d.state.killing }, d.inside⟩ :
      Detailed).Exclusive where
  alone := exclusive.alone
  uncached := by
    intro id size resizing
    simp only [outside.lastSize]
    exact exclusive.uncached id size resizing

/-- A section that is no `resize-window` excludes the others. -/
theorem Exclusive.of_running
    {state : Interleaved}
    {kills : Option String}
    {left : List Statement}
    (holder : state.holder = none) :
    (⟨state, some (.running kills left)⟩ : Detailed).Exclusive where
  alone := fun _ => holder
  uncached := by
    intro id size resizing
    cases resizing

theorem Exclusive.of_outside
    {state : Interleaved} :
    (⟨state, none⟩ : Detailed).Exclusive where
  alone := fun present => absurd rfl present
  uncached := by
    intro id size resizing
    cases resizing

/-- What a step means for the interleaving. -/
def Commits (d : Detailed) (action : DetailedAction) (next : Detailed) : Prop :=
  next.Exclusive ∧
    action.commit.elim (some d.whole) d.whole.step = some next.whole

theorem commits_resizeCommand
    (exclusive : d.Exclusive)
    {id : String}
    {size : Size}
    {fails : Bool}
    (stepped : d.step (.resizeCommand id size fails) = some next) :
    d.Commits (.resizeCommand id size fails) next := by
  simp only [step, Option.ite_none_right_eq_some] at stepped
  obtain ⟨resizing, taken⟩ := stepped
  have uncached := exclusive.uncached id size resizing
  have holder := exclusive.alone (by simp [resizing])
  have here : d.whole = d.state := by rw [whole, resizing]
  cases fails with
  | true =>
      cases taken
      refine ⟨.of_outside, ?_⟩
      rw [here]
      apply Interleaved.step_resize.mpr
      exact ⟨holder, by simp [Host.resize, uncached, whole]⟩
  | false =>
      simp only [Bool.false_eq_true, if_false] at taken
      cases sent : d.state.host.server.resizeWindow (tmuxName id) size with
      | none =>
          rw [sent] at taken
          cases taken
          refine ⟨.of_outside, ?_⟩
          rw [here]
          apply Interleaved.step_resize.mpr
          exact ⟨holder, by simp [Host.resize, uncached, sent, whole]⟩
      | some server =>
          rw [sent] at taken
          cases taken
          refine ⟨.of_running holder, ?_⟩
          rw [here]
          apply Interleaved.step_resize.mpr
          refine ⟨holder, ?_⟩
          simp [Host.resize, uncached, sent, whole, Statement.run,
            Statement.onHost]

/-- A section that begins does, as a whole, what the call does in one step. -/
theorem commits_lock
    {action : DetailedAction}
    {call : Action}
    {state : Interleaved}
    {kills : Option String}
    {left : List Statement}
    (commits : action.commit = some call)
    (free : d.Free)
    (holder : state.holder = none)
    (moves : d.state.step call = some (left.foldl Statement.run state)) :
    d.Commits action ⟨state, some (.running kills left)⟩ := by
  refine ⟨.of_running holder, ?_⟩
  rw [commits, whole_of_free free]
  exact moves

/-- A step of `Attach` before its client runs. -/
theorem commits_attach
    {action : DetailedAction}
    {call : Action}
    {state : Interleaved}
    (commits : action.commit = some call)
    (outside : d.inside = none)
    (moves : d.state.step call = some state) :
    d.Commits action { d with state := state } := by
  have here : d.whole = d.state := by rw [whole, outside]
  refine ⟨?_, ?_⟩
  · rw [outside]
    exact .of_outside
  · rw [commits, here]
    simpa [whole, outside] using moves

/-- What happens without the mutex. -/
theorem commits_outside
    {action : DetailedAction}
    {call : Action}
    {change : Host → Host}
    (exclusive : d.Exclusive)
    (outside : Outside change)
    (commits : action.commit = some call)
    (moves : ∀ state next : Interleaved, state.step call = some next ↔
      { state with host := change state.host } = next)
    (stepped : (d.state.step call).map ({ d with state := · }) = some next) :
    d.Commits action next := by
  obtain ⟨state, moved, rfl⟩ := Option.map_eq_some_iff.mp stepped
  obtain rfl := (moves _ _).mp moved
  refine ⟨exclusive.outside outside id, ?_⟩
  rw [commits]
  apply (moves _ _).mpr
  exact (whole_outside outside id d).symm

theorem commits_attachLock
    {call : AttachCall}
    (stepped : d.step (.attachLock call) = some next) :
    d.Commits (.attachLock call) next := by
  simp only [step, Option.ite_none_right_eq_some] at stepped
  obtain ⟨outside, taken⟩ := stepped
  obtain ⟨state, moved, rfl⟩ := Option.map_eq_some_iff.mp taken
  exact commits_attach rfl outside moved

theorem commits_attachCommand (stepped : d.step .attachCommand = some next) :
    d.Commits .attachCommand next := by
  simp only [step] at stepped
  split at stepped
  · next call found outside holds =>
      cases stepped
      exact commits_attach rfl outside
        (Interleaved.step_attachStep.mpr ⟨_, holds, rfl⟩)
  · next call recreated outside holds =>
      cases stepped
      exact commits_attach rfl outside
        (Interleaved.step_attachStep.mpr ⟨_, holds, rfl⟩)
  · cases stepped

theorem commits_publish (stepped : d.step .publish = some next) :
    d.Commits .publish next := by
  simp only [step] at stepped
  split at stepped
  · next call recreated outside holds =>
      cases stepped
      have here : d.whole = d.state := by rw [whole, outside]
      refine ⟨.of_running rfl, ?_⟩
      rw [here]
      apply Interleaved.step_attachStep.mpr
      refine ⟨_, holds, ?_⟩
      exact (foldl_publishBody d.state call recreated).symm
  · cases stepped

theorem commits_detachLock
    {id : String}
    {client : Handle}
    (stepped : d.step (.detachLock id client) = some next) :
    d.Commits (.detachLock id client) next := by
  simp only [step, Option.ite_none_right_eq_some, Option.some.injEq]
    at stepped
  obtain ⟨⟨free, returned⟩, rfl⟩ := stepped
  refine commits_lock rfl free free.2 ?_
  apply Interleaved.step_detach.mpr
  exact ⟨⟨free.2, returned⟩, (foldl_detachBody d.state id client).symm⟩

theorem commits_killLock
    {id : String}
    (stepped : d.step (.killLock id) = some next) :
    d.Commits (.killLock id) next := by
  simp only [step, Option.ite_none_right_eq_some, Option.some.injEq]
    at stepped
  obtain ⟨free, rfl⟩ := stepped
  refine commits_lock rfl free free.2 ?_
  apply Interleaved.step_killLock.mpr
  refine ⟨free.2, ?_⟩
  exact (foldl_killBody
    { d.state with killing := id :: d.state.killing } id).symm

theorem commits_shutdownLock
    {order : List (String × Handle)}
    (stepped : d.step (.shutdownLock order) = some next) :
    d.Commits (.shutdownLock order) next := by
  simp only [step, Option.ite_none_right_eq_some, Option.some.injEq]
    at stepped
  obtain ⟨⟨free, perm⟩, rfl⟩ := stepped
  refine commits_lock rfl free free.2 ?_
  apply Interleaved.step_shutdown.mpr
  refine ⟨free.2, ?_⟩
  rw [← Host.shutdown_eq_of_perm perm]
  exact (foldl_shutdownBody order d.state).symm

theorem commits_resizeCached
    {id : String}
    {size : Size}
    (exclusive : d.Exclusive)
    (stepped : d.step (.resizeCached id size) = some next) :
    d.Commits (.resizeCached id size) next := by
  simp only [step, Option.ite_none_right_eq_some, Option.some.injEq]
    at stepped
  obtain ⟨⟨free, cached⟩, rfl⟩ := stepped
  refine ⟨exclusive, ?_⟩
  rw [whole_of_free free]
  apply Interleaved.step_resize.mpr
  exact ⟨free.2, by simp [Host.resize, cached]⟩

theorem commits_resizeLock
    {id : String}
    {size : Size}
    (stepped : d.step (.resizeLock id size) = some next) :
    d.Commits (.resizeLock id size) next := by
  simp only [step, Option.ite_none_right_eq_some, Option.some.injEq]
    at stepped
  obtain ⟨⟨free, uncached⟩, rfl⟩ := stepped
  refine ⟨⟨fun _ => free.2, ?_⟩, ?_⟩
  · intro other sent resizing
    cases resizing
    exact uncached
  · rw [whole_of_free free]
    rfl

/-- The statements of a section change nothing of what it does as a whole. -/
theorem commits_statement
    (exclusive : d.Exclusive)
    (stepped : d.step .statement = some next) :
    d.Commits .statement next := by
  simp only [step] at stepped
  split at stepped
  · next kills statement left inside =>
      cases stepped
      have holder := exclusive.alone (by simp [inside])
      refine ⟨.of_running ?_, ?_⟩
      · cases statement <;> exact holder
      · rw [whole, inside]
        rfl
  · cases stepped

theorem commits_unlock (stepped : d.step .unlock = some next) :
    d.Commits .unlock next := by
  simp only [step] at stepped
  split at stepped
  · next inside =>
      cases stepped
      refine ⟨.of_outside, ?_⟩
      rw [whole, inside]
      rfl
  · cases stepped

theorem commits_killTmux
    {id : String}
    (exclusive : d.Exclusive)
    (stepped : d.step (.killTmux id) = some next) :
    d.Commits (.killTmux id) next := by
  simp only [step, Option.ite_none_right_eq_some] at stepped
  obtain ⟨waits, taken⟩ := stepped
  obtain ⟨state, moved, rfl⟩ := Option.map_eq_some_iff.mp taken
  obtain ⟨listed, rfl⟩ := Interleaved.step_killTmux.mp moved
  refine ⟨exclusive.outside (.killTmux id) (·.erase id), ?_⟩
  apply Interleaved.step_killTmux.mpr
  refine ⟨?_, (whole_outside (.killTmux id) (·.erase id) d).symm⟩
  rwa [killing_whole]

theorem commits_step
    (exclusive : d.Exclusive)
    {action : DetailedAction}
    (stepped : d.step action = some next) :
    d.Commits action next := by
  cases action with
  | attachLock call => exact commits_attachLock stepped
  | attachCommand => exact commits_attachCommand stepped
  | publish => exact commits_publish stepped
  | detachLock id client => exact commits_detachLock stepped
  | killLock id => exact commits_killLock stepped
  | shutdownLock order => exact commits_shutdownLock stepped
  | resizeCached id size => exact commits_resizeCached exclusive stepped
  | resizeLock id size => exact commits_resizeLock stepped
  | resizeCommand id size fails => exact commits_resizeCommand exclusive stepped
  | statement => exact commits_statement exclusive stepped
  | unlock => exact commits_unlock stepped
  | killTmux id => exact commits_killTmux exclusive stepped
  | resizePTY client size =>
      exact commits_outside exclusive (.resizePTY client size) rfl
        (fun _ _ => Interleaved.step_resizePTY) stepped
  | closePTMX client =>
      exact commits_outside exclusive (.closePTMX client) rfl
        (fun _ _ => Interleaved.step_closePTMX) stepped
  | sessionEnds id =>
      exact commits_outside exclusive (.killTmux id) rfl
        (fun _ _ => Interleaved.step_sessionEnds) stepped

end

/-! ## Both levels -/

/-- A section comes to its end. -/
theorem run_section
    (state : Interleaved)
    (kills : Option String)
    (left : List Statement) :
    ∃ actions, run step ⟨state, some (.running kills left)⟩ actions =
      some ⟨left.foldl Statement.run state, none⟩ := by
  induction left generalizing state with
  | nil => exact ⟨[.unlock], rfl⟩
  | cons statement left inductionHypothesis =>
      obtain ⟨actions, ran⟩ := inductionHypothesis (statement.run state)
      refine ⟨.statement :: actions, ?_⟩
      exact (run_cons_eq_some step).mpr ⟨_, rfl, ran⟩

/-- A step that takes the mutex, with the rest of its section. -/
theorem run_of_lock
    {d : Detailed}
    {action : DetailedAction}
    {state : Interleaved}
    {kills : Option String}
    {left : List Statement}
    (locked : d.step action = some ⟨state, some (.running kills left)⟩) :
    ∃ actions, run step d actions =
      some ⟨left.foldl Statement.run state, none⟩ := by
  obtain ⟨actions, ran⟩ := run_section state kills left
  exact ⟨action :: actions, (run_cons_eq_some step).mpr ⟨_, locked, ran⟩⟩

theorem run_of_step
    {d next : Detailed}
    (action : DetailedAction)
    (stepped : d.step action = some next) :
    ∃ actions, run step d actions = some next :=
  ⟨[action], (run_cons_eq_some step).mpr ⟨next, stepped, rfl⟩⟩

theorem realizes_resize
    {state : Interleaved}
    (idle : state.holder = none)
    (id : String)
    (size : Size)
    (fails : Bool) :
    ∃ actions, run step ⟨state, none⟩ actions =
      some ⟨{ state with host := (state.host.resize id size fails).1 },
        none⟩ := by
  have free : (⟨state, none⟩ : Detailed).Free := ⟨rfl, idle⟩
  by_cases cached : state.host.lastSize.get? id = some size
  · have same : (state.host.resize id size fails).1 = state.host := by
      simp [Host.resize, cached]
    rw [same]
    apply run_of_step (.resizeCached id size)
    simp [step, free, cached]
  · have locked : step ⟨state, none⟩ (.resizeLock id size) =
        some ⟨state, some (.resizing id size)⟩ := by
      simp [step, free, cached]
    have rest : ∃ actions, run step ⟨state, some (.resizing id size)⟩ actions =
        some ⟨{ state with host := (state.host.resize id size fails).1 },
          none⟩ := by
      cases fails with
      | true =>
          apply run_of_step (.resizeCommand id size true)
          simp [step, Host.resize, cached]
      | false =>
          cases sent : state.host.server.resizeWindow (tmuxName id) size with
          | none =>
              apply run_of_step (.resizeCommand id size false)
              simp [step, Host.resize, cached, sent]
          | some server =>
              have sends : step ⟨state, some (.resizing id size)⟩
                  (.resizeCommand id size false) =
                    some ⟨{ state with host := { state.host with server } },
                      some (.running none [.setSize id size])⟩ := by
                simp [step, sent]
              have settled := run_of_lock sends
              simpa [Host.resize, cached, sent, Statement.run,
                Statement.onHost] using settled
    obtain ⟨actions, ran⟩ := rest
    exact ⟨_, (run_cons_eq_some step).mpr ⟨_, locked, ran⟩⟩

/-- Every step of an interleaving is done statement by statement. -/
theorem realizes
    {state next : Interleaved}
    {action : Action}
    (stepped : state.step action = some next) :
    ∃ actions, run step ⟨state, none⟩ actions = some ⟨next, none⟩ := by
  cases action with
  | attachLock call =>
      apply run_of_step (.attachLock call)
      simp [step, stepped]
  | attachStep =>
      obtain ⟨progress, holds, rfl⟩ := Interleaved.step_attachStep.mp stepped
      cases progress with
      | checked call found =>
          apply run_of_step .attachCommand
          simp [step, holds]
      | existing call recreated =>
          apply run_of_step .attachCommand
          simp [step, holds]
      | started call recreated =>
          have locked : step ⟨state, none⟩ .publish =
              some ⟨{ state with holder := none },
                some (.running none
                  (state.host.publishBody call recreated))⟩ := by
            simp [step, holds]
          rw [← foldl_publishBody]
          exact run_of_lock locked
  | detach id client =>
      obtain ⟨⟨idle, returned⟩, rfl⟩ := Interleaved.step_detach.mp stepped
      have locked : step ⟨state, none⟩ (.detachLock id client) =
          some ⟨state,
            some (.running none (state.host.detachBody id client))⟩ := by
        simp [step, Free, idle, returned]
      rw [← foldl_detachBody]
      exact run_of_lock locked
  | resize id size fails =>
      obtain ⟨idle, rfl⟩ := Interleaved.step_resize.mp stepped
      exact realizes_resize idle id size fails
  | killLock id =>
      obtain ⟨idle, rfl⟩ := Interleaved.step_killLock.mp stepped
      have locked : step ⟨state, none⟩ (.killLock id) =
          some ⟨{ state with killing := id :: state.killing },
            some (.running (some id) (state.host.killBody id))⟩ := by
        simp [step, Free, idle]
      have settled := run_of_lock locked
      rwa [foldl_killBody { state with killing := id :: state.killing }]
        at settled
  | killTmux id =>
      apply run_of_step (.killTmux id)
      have listed := (Interleaved.step_killTmux.mp stepped).1
      simp [step, inSection, List.count_pos_iff, listed, stepped]
  | shutdown =>
      obtain ⟨idle, rfl⟩ := Interleaved.step_shutdown.mp stepped
      have locked : step ⟨state, none⟩
          (.shutdownLock state.host.sessions.entries) =
            some ⟨state, some (.running none
              (shutdownBody state.host.sessions.entries))⟩ := by
        simp [step, Free, idle]
      have settled := run_of_lock locked
      rwa [foldl_shutdownBody] at settled
  | resizePTY client size =>
      apply run_of_step (.resizePTY client size)
      simp [step, stepped]
  | closePTMX client =>
      apply run_of_step (.closePTMX client)
      simp [step, stepped]
  | sessionEnds id =>
      apply run_of_step (.sessionEnds id)
      simp [step, stepped]

/-- Whatever happens between the statements of a section, a run of statements
ends, once the section under way is over, as the interleaving of whole sections
does in which each call comes where it takes the mutex, and a `Resize` where it
runs its command; and every interleaving of whole sections is such a run. -/
theorem sections_atomic (server : Server) :
    (∀ actions d, run step (start server) actions = some d →
      run Interleaved.step (Interleaved.start server)
        (actions.filterMap DetailedAction.commit) = some d.whole) ∧
    (∀ calls state, run Interleaved.step (Interleaved.start server) calls =
        some state →
      ∃ actions, run step (start server) actions = some ⟨state, none⟩) := by
  constructor
  · intro actions d ran
    exact run_of_commits DetailedAction.commit
      (fun _ _ _ exclusive stepped => commits_step exclusive stepped)
      (Exclusive.start server) ran
  · intro calls state ran
    have preserved : ∀ (state : Interleaved) action next,
        (∃ actions, run step (start server) actions = some ⟨state, none⟩) →
          state.step action = some next →
            ∃ actions, run step (start server) actions = some ⟨next, none⟩ := by
      rintro state action next ⟨before, ran⟩ stepped
      obtain ⟨rest, onward⟩ := realizes stepped
      exact ⟨before ++ rest, (run_append_eq_some step).mpr ⟨_, ran, onward⟩⟩
    exact invariant_of_unconditional_run preserved ⟨[], rfl⟩ ran

end Detailed

end Tmux
end LociTerm
