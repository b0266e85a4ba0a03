import LociTerm.Tmux.Ownership

/-!
# Atomicity of the manager's calls

A run of concurrent calls is atomic when its final state is one that the same
calls produce one after the other.  `KillSession` breaks this: an `Attach` or
a `Resize` of the same id that runs between its unlock and its `kill-session`
is killed or cached without a trace in the manager.  The calls of a run in which
nothing gets through to tmux in that gap can be replayed one after the other,
in the order in which they take the mutex.
-/

namespace LociTerm
namespace Tmux

/-- A call of one of the four operations. -/
inductive Call
  | attach (call : AttachCall)
  | detach (id : String) (client : Handle)
  | resize (id : String) (size : Size) (fails : Bool)
  | kill (id : String)
  deriving DecidableEq

/-- One call, run without interruption. -/
def Host.serve (host : Host) : Call → Host
  | .attach call => (host.attach call).1
  | .detach id client => host.detach id (some client)
  | .resize id size fails => (host.resize id size fails).1
  | .kill id => host.killSession id

/-- The call whose section under the mutex begins with this step. -/
def Action.commit : Action → Option Call
  | .attachLock call => some (.attach call)
  | .detach id client => some (.detach id client)
  | .resize id size fails => some (.resize id size fails)
  | .killLock id => some (.kill id)
  | _ => none

/-- The steps that the four operations consist of. -/
def Action.IsCallStep : Action → Prop
  | .attachLock _ | .attachStep | .detach _ _ | .resize _ _ _
  | .killLock _ | .killTmux _ => True
  | .shutdown | .resizePTY _ _ | .closePTMX _ | .sessionEnds _ => False

instance : ∀ action : Action, Decidable action.IsCallStep
  | .attachLock _ | .attachStep | .detach _ _ | .resize _ _ _
  | .killLock _ | .killTmux _ => isTrue trivial
  | .shutdown | .resizePTY _ _ | .closePTMX _ | .sessionEnds _ =>
      isFalse id

/-- The clients of the tmux session of an id, if it exists. -/
def Host.clients? (host : Host) (id : String) : Option (List Handle) :=
  (host.server.live.get? (tmuxName id)).map TmuxSession.clients

/-- Two hosts with the same map, the same size cache, and the same tmux
sessions with the same attach clients. -/
structure SameJointState (left right : Host) : Prop where
  sessions : ∀ id, left.sessions.get? id = right.sessions.get? id
  lastSize : ∀ id, left.lastSize.get? id = right.lastSize.get? id
  clients : ∀ id, left.clients? id = right.clients? id

/-- The final host of a run is one that its calls produce in some order. -/
def Atomic (start : Host) (actions : List Action) (final : Host) : Prop :=
  ∃ order : List Call,
    order.Perm (actions.filterMap Action.commit) ∧
      SameJointState (order.foldl Host.serve start) final

/-- No call is under way. -/
def Interleaved.Quiescent (state : Interleaved) : Prop :=
  state.holder = none ∧ state.killing = []

instance (state : Interleaved) : Decidable state.Quiescent :=
  inferInstanceAs (Decidable (_ ∧ _))

/-- An `Attach` or a `Resize` that begins while a `KillSession` of its id is
between its unlock and its `kill-session` does not get through to tmux. -/
def Interleaved.OutsideKill (state : Interleaved) : Action → Prop
  | .attachLock call => call.id ∈ state.killing →
      state.host.tmuxSessionExists call.id = false ∧
        call.faults.newSession = true
  | .resize id _ fails => id ∈ state.killing →
      state.host.tmuxSessionExists id = false ∨ fails = true
  | _ => True

instance (state : Interleaved) :
    ∀ action, Decidable (state.OutsideKill action)
  | .attachLock _ => inferInstanceAs (Decidable (_ → _))
  | .resize _ _ _ => inferInstanceAs (Decidable (_ → _))
  | .attachStep | .detach _ _ | .killLock _ | .killTmux _ | .shutdown
  | .resizePTY _ _ | .closePTMX _ | .sessionEnds _ => isTrue trivial

/-! ## Hosts that agree off the ids being killed -/

/-- Hosts that differ at most in the tmux sessions of some ids. -/
structure AgreeOff (ids : List String) (left right : Host) : Prop where
  sessions : left.sessions = right.sessions
  lastSize : left.lastSize = right.lastSize
  heap : left.heap = right.heap
  incarnations : left.server.incarnations = right.server.incarnations
  live : ∀ id, id ∉ ids →
    left.server.live.get? (tmuxName id) =
      right.server.live.get? (tmuxName id)

namespace AgreeOff

variable {ids : List String} {left right : Host}

theorem refl (ids : List String) (host : Host) : AgreeOff ids host host :=
  ⟨rfl, rfl, rfl, rfl, fun _ _ => rfl⟩

theorem close (agree : AgreeOff ids left right) (client : Handle) :
    AgreeOff ids (left.close client) (right.close client) := by
  unfold Host.close
  rw [agree.heap]
  split
  · exact agree
  · split
    · exact agree
    · refine ⟨agree.sessions, agree.lastSize, rfl, agree.incarnations, ?_⟩
      intro id outside
      simp only [Server.get?_clientExits, agree.live id outside]

theorem withSessions
    (agree : AgreeOff ids left right)
    (sessions : Table String Handle) :
    AgreeOff ids { left with sessions := sessions }
      { right with sessions := sessions } :=
  ⟨rfl, agree.lastSize, agree.heap, agree.incarnations, agree.live⟩

theorem attachPublish
    (agree : AgreeOff ids left right)
    (call : AttachCall) :
    AgreeOff ids (left.attachPublish call) (right.attachPublish call) := by
  unfold Host.attachPublish
  rw [agree.sessions]
  split
  · next prior _ =>
      have closed := agree.close prior
      simpa [agree.sessions] using closed.withSessions
        (right.sessions.set call.id call.handle)
  · simpa [agree.sessions] using agree.withSessions
      (right.sessions.set call.id call.handle)

/-- Optional hosts that agree. -/
def Both (ids : List String) : Option Host → Option Host → Prop
  | none, none => True
  | some left, some right => AgreeOff ids left right
  | _, _ => False

theorem newSession
    (agree : AgreeOff ids left right)
    {call : AttachCall}
    (outside : call.id ∉ ids) :
    Both ids (left.newSession call) (right.newSession call) := by
  unfold Host.newSession
  split
  · trivial
  · refine ⟨agree.sessions, agree.lastSize, ?_, agree.incarnations, ?_⟩
    · simp only [agree.heap, agree.live call.id outside]
    · intro id idOutside
      simp only [Server.get?_attachSession, agree.live id idOutside]

theorem tmuxSessionExists
    (agree : AgreeOff ids left right)
    {id : String}
    (outside : id ∉ ids) :
    left.tmuxSessionExists id = right.tmuxSessionExists id := by
  unfold Host.tmuxSessionExists Server.hasSession
  rw [agree.live id outside]

theorem attachCreate
    (agree : AgreeOff ids left right)
    {call : AttachCall}
    (outside : call.id ∉ ids) :
    Both ids (left.attachCreate call) (right.attachCreate call) := by
  unfold Host.attachCreate Server.newSession
  have exists_eq := agree.tmuxSessionExists outside
  unfold Host.tmuxSessionExists at exists_eq
  rw [exists_eq]
  split
  · trivial
  · split
    · trivial
    · refine ⟨agree.sessions, agree.lastSize, agree.heap,
        congrArg (· + 1) agree.incarnations, fun id idOutside => ?_⟩
      simp only [Table.get?_set, agree.incarnations, agree.live id idOutside]

theorem attachExisting
    (agree : AgreeOff ids left right)
    {call : AttachCall}
    (recreated : Bool)
    (outside : call.id ∉ ids) :
    AgreeOff ids (left.attachExisting call recreated).1
      (right.attachExisting call recreated).1 := by
  have both := agree.newSession outside
  unfold Host.attachExisting
  revert both
  cases left.newSession call <;> cases right.newSession call <;> intro both
  · exact agree
  · exact both.elim
  · exact both.elim
  · exact attachPublish both call

theorem attachChecked
    (agree : AgreeOff ids left right)
    {call : AttachCall}
    (found : Bool)
    (outside : call.id ∉ ids) :
    AgreeOff ids (left.attachChecked call found).1
      (right.attachChecked call found).1 := by
  unfold Host.attachChecked
  split
  · exact agree.attachExisting false outside
  · have both := agree.attachCreate outside
    revert both
    cases left.attachCreate call <;> cases right.attachCreate call <;>
      intro both
    · exact agree
    · exact both.elim
    · exact both.elim
    · exact attachExisting both true outside

theorem attach
    (agree : AgreeOff ids left right)
    {call : AttachCall}
    (outside : call.id ∉ ids) :
    AgreeOff ids (left.attach call).1 (right.attach call).1 := by
  unfold Host.attach
  rw [agree.tmuxSessionExists outside]
  exact agree.attachChecked _ outside

theorem finish
    (agree : AgreeOff ids left right)
    {progress : Progress}
    (outside : progress.call.id ∉ ids) :
    AgreeOff ids (progress.finish left).1 (progress.finish right).1 := by
  cases progress with
  | checked call found => exact agree.attachChecked found outside
  | existing call recreated => exact agree.attachExisting recreated outside
  | started call recreated => exact agree.attachPublish call

theorem detach
    (agree : AgreeOff ids left right)
    (id : String)
    (client : Handle) :
    AgreeOff ids (left.detach id (some client))
      (right.detach id (some client)) := by
  simp only [Host.detach, agree.sessions]
  split
  · exact (agree.withSessions _).close client
  · exact agree.close client

theorem resize
    (agree : AgreeOff ids left right)
    {id : String}
    (size : Size)
    (fails : Bool)
    (outside : id ∉ ids) :
    AgreeOff ids (left.resize id size fails).1
      (right.resize id size fails).1 := by
  unfold Host.resize Server.resizeWindow
  rw [agree.lastSize, agree.live id outside]
  split
  · exact agree
  · split
    · exact agree
    · cases right.server.live.get? (tmuxName id) with
      | none => exact agree
      | some session =>
          refine ⟨agree.sessions, rfl, agree.heap, agree.incarnations, ?_⟩
          intro other otherOutside
          simp only [Table.get?_set, agree.live other otherOutside]

theorem killLocked
    (agree : AgreeOff ids left right)
    (id : String) :
    AgreeOff ids (left.killLocked id) (right.killLocked id) := by
  unfold Host.killLocked
  rw [agree.sessions]
  split
  · next client _ =>
      have closed := agree.close client
      refine ⟨?_, ?_, closed.heap, closed.incarnations, closed.live⟩ <;>
        simp [agree.sessions, agree.lastSize]
  · exact ⟨agree.sessions, congrArg (fun table => table.erase id)
      agree.lastSize, agree.heap, agree.incarnations, agree.live⟩

theorem trans
    {middle : Host}
    (first : AgreeOff ids left middle)
    (second : AgreeOff ids middle right) :
    AgreeOff ids left right :=
  ⟨first.sessions.trans second.sessions, first.lastSize.trans second.lastSize,
    first.heap.trans second.heap,
    first.incarnations.trans second.incarnations,
    fun id outside => (first.live id outside).trans (second.live id outside)⟩

theorem symm (agree : AgreeOff ids left right) : AgreeOff ids right left :=
  ⟨agree.sessions.symm, agree.lastSize.symm, agree.heap.symm,
    agree.incarnations.symm, fun id outside => (agree.live id outside).symm⟩

theorem mono
    {fewer : List String}
    (agree : AgreeOff fewer left right)
    (subset : ∀ id, id ∈ fewer → id ∈ ids) :
    AgreeOff ids left right :=
  ⟨agree.sessions, agree.lastSize, agree.heap, agree.incarnations,
    fun id outside => agree.live id fun member => outside (subset id member)⟩

/-- Ending a tmux session is visible at that session only. -/
theorem killTmux (host : Host) (id : String) :
    AgreeOff [id] (host.killTmux id) host := by
  refine ⟨rfl, rfl, rfl, rfl, fun other outside => ?_⟩
  have different : id ≠ other := fun same => outside (by simp [same])
  simp [Host.killTmux, different]

end AgreeOff

/-! ## Which tmux sessions exist -/

/-- The tmux session of an id does not exist. -/
def Host.Gone (host : Host) (id : String) : Prop :=
  host.server.live.get? (tmuxName id) = none

instance (host : Host) (id : String) : Decidable (host.Gone id) :=
  inferInstanceAs (Decidable (_ = none))

theorem tmuxSessionExists_eq_false_iff (host : Host) (id : String) :
    host.tmuxSessionExists id = false ↔ host.Gone id :=
  Server.hasSession_eq_false_iff _ _

theorem gone_killTmux (host : Host) (id other : String) :
    (host.killTmux id).Gone other ↔ id = other ∨ host.Gone other := by
  unfold Host.Gone Host.killTmux
  by_cases same : id = other <;> simp [same]

theorem gone_close (host : Host) (client : Handle) (id : String) :
    (host.close client).Gone id ↔ host.Gone id := by
  unfold Host.Gone
  rw [← Option.not_isSome_iff_eq_none, ← Option.not_isSome_iff_eq_none,
    Host.isSome_live_close]

theorem gone_attachPublish (host : Host) (call : AttachCall) (id : String) :
    (host.attachPublish call).Gone id ↔ host.Gone id := by
  unfold Host.attachPublish
  split
  · exact gone_close host _ id
  · exact Iff.rfl

theorem gone_attachExisting
    (host : Host)
    (call : AttachCall)
    (recreated : Bool)
    (id : String) :
    (host.attachExisting call recreated).1.Gone id ↔ host.Gone id := by
  unfold Host.attachExisting
  cases began : host.newSession call with
  | none => exact Iff.rfl
  | some started =>
      refine (gone_attachPublish started call id).trans ?_
      unfold Host.newSession at began
      split at began
      · cases began
      · cases began
        by_cases same : id = call.id <;> simp [Host.Gone, same]

theorem gone_attachChecked
    (host : Host)
    {call : AttachCall}
    (found : Bool)
    {id : String}
    (different : call.id ≠ id) :
    (host.attachChecked call found).1.Gone id ↔ host.Gone id := by
  unfold Host.attachChecked
  split
  · exact gone_attachExisting host call false id
  · cases created : host.attachCreate call with
    | none => exact Iff.rfl
    | some next =>
        refine (gone_attachExisting next call true id).trans ?_
        obtain ⟨_, _, rfl⟩ := Host.attachCreate_eq_some created
        simp [Host.Gone, Table.get?_set, different]

theorem gone_finish
    (host : Host)
    {progress : Progress}
    {id : String}
    (different : progress.call.id ≠ id) :
    (progress.finish host).1.Gone id ↔ host.Gone id := by
  cases progress with
  | checked call found => exact gone_attachChecked host found different
  | existing call recreated => exact gone_attachExisting host call _ id
  | started call recreated => exact gone_attachPublish host call id

theorem gone_detach
    (host : Host)
    (id other : String)
    (client : Handle) :
    (host.detach id (some client)).Gone other ↔ host.Gone other := by
  simp only [Host.detach]
  rw [gone_close]
  split <;> exact Iff.rfl

theorem gone_resize
    (host : Host)
    (id other : String)
    (size : Size)
    (fails : Bool) :
    (host.resize id size fails).1.Gone other ↔ host.Gone other := by
  rcases host.resize_cases id size fails with
    ⟨_, skipped⟩ | ⟨_, failed⟩ | ⟨_, _, session, live, sent⟩
  · rw [skipped]
  · rw [failed]
  · rw [sent]
    by_cases same : id = other
    · subst same
      simp [Host.Gone, live]
    · simp [Host.Gone, Table.get?_set, same]

theorem gone_killLocked (host : Host) (id other : String) :
    (host.killLocked id).Gone other ↔ host.Gone other := by
  unfold Host.killLocked
  split
  · exact gone_close host _ other
  · exact Iff.rfl

/-! ## Simulation by one call after the other -/

/-- An `Attach` that is about to fail at its `new-session`. -/
def Progress.Doomed (progress : Progress) : Prop :=
  ∃ call, progress = .checked call false ∧ call.faults.newSession = true

theorem Progress.Doomed.finish
    {progress : Progress}
    (doomed : progress.Doomed)
    (host : Host) :
    progress.finish host = (host, none) := by
  obtain ⟨call, rfl, fails⟩ := doomed
  simp [Progress.finish, Host.attachChecked, Host.attachCreate, fails]

namespace Interleaved

/-- The host once the `Attach` call that holds the mutex has run to its end. -/
def finished (state : Interleaved) : Host :=
  match state.holder with
  | none => state.host
  | some progress => (progress.finish state.host).1

/-- The steps of an `Attach` call do not change where the call ends. -/
theorem finished_advance
    {state : Interleaved}
    {progress : Progress}
    (holds : state.holder = some progress) :
    (state.advance progress).finished = state.finished := by
  unfold finished
  rw [holds]
  cases progress with
  | checked call found =>
      cases found with
      | true => rfl
      | false =>
          simp only [advance, Progress.finish, Host.attachChecked]
          cases state.host.attachCreate call <;> rfl
  | existing call recreated =>
      simp only [advance, Progress.finish, Host.attachExisting]
      cases state.host.newSession call <;> rfl
  | started call recreated => rfl

theorem call_advance
    {state : Interleaved}
    {progress after : Progress}
    (holds : (state.advance progress).holder = some after) :
    after.call = progress.call := by
  cases progress with
  | checked call found =>
      cases found with
      | true =>
          cases holds
          rfl
      | false =>
          simp only [advance] at holds
          split at holds <;> cases holds
          rfl
  | existing call recreated =>
      simp only [advance] at holds
      split at holds <;> cases holds
      rfl
  | started call recreated => cases holds

/-- A doomed `Attach` call ends with its next step. -/
theorem advance_doomed
    {state : Interleaved}
    {progress : Progress}
    (doomed : progress.Doomed) :
    state.advance progress = { state with holder := none } := by
  obtain ⟨call, rfl, fails⟩ := doomed
  simp [advance, Host.attachCreate, fails]

theorem killing_advance (state : Interleaved) (progress : Progress) :
    (state.advance progress).killing = state.killing := by
  cases progress with
  | checked call found =>
      cases found with
      | true => rfl
      | false =>
          simp only [advance]
          split <;> rfl
  | existing call recreated =>
      simp only [advance]
      split <;> rfl
  | started call recreated => rfl

/-- A host on which the calls have run one after the other stands where this
state will be once the calls under way have ended. -/
structure Tracks (state : Interleaved) (object : Host) : Prop where
  /-- Only the tmux sessions that are about to be killed may differ. -/
  agree : AgreeOff state.killing state.finished object
  /-- Those are gone already when the calls run one after the other. -/
  gone : ∀ id ∈ state.killing, object.Gone id
  /-- The `Attach` call under way does not touch them. -/
  holder : ∀ progress, state.holder = some progress →
    progress.call.id ∉ state.killing ∨ progress.Doomed

theorem Tracks.ofIdle {state : Interleaved} (idle : state.Quiescent) :
    state.Tracks state.host where
  agree := by
    unfold finished
    rw [idle.1]
    exact AgreeOff.refl _ _
  gone := by simp [idle.2]
  holder := by simp [idle.1]

theorem Tracks.agree_of_idle
    {state : Interleaved}
    {object : Host}
    (tracks : state.Tracks object)
    (idle : state.holder = none) :
    AgreeOff state.killing state.host object := by
  simpa [finished, idle] using tracks.agree

theorem Tracks.attachLock
    {state : Interleaved}
    {object : Host}
    {call : AttachCall}
    (tracks : state.Tracks object)
    (idle : state.holder = none)
    (outside : state.OutsideKill (.attachLock call)) :
    ({ state with
        holder := some
          (.checked call (state.host.tmuxSessionExists call.id)) } :
      Interleaved).Tracks (object.attach call).1 := by
  have agree := tracks.agree_of_idle idle
  by_cases beingKilled : call.id ∈ state.killing
  · obtain ⟨absent, fails⟩ := outside beingKilled
    have doomed : Progress.Doomed
        (.checked call (state.host.tmuxSessionExists call.id)) :=
      ⟨call, by rw [absent], fails⟩
    have unserved : object.attach call = (object, none) := by
      have objectAbsent := (tmuxSessionExists_eq_false_iff object call.id).mpr
        (tracks.gone call.id beingKilled)
      rw [Host.attach, objectAbsent]
      exact Progress.Doomed.finish ⟨call, rfl, fails⟩ object
    refine ⟨?_, ?_, ?_⟩
    · simp only [finished, doomed.finish, unserved]
      exact agree
    · simpa only [unserved] using tracks.gone
    · intro progress holds
      cases holds
      exact Or.inr doomed
  · refine ⟨agree.attach beingKilled, ?_, ?_⟩
    · intro id member
      have different : call.id ≠ id := fun same => beingKilled (same ▸ member)
      exact (gone_attachChecked object _ different).mpr (tracks.gone id member)
    · intro progress holds
      cases holds
      exact Or.inl beingKilled

theorem Tracks.attachStep
    {state : Interleaved}
    {object : Host}
    {progress : Progress}
    (tracks : state.Tracks object)
    (holds : state.holder = some progress) :
    (state.advance progress).Tracks object := by
  refine ⟨?_, ?_, ?_⟩
  · rw [finished_advance holds, killing_advance]
    exact tracks.agree
  · rw [killing_advance]
    exact tracks.gone
  · intro after afterHolds
    rw [killing_advance, call_advance afterHolds]
    apply Or.inl
    rcases tracks.holder progress holds with outside | doomed
    · exact outside
    · rw [advance_doomed doomed] at afterHolds
      cases afterHolds

theorem Tracks.resize
    {state : Interleaved}
    {object : Host}
    {id : String}
    {size : Size}
    {fails : Bool}
    (tracks : state.Tracks object)
    (idle : state.holder = none)
    (outside : state.OutsideKill (.resize id size fails)) :
    ({ state with host := (state.host.resize id size fails).1 } :
      Interleaved).Tracks (object.resize id size fails).1 := by
  have agree := tracks.agree_of_idle idle
  refine ⟨?_, ?_, by simp [idle]⟩
  · simp only [finished, idle]
    by_cases beingKilled : id ∈ state.killing
    · -- Neither host resizes: the command fails on both.
      have unsent (host : Host) (absent : host.Gone id ∨ fails = true) :
          (host.resize id size fails).1 = host := by
        unfold Host.resize Server.resizeWindow
        unfold Host.Gone at absent
        split
        · rfl
        · split
          · rfl
          · simp_all
      rw [unsent object (Or.inl (tracks.gone id beingKilled)), unsent]
      · exact agree
      · rw [← tmuxSessionExists_eq_false_iff]
        exact outside beingKilled
    · exact agree.resize size fails beingKilled
  · intro other member
    exact (gone_resize object id other size fails).mpr
      (tracks.gone other member)

theorem Tracks.killLock
    {state : Interleaved}
    {object : Host}
    (id : String)
    (tracks : state.Tracks object)
    (idle : state.holder = none) :
    ({ state with
        host := state.host.killLocked id
        killing := id :: state.killing } : Interleaved).Tracks
      (object.killSession id) := by
  have agree := tracks.agree_of_idle idle
  refine ⟨?_, ?_, by simp [idle]⟩
  · simp only [finished, idle]
    have locked : AgreeOff (id :: state.killing) (state.host.killLocked id)
        (object.killLocked id) :=
      (agree.killLocked id).mono fun other member => by simp [member]
    have killed : AgreeOff (id :: state.killing) (object.killSession id)
        (object.killLocked id) :=
      (AgreeOff.killTmux _ id).mono fun other member => by simp_all
    exact locked.trans killed.symm
  · intro other member
    rw [Host.killSession, gone_killTmux, gone_killLocked]
    rcases List.mem_cons.mp member with same | member
    · exact Or.inl same.symm
    · exact Or.inr (tracks.gone other member)

theorem Tracks.killTmux
    {state : Interleaved}
    {object : Host}
    {id : String}
    (tracks : state.Tracks object)
    (member : id ∈ state.killing) :
    ({ state with
        host := state.host.killTmux id
        killing := state.killing.erase id } : Interleaved).Tracks
      object := by
  let next : Interleaved :=
    { state with
      host := state.host.killTmux id
      killing := state.killing.erase id }
  -- The command commutes with the rest of the `Attach` call under way.
  have commutes : AgreeOff [id] next.finished state.finished ∧
      next.finished.Gone id := by
    have killed := AgreeOff.killTmux state.host id
    have gone := (gone_killTmux state.host id id).mpr (Or.inl rfl)
    cases holds : state.holder with
    | none => simpa [finished, next, holds] using ⟨killed, gone⟩
    | some progress =>
        simp only [finished, next, holds]
        rcases tracks.holder progress holds with outside | doomed
        · have different : progress.call.id ≠ id := fun same =>
            outside (same ▸ member)
          exact ⟨killed.finish (by simpa using different),
            (gone_finish _ different).mpr gone⟩
        · simpa only [doomed.finish] using ⟨killed, gone⟩
  obtain ⟨agree, gone⟩ := commutes
  refine ⟨⟨?_, ?_, ?_, ?_, ?_⟩, ?_, ?_⟩
  · exact agree.sessions.trans tracks.agree.sessions
  · exact agree.lastSize.trans tracks.agree.lastSize
  · exact agree.heap.trans tracks.agree.heap
  · exact agree.incarnations.trans tracks.agree.incarnations
  · intro other outside
    by_cases same : other = id
    · subst same
      exact gone.trans (tracks.gone other member).symm
    · have otherOutside : other ∉ state.killing := fun otherMember =>
        outside ((List.mem_erase_of_ne same).mpr otherMember)
      exact (agree.live other (by simpa using same)).trans
        (tracks.agree.live other otherOutside)
  · intro other otherMember
    exact tracks.gone other (List.mem_of_mem_erase otherMember)
  · intro progress holds
    rcases tracks.holder progress holds with outside | doomed
    · exact Or.inl fun otherMember =>
        outside (List.mem_of_mem_erase otherMember)
    · exact Or.inr doomed

/-- Every step of a call outside the gap moves the sequential host by the call
whose section under the mutex begins with it, if any. -/
theorem Tracks.step
    {state next : Interleaved}
    {object : Host}
    {action : Action}
    (tracks : state.Tracks object)
    (callStep : action.IsCallStep)
    (outside : state.OutsideKill action)
    (stepped : state.step action = some next) :
    next.Tracks (action.commit.elim object object.serve) := by
  cases action with
  | attachLock call =>
      obtain ⟨⟨idle, _⟩, rfl⟩ := step_attachLock.mp stepped
      exact tracks.attachLock idle outside
  | attachStep =>
      obtain ⟨progress, holds, rfl⟩ := step_attachStep.mp stepped
      exact tracks.attachStep holds
  | detach id client =>
      obtain ⟨⟨idle, _⟩, rfl⟩ := step_detach.mp stepped
      refine ⟨?_, ?_, by simp [idle]⟩
      · simp only [finished, idle]
        exact (tracks.agree_of_idle idle).detach id client
      · intro other member
        exact (gone_detach object id other client).mpr
          (tracks.gone other member)
  | resize id size fails =>
      obtain ⟨idle, rfl⟩ := step_resize.mp stepped
      exact tracks.resize idle outside
  | killLock id =>
      obtain ⟨idle, rfl⟩ := step_killLock.mp stepped
      exact tracks.killLock id idle
  | killTmux id =>
      obtain ⟨member, rfl⟩ := step_killTmux.mp stepped
      exact tracks.killTmux member
  | shutdown | resizePTY | closePTMX | sessionEnds => exact callStep.elim

end Interleaved
end Tmux
end LociTerm
