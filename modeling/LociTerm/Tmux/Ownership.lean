import LociTerm.Tmux.Interleaving

/-!
# Attach ownership

The manager's map and the `closed` flags of the `Session` objects agree after
every step of any interleaving: a client that an `Attach` has returned is open
exactly while the map slot of its id points at it.  Every way of closing a
client from the map or from a handler is one operation here, giving a client
back.
-/

namespace LociTerm
namespace Tmux

/-- A `Session` object whose `closed` flag is not set. -/
def Host.Open (host : Host) (client : Handle) : Prop :=
  ∃ session, host.heap.get? client = some session ∧ session.closed = false

/-- The process of a client has been killed and reaped once if the client is
closed, and not at all before. -/
def Session.Reaped (session : Session) : Prop :=
  session.kills = session.closed.toNat ∧ session.waits = session.closed.toNat

theorem Session.Reaped.close {session : Session} (reaped : session.Reaped) :
    session.close.Reaped := by
  unfold Session.Reaped Session.close at *
  cases closed : session.closed <;> simp_all

theorem Session.Reaped.closePTMX
    {session : Session}
    (reaped : session.Reaped) :
    session.closePTMX.Reaped := by
  unfold Session.Reaped Session.closePTMX at *
  cases closed : session.closed <;> simp_all

namespace Interleaved

/-- The invariant that ties the map, the `Session` objects and the results
that `Attach` calls have returned. -/
structure Owned (state : Interleaved) : Prop where
  /-- A map slot points at an open client of its id that no handler has given
  back. -/
  slot : ∀ id client, state.host.sessions.get? id = some client →
    state.Returned id client ∧ state.host.Open client ∧
      client ∉ state.detached
  /-- A returned client exists, belongs to its id, and holds the slot of that
  id as long as it is open. -/
  returned : ∀ id client, state.Returned id client →
    ∃ session, state.host.heap.get? client = some session ∧
      session.name = tmuxName id ∧
      (session.closed = false →
        state.host.sessions.get? id = some client)
  /-- Every process has been killed and reaped as often as it was closed. -/
  reaped : ∀ client session, state.host.heap.get? client = some session →
    session.Reaped
  /-- Every client has been returned, unless its `Attach` is about to. -/
  known : ∀ client session, state.host.heap.get? client = some session →
    (∃ id, state.Returned id client) ∨
      ∃ call recreated, state.holder = some (.started call recreated) ∧
        call.handle = client
  /-- Handlers give back only clients that were returned to them. -/
  detached : ∀ client, client ∈ state.detached →
    ∃ id, state.Returned id client
  /-- The client of an `Attach` in progress is new, and open once started. -/
  pending : ∀ progress, state.holder = some progress →
    match progress with
    | .started call _ => ∃ session,
        state.host.heap.get? call.handle = some session ∧
          session.name = tmuxName call.id ∧ session.closed = false ∧
          ∀ id, ¬state.Returned id call.handle
    | .checked call _ => state.host.heap.get? call.handle = none
    | .existing call _ => state.host.heap.get? call.handle = none

/-- Two ids never own the same client. -/
theorem Owned.id_unique
    {state : Interleaved}
    (owned : state.Owned)
    {left right : String}
    {client : Handle}
    (leftReturned : state.Returned left client)
    (rightReturned : state.Returned right client) :
    left = right := by
  obtain ⟨leftSession, leftFound, leftName, _⟩ :=
    owned.returned left client leftReturned
  obtain ⟨rightSession, rightFound, rightName, _⟩ :=
    owned.returned right client rightReturned
  rw [leftFound] at rightFound
  cases rightFound
  exact tmuxName_injective (leftName.symm.trans rightName)

theorem clients_attachCreate
    {host created : Host}
    {call : AttachCall}
    (succeeded : host.attachCreate call = some created) :
    created.heap = host.heap ∧ created.sessions = host.sessions := by
  obtain ⟨_, _, rfl⟩ := Host.attachCreate_eq_some succeeded
  exact ⟨rfl, rfl⟩

theorem clients_resize
    (host : Host)
    (id : String)
    (size : Size)
    (fails : Bool) :
    (host.resize id size fails).1.heap = host.heap ∧
      (host.resize id size fails).1.sessions = host.sessions := by
  rcases host.resize_cases id size fails with
    ⟨_, ended⟩ | ⟨_, ended⟩ | ⟨_, _, _, _, ended⟩ <;>
    rw [ended] <;> exact ⟨rfl, rfl⟩

/-- What `Attach` clients and slots become when `client` of `id` is closed and
the slot is emptied if it pointed at that client. -/
structure GivenBack (before after : Host) (id : String) (client : Handle) :
    Prop where
  sessions : ∀ other, after.sessions.get? other =
    if before.sessions.get? id = some client ∧ other = id then none
    else before.sessions.get? other
  heap : ∀ other, after.heap.get? other =
    if other = client then (before.heap.get? other).map Session.close
    else before.heap.get? other

theorem givenBack_detach (host : Host) (id : String) (client : Handle) :
    GivenBack host (host.detach id (some client)) id client := by
  constructor
  · intro other
    by_cases holds : host.sessions.get? id = some client
    · simp [Host.detach, holds, Table.get?_erase, eq_comm]
    · simp [Host.detach, holds]
  · intro other
    by_cases holds : host.sessions.get? id = some client
    · simp [Host.detach, holds, Host.get?_heap_close]
    · simp [Host.detach, holds, Host.get?_heap_close]

theorem givenBack_shutdownOne
    {host : Host}
    {entry : String × Handle}
    (holds : host.sessions.get? entry.1 = some entry.2) :
    GivenBack host (host.shutdownOne entry) entry.1 entry.2 := by
  constructor
  · intro other
    simp [Host.shutdownOne, holds, Table.get?_erase, eq_comm]
  · intro other
    simp [Host.shutdownOne, Host.get?_heap_close]

theorem givenBack_killLocked
    {host : Host}
    {id : String}
    {client : Handle}
    (holds : host.sessions.get? id = some client) :
    GivenBack host (host.killLocked id) id client := by
  constructor
  · intro other
    simp [Host.killLocked, holds, Table.get?_erase, eq_comm]
  · intro other
    simp [Host.killLocked, holds, Host.get?_heap_close]

/-- Without a slot, the locked part of `KillSession` touches no client. -/
theorem killLocked_of_no_slot
    {host : Host}
    {id : String}
    (absent : host.sessions.get? id = none) :
    (host.killLocked id).sessions = host.sessions ∧
      (host.killLocked id).heap = host.heap := by
  simp [Host.killLocked, absent]

/-- Who was returned is read off one field. -/
theorem returned_congr
    {state next : Interleaved}
    (same : next.returned = state.returned)
    (id : String)
    (client : Handle) :
    next.Returned id client ↔ state.Returned id client := by
  simp [Returned, same]

/-- The client of an `Attach` in progress is not one that was returned. -/
theorem Owned.pending_ne
    {state : Interleaved}
    {progress : Progress}
    {id : String}
    {client : Handle}
    (owned : state.Owned)
    (holds : state.holder = some progress)
    (returned : state.Returned id client) :
    progress.call.handle ≠ client := by
  have pending := owned.pending progress holds
  obtain ⟨session, found, _⟩ := owned.returned id client returned
  rintro rfl
  cases progress with
  | checked call _ =>
      exact absurd (pending.symm.trans found) (by simp)
  | existing call _ =>
      exact absurd (pending.symm.trans found) (by simp)
  | started call _ =>
      obtain ⟨_, _, _, _, notReturned⟩ := pending
      exact notReturned id returned

/-- Giving a returned client back keeps the invariant. -/
theorem Owned.giveBack
    {state next : Interleaved}
    {id : String}
    {client : Handle}
    (owned : state.Owned)
    (returned : state.Returned id client)
    (givenBack : GivenBack state.host next.host id client)
    (sameReturned : next.returned = state.returned)
    (sameHolder : next.holder = state.holder)
    (detached : ∀ other, other ∈ next.detached →
      other = client ∨ other ∈ state.detached) :
    next.Owned := by
  have returned_iff := returned_congr sameReturned
  have heap_of_ne (handle : Handle) (different : handle ≠ client) :
      next.host.heap.get? handle = state.host.heap.get? handle := by
    rw [givenBack.heap, if_neg different]
  refine
    { slot := ?_, returned := ?_, reaped := ?_, known := ?_, detached := ?_,
      pending := ?_ }
  · intro other handle found
    rw [givenBack.sessions other] at found
    split at found
    · cases found
    · next kept =>
        obtain ⟨otherReturned, ⟨session, sessionFound, isOpen⟩, notDetached⟩ :=
          owned.slot other handle found
        have different : handle ≠ client := by
          rintro rfl
          have sameId := owned.id_unique otherReturned returned
          subst sameId
          exact kept ⟨found, rfl⟩
        refine ⟨(returned_iff other handle).mpr otherReturned,
          ⟨session, ?_, isOpen⟩, ?_⟩
        · rw [heap_of_ne handle different, sessionFound]
        · intro member
          rcases detached handle member with same | before
          · exact different same
          · exact notDetached before
  · intro other handle otherReturned
    rw [returned_iff] at otherReturned
    obtain ⟨session, found, name, slot⟩ :=
      owned.returned other handle otherReturned
    by_cases same : handle = client
    · refine ⟨session.close, ?_, by simp [name], by simp⟩
      rw [givenBack.heap, if_pos same, found, Option.map_some]
    · refine ⟨session, ?_, name, fun isOpen => ?_⟩
      · rw [heap_of_ne handle same, found]
      · rw [givenBack.sessions, if_neg, slot isOpen]
        rintro ⟨held, rfl⟩
        rw [slot isOpen] at held
        exact same (Option.some.inj held)
  · intro handle session found
    rw [givenBack.heap] at found
    split at found
    · obtain ⟨before, beforeFound, rfl⟩ := Option.map_eq_some_iff.mp found
      exact (owned.reaped handle before beforeFound).close
    · exact owned.reaped handle session found
  · intro handle session found
    have foundBefore : ∃ before,
        state.host.heap.get? handle = some before := by
      rw [givenBack.heap] at found
      split at found
      · obtain ⟨before, beforeFound, _⟩ := Option.map_eq_some_iff.mp found
        exact ⟨before, beforeFound⟩
      · exact ⟨session, found⟩
    obtain ⟨before, beforeFound⟩ := foundBefore
    simpa only [returned_iff, sameHolder] using
      owned.known handle before beforeFound
  · intro handle member
    rcases detached handle member with rfl | before
    · exact ⟨id, (returned_iff id handle).mpr returned⟩
    · obtain ⟨other, otherReturned⟩ := owned.detached handle before
      exact ⟨other, (returned_iff other handle).mpr otherReturned⟩
  · intro progress holds
    rw [sameHolder] at holds
    have pending := owned.pending progress holds
    have different := owned.pending_ne holds returned
    cases progress with
    | checked call found => exact (heap_of_ne _ different).trans pending
    | existing call recreated => exact (heap_of_ne _ different).trans pending
    | started call recreated =>
        obtain ⟨session, found, name, isOpen, notReturned⟩ := pending
        refine ⟨session, (heap_of_ne _ different).trans found, name, isOpen,
          fun other => ?_⟩
        rw [returned_iff]
        exact notReturned other

/-- A step that keeps the map and changes clients only in ways that keep
their name, their flag and their process keeps the invariant. -/
theorem Owned.ofHeapMap
    {state next : Interleaved}
    (owned : state.Owned)
    (f : Handle → Session → Session)
    (keepsName : ∀ client session, (f client session).name = session.name)
    (keepsClosed : ∀ client session,
      (f client session).closed = session.closed)
    (keepsReaped : ∀ client session, session.Reaped →
      (f client session).Reaped)
    (heap : ∀ client, next.host.heap.get? client =
      (state.host.heap.get? client).map (f client))
    (sessions : next.host.sessions = state.host.sessions)
    (sameReturned : next.returned = state.returned)
    (sameHolder : next.holder = state.holder)
    (sameDetached : next.detached = state.detached) :
    next.Owned := by
  have returned_iff := returned_congr sameReturned
  refine
    { slot := ?_, returned := ?_, reaped := ?_, known := ?_, detached := ?_,
      pending := ?_ }
  · intro id client found
    rw [sessions] at found
    obtain ⟨returned, ⟨session, sessionFound, isOpen⟩, notDetached⟩ :=
      owned.slot id client found
    refine ⟨(returned_iff id client).mpr returned,
      ⟨f client session, ?_, (keepsClosed client session).trans isOpen⟩, ?_⟩
    · rw [heap, sessionFound, Option.map_some]
    · rwa [sameDetached]
  · intro id client returned
    rw [returned_iff] at returned
    obtain ⟨session, found, name, slot⟩ := owned.returned id client returned
    refine ⟨f client session, ?_, (keepsName client session).trans name, ?_⟩
    · rw [heap, found, Option.map_some]
    · rw [keepsClosed, sessions]
      exact slot
  · intro client session found
    rw [heap] at found
    obtain ⟨before, beforeFound, rfl⟩ := Option.map_eq_some_iff.mp found
    exact keepsReaped client before (owned.reaped client before beforeFound)
  · intro client session found
    rw [heap] at found
    obtain ⟨before, beforeFound, _⟩ := Option.map_eq_some_iff.mp found
    simpa only [returned_iff, sameHolder] using
      owned.known client before beforeFound
  · intro client member
    rw [sameDetached] at member
    simpa only [returned_iff] using owned.detached client member
  · intro progress holds
    rw [sameHolder] at holds
    have pending := owned.pending progress holds
    cases progress with
    | checked call found =>
        show next.host.heap.get? call.handle = none
        rw [heap, pending, Option.map_none]
    | existing call recreated =>
        show next.host.heap.get? call.handle = none
        rw [heap, pending, Option.map_none]
    | started call recreated =>
        obtain ⟨session, found, name, isOpen, notReturned⟩ := pending
        refine ⟨f call.handle session, ?_, (keepsName _ _).trans name,
          (keepsClosed _ _).trans isOpen, fun other => ?_⟩
        · rw [heap, found, Option.map_some]
        · rw [returned_iff]
          exact notReturned other

/-- A step that touches neither clients nor the map keeps the invariant. -/
theorem Owned.ofSameClients
    {state next : Interleaved}
    (owned : state.Owned)
    (heap : next.host.heap = state.host.heap)
    (sessions : next.host.sessions = state.host.sessions)
    (sameReturned : next.returned = state.returned)
    (sameHolder : next.holder = state.holder)
    (sameDetached : next.detached = state.detached) :
    next.Owned :=
  owned.ofHeapMap (fun _ session => session) (fun _ _ => rfl)
    (fun _ _ => rfl) (fun _ _ reaped => reaped)
    (fun client => by rw [heap, Option.map_id'])
    sessions sameReturned sameHolder sameDetached

/-! ## The steps of `Attach` -/

/-- An `Attach` that has no client yet can start, go on or fail without
touching the invariant. -/
theorem Owned.ofUnstarted
    {state next : Interleaved}
    (owned : state.Owned)
    (unstarted : ∀ call recreated,
      state.holder ≠ some (.started call recreated))
    (heap : next.host.heap = state.host.heap)
    (sessions : next.host.sessions = state.host.sessions)
    (sameReturned : next.returned = state.returned)
    (sameDetached : next.detached = state.detached)
    (pending : ∀ progress, next.holder = some progress →
      (∀ call recreated, progress ≠ .started call recreated) ∧
        state.host.heap.get? progress.call.handle = none) :
    next.Owned := by
  have returned_iff := returned_congr sameReturned
  refine
    { slot := ?_, returned := ?_, reaped := ?_, known := ?_, detached := ?_,
      pending := ?_ }
  · intro id client found
    rw [sessions] at found
    rw [returned_iff, Host.Open, heap, sameDetached]
    exact owned.slot id client found
  · intro id client returned
    rw [returned_iff] at returned
    rw [heap, sessions]
    exact owned.returned id client returned
  · intro client session found
    rw [heap] at found
    exact owned.reaped client session found
  · intro client session found
    rw [heap] at found
    rcases owned.known client session found with known | started
    · obtain ⟨id, returned⟩ := known
      exact Or.inl ⟨id, (returned_iff id client).mpr returned⟩
    · obtain ⟨call, recreated, holds, _⟩ := started
      exact absurd holds (unstarted call recreated)
  · intro client member
    rw [sameDetached] at member
    simpa only [returned_iff] using owned.detached client member
  · intro progress holds
    obtain ⟨notStarted, absent⟩ := pending progress holds
    cases progress with
    | checked call found =>
        show next.host.heap.get? call.handle = none
        rw [heap]
        exact absent
    | existing call recreated =>
        show next.host.heap.get? call.handle = none
        rw [heap]
        exact absent
    | started call recreated =>
        exact absurd rfl (notStarted call recreated)

/-- Starting an attach client keeps the invariant. -/
theorem Owned.ofStarted
    {state : Interleaved}
    {host : Host}
    {call : AttachCall}
    {recreated : Bool}
    (owned : state.Owned)
    (holds : state.holder = some (.existing call recreated))
    (began : state.host.newSession call = some host) :
    ({ state with
        host := host
        holder := some (.started call recreated) } : Interleaved).Owned := by
  have absent : state.host.heap.get? call.handle = none :=
    owned.pending _ holds
  have notReturned (id : String) : ¬state.Returned id call.handle :=
    fun returned => owned.pending_ne holds returned rfl
  unfold Host.newSession at began
  split at began
  · cases began
  cases began
  have heap_of_ne
      {client : Handle}
      {session : Session}
      {fresh : Session}
      (found : state.host.heap.get? client = some session) :
      (state.host.heap.set call.handle fresh).get? client =
        some session := by
    rw [Table.get?_set_of_ne, found]
    rintro rfl
    rw [absent] at found
    cases found
  refine
    { slot := ?_, returned := ?_, reaped := ?_, known := ?_, detached := ?_,
      pending := ?_ }
  · intro id client found
    obtain ⟨returned, ⟨session, sessionFound, isOpen⟩, notDetached⟩ :=
      owned.slot id client found
    exact ⟨returned, ⟨session, heap_of_ne sessionFound, isOpen⟩, notDetached⟩
  · intro id client returned
    obtain ⟨session, found, rest⟩ := owned.returned id client returned
    exact ⟨session, heap_of_ne found, rest⟩
  · intro client session found
    by_cases same : call.handle = client
    · subst same
      rw [Table.get?_set_self] at found
      cases found
      exact ⟨rfl, rfl⟩
    · rw [Table.get?_set_of_ne _ _ same] at found
      exact owned.reaped client session found
  · intro client session found
    by_cases same : call.handle = client
    · exact Or.inr ⟨call, recreated, rfl, same⟩
    · rw [Table.get?_set_of_ne _ _ same] at found
      rcases owned.known client session found with known | started
      · exact Or.inl known
      · obtain ⟨_, _, otherHolds, _⟩ := started
        rw [holds] at otherHolds
        cases otherHolds
  · exact owned.detached
  · intro progress progressHolds
    cases progressHolds
    exact ⟨_, Table.get?_set_self _ _ _, rfl, rfl, notReturned⟩

/-- Taking an empty slot for the started client keeps the invariant. -/
theorem Owned.ofSlotTaken
    {state next : Interleaved}
    {call : AttachCall}
    {recreated : Bool}
    (owned : state.Owned)
    (holds : state.holder = some (.started call recreated))
    (empty : state.host.sessions.get? call.id = none)
    (heap : next.host.heap = state.host.heap)
    (sessions : ∀ id, next.host.sessions.get? id =
      if call.id = id then some call.handle
      else state.host.sessions.get? id)
    (nextReturned : next.returned =
      (call.id, ⟨call.handle, recreated⟩) :: state.returned)
    (nextIdle : next.holder = none)
    (sameDetached : next.detached = state.detached) :
    next.Owned := by
  obtain ⟨fresh, freshFound, freshName, freshOpen, notReturned⟩ :=
    owned.pending _ holds
  have undetached : call.handle ∉ state.detached := by
    intro member
    obtain ⟨id, returned⟩ := owned.detached _ member
    exact notReturned id returned
  have returned_iff (id : String) (client : Handle) :
      next.Returned id client ↔
        (id = call.id ∧ client = call.handle) ∨ state.Returned id client := by
    simp only [Returned, nextReturned, List.mem_cons, Prod.mk.injEq,
      AttachResult.mk.injEq]
    constructor
    · rintro ⟨flag, ⟨sameId, sameClient, _⟩ | member⟩
      · exact Or.inl ⟨sameId, sameClient⟩
      · exact Or.inr ⟨flag, member⟩
    · rintro (⟨sameId, sameClient⟩ | ⟨flag, member⟩)
      · exact ⟨recreated, Or.inl ⟨sameId, sameClient, rfl⟩⟩
      · exact ⟨flag, Or.inr member⟩
  refine
    { slot := ?_, returned := ?_, reaped := ?_, known := ?_, detached := ?_,
      pending := ?_ }
  · intro id client found
    rw [sessions] at found
    rw [returned_iff, Host.Open, heap, sameDetached]
    split at found
    · next sameId =>
        cases found
        exact ⟨Or.inl ⟨sameId.symm, rfl⟩, ⟨fresh, freshFound, freshOpen⟩,
          undetached⟩
    · obtain ⟨returned, isOpen, notDetached⟩ := owned.slot id client found
      exact ⟨Or.inr returned, isOpen, notDetached⟩
  · intro id client returned
    rw [returned_iff] at returned
    rw [heap, sessions]
    rcases returned with ⟨rfl, rfl⟩ | returned
    · exact ⟨fresh, freshFound, freshName, fun _ => by simp⟩
    · obtain ⟨session, found, name, slot⟩ :=
        owned.returned id client returned
      refine ⟨session, found, name, fun isOpen => ?_⟩
      have held := slot isOpen
      rw [if_neg, held]
      rintro rfl
      rw [empty] at held
      cases held
  · intro client session found
    rw [heap] at found
    exact owned.reaped client session found
  · intro client session found
    rw [heap] at found
    refine Or.inl ?_
    rcases owned.known client session found with known | started
    · obtain ⟨id, returned⟩ := known
      exact ⟨id, (returned_iff id client).mpr (Or.inr returned)⟩
    · obtain ⟨other, _, otherHolds, sameHandle⟩ := started
      rw [holds] at otherHolds
      cases otherHolds
      exact ⟨call.id,
        (returned_iff _ _).mpr (Or.inl ⟨rfl, sameHandle.symm⟩)⟩
  · intro client member
    rw [sameDetached] at member
    obtain ⟨id, returned⟩ := owned.detached client member
    exact ⟨id, (returned_iff id client).mpr (Or.inr returned)⟩
  · intro progress progressHolds
    rw [nextIdle] at progressHolds
    cases progressHolds

/-- Every step of an `Attach` call keeps the invariant. -/
theorem Owned.advance
    {state : Interleaved}
    {progress : Progress}
    (owned : state.Owned)
    (holds : state.holder = some progress) :
    (state.advance progress).Owned := by
  cases progress with
  | checked call found =>
      have unstarted : ∀ other recreated,
          state.holder ≠ some (.started other recreated) := by
        simp [holds]
      have absent : state.host.heap.get? call.handle = none :=
        owned.pending _ holds
      cases found with
      | true =>
          refine owned.ofUnstarted unstarted rfl rfl rfl rfl ?_
          intro progress progressHolds
          cases progressHolds
          exact ⟨by simp, absent⟩
      | false =>
          simp only [Interleaved.advance]
          split
          · refine owned.ofUnstarted unstarted rfl rfl rfl rfl ?_
            intro progress progressHolds
            cases progressHolds
          · next host created =>
              obtain ⟨sameHeap, sameSessions⟩ := clients_attachCreate created
              refine owned.ofUnstarted unstarted sameHeap sameSessions rfl rfl
                ?_
              intro progress progressHolds
              cases progressHolds
              exact ⟨by simp, absent⟩
  | existing call recreated =>
      simp only [Interleaved.advance]
      split
      · refine owned.ofUnstarted (by simp [holds]) rfl rfl rfl rfl ?_
        intro progress progressHolds
        cases progressHolds
      · next host began => exact owned.ofStarted holds began
  | started call recreated =>
      simp only [Interleaved.advance, Host.attachPublish]
      split
      · next prior found =>
          -- The prior client is given back first; then the slot is empty.
          have returned := (owned.slot call.id prior found).1
          let between : Interleaved :=
            { state with
              host := state.host.shutdownOne (call.id, prior) }
          have betweenOwned : between.Owned :=
            owned.giveBack returned (givenBack_shutdownOne found) rfl rfl
              fun _ member => Or.inr member
          refine betweenOwned.ofSlotTaken holds ?_ rfl ?_ rfl rfl rfl
          · simp [between, Host.shutdownOne]
          · intro id
            by_cases same : call.id = id <;>
              simp [between, Host.shutdownOne, Table.get?_set,
                Table.get?_erase, same]
      · next empty =>
          exact owned.ofSlotTaken holds empty rfl
            (fun id => Table.get?_set _ _ _ _) rfl rfl rfl

/-! ## Whole runs -/

/-- `Shutdown` gives back the client of every slot it visits. -/
theorem Owned.shutdownLoop
    (entries : List (String × Handle))
    (distinct : (entries.map Prod.fst).Nodup)
    {state : Interleaved}
    (owned : state.Owned)
    (held : ∀ entry ∈ entries,
      state.host.sessions.get? entry.1 = some entry.2) :
    ({ state with
        host := entries.foldl Host.shutdownOne state.host } :
      Interleaved).Owned := by
  induction entries generalizing state with
  | nil => exact owned
  | cons entry rest inductionHypothesis =>
      simp only [List.map_cons, List.nodup_cons] at distinct
      have found := held entry (by simp)
      have returned := (owned.slot entry.1 entry.2 found).1
      let between : Interleaved :=
        { state with host := state.host.shutdownOne entry }
      have betweenOwned : between.Owned :=
        owned.giveBack returned (givenBack_shutdownOne found) rfl rfl
          fun _ member => Or.inr member
      refine inductionHypothesis distinct.2 betweenOwned ?_
      intro other member
      have different : entry.1 ≠ other.1 := fun same =>
        distinct.1 (same ▸ List.mem_map.mpr ⟨other, member, rfl⟩)
      show (state.host.shutdownOne entry).sessions.get? other.1 = _
      rw [Host.shutdownOne, Table.get?_erase_of_ne _ different,
        Host.sessions_close]
      exact held other (by simp [member])

theorem Owned.start (server : Server) : (start server).Owned where
  slot := by simp [Interleaved.start, Host.newManager]
  returned := by simp [Interleaved.start, Returned]
  reaped := by simp [Interleaved.start, Host.newManager]
  known := by simp [Interleaved.start, Host.newManager]
  detached := by simp [Interleaved.start]
  pending := by simp [Interleaved.start]

/-- Every step of every goroutine keeps the invariant. -/
theorem Owned.step
    {state next : Interleaved}
    {action : Action}
    (owned : state.Owned)
    (stepped : state.step action = some next) :
    next.Owned := by
  cases action with
  | attachLock call =>
      obtain ⟨⟨idle, absent⟩, rfl⟩ := step_attachLock.mp stepped
      refine owned.ofUnstarted (by simp [idle]) rfl rfl rfl rfl ?_
      intro progress holds
      cases holds
      exact ⟨by simp, absent⟩
  | attachStep =>
      obtain ⟨progress, holds, rfl⟩ := step_attachStep.mp stepped
      exact owned.advance holds
  | detach id client =>
      obtain ⟨⟨_, returned⟩, rfl⟩ := step_detach.mp stepped
      refine owned.giveBack returned (givenBack_detach _ _ _) rfl rfl ?_
      intro other member
      simpa using member
  | resize id size fails =>
      obtain ⟨_, rfl⟩ := step_resize.mp stepped
      obtain ⟨sameHeap, sameSessions⟩ :=
        clients_resize state.host id size fails
      exact owned.ofSameClients sameHeap sameSessions rfl rfl rfl
  | killLock id =>
      obtain ⟨_, rfl⟩ := step_killLock.mp stepped
      cases found : state.host.sessions.get? id with
      | none =>
          obtain ⟨sameSessions, sameHeap⟩ := killLocked_of_no_slot found
          exact owned.ofSameClients sameHeap sameSessions rfl rfl rfl
      | some client =>
          exact owned.giveBack (owned.slot id client found).1
            (givenBack_killLocked found) rfl rfl
            fun _ member => Or.inr member
  | killTmux id =>
      obtain ⟨_, rfl⟩ := step_killTmux.mp stepped
      exact owned.ofSameClients rfl rfl rfl rfl rfl
  | shutdown =>
      obtain ⟨_, rfl⟩ := step_shutdown.mp stepped
      refine owned.shutdownLoop _ state.host.sessions.nodup ?_
      rintro ⟨id, client⟩ member
      exact (state.host.sessions.mem_entries_iff id client).mp member
  | resizePTY client size =>
      obtain rfl := step_resizePTY.mp stepped
      refine owned.ofHeapMap
        (fun other session =>
          if other = client then session.resize size else session)
        ?_ ?_ ?_ ?_ rfl rfl rfl rfl
      · intro other session
        split <;> rfl
      · intro other session
        split <;> rfl
      · intro other session reaped
        split <;> exact reaped
      · intro other
        exact Table.get?_mapWithKey _ _ _
  | closePTMX client =>
      obtain rfl := step_closePTMX.mp stepped
      refine owned.ofHeapMap
        (fun other session =>
          if other = client then session.closePTMX else session)
        ?_ ?_ ?_ ?_ rfl rfl rfl rfl
      · intro other session
        split <;> simp
      · intro other session
        split <;> simp
      · intro other session reaped
        split
        · exact reaped.closePTMX
        · exact reaped
      · intro other
        exact Table.get?_mapWithKey _ _ _
  | sessionEnds id =>
      obtain rfl := step_sessionEnds.mp stepped
      exact owned.ofSameClients rfl rfl rfl rfl rfl

/-- Every reachable state satisfies the invariant. -/
theorem Owned.ofRun
    {server : Server}
    {actions : List Action}
    {state : Interleaved}
    (ran : run Interleaved.step (Interleaved.start server) actions =
      some state) :
    state.Owned :=
  invariant_of_unconditional_run
    (fun _ _ _ owned stepped => Owned.step owned stepped)
    (Owned.start server) ran

/-- What ownership of attach clients promises in one state. -/
structure AttachOwnership (state : Interleaved) : Prop where
  /-- A returned client is open exactly while its slot points at it. -/
  open_iff_slot : ∀ id client, state.Returned id client →
    (state.host.Open client ↔ state.host.sessions.get? id = some client)
  /-- Among the clients returned for an id at most one is open. -/
  one_open_returned : ∀ id left right,
    state.Returned id left → state.Returned id right →
      state.host.Open left → state.host.Open right → left = right
  /-- While no `Attach` is in progress, at most one client of an id is open,
  returned or not. -/
  one_open : state.holder = none →
    ∀ left right leftSession rightSession,
      state.host.heap.get? left = some leftSession →
      state.host.heap.get? right = some rightSession →
      leftSession.closed = false → rightSession.closed = false →
      leftSession.name = rightSession.name → left = right
  /-- No process is killed or reaped twice. -/
  reaped_once : ∀ client session,
    state.host.heap.get? client = some session →
      session.kills ≤ 1 ∧ session.waits ≤ 1
  /-- A `Detach` changes no client but its own, and no slot of another. -/
  detach_frame : ∀ id client next,
    state.step (.detach id client) = some next →
      ∀ other, other ≠ client →
        next.host.heap.get? other = state.host.heap.get? other ∧
          ∀ slot, state.host.sessions.get? slot = some other →
            next.host.sessions.get? slot = some other
  /-- As long as an `Attach` has not returned a client, its steps leave the
  map and every existing client as they were; so does one that fails. -/
  attach_frame : ∀ action next,
    (∃ call, action = .attachLock call) ∨ action = .attachStep →
      state.step action = some next → next.returned = state.returned →
        next.host.sessions = state.host.sessions ∧
          ∀ client session, state.host.heap.get? client = some session →
            next.host.heap.get? client = some session
  /-- Once every handler has run its `Detach`, the map is empty and every
  process has been killed and reaped. -/
  all_detached : state.holder = none →
    (∀ id client, state.Returned id client → client ∈ state.detached) →
      (∀ id, state.host.sessions.get? id = none) ∧
        ∀ client session, state.host.heap.get? client = some session →
          session.closed = true ∧ session.kills = 1 ∧ session.waits = 1

theorem Owned.open_iff_slot
    {state : Interleaved}
    (owned : state.Owned)
    {id : String}
    {client : Handle}
    (returned : state.Returned id client) :
    state.host.Open client ↔
      state.host.sessions.get? id = some client := by
  constructor
  · rintro ⟨session, found, isOpen⟩
    obtain ⟨other, otherFound, _, slot⟩ := owned.returned id client returned
    rw [found] at otherFound
    cases otherFound
    exact slot isOpen
  · intro held
    exact (owned.slot id client held).2.1

theorem Owned.attach_frame
    {state : Interleaved}
    {progress : Progress}
    (owned : state.Owned)
    (holds : state.holder = some progress)
    (sameReturned : (state.advance progress).returned = state.returned) :
    (state.advance progress).host.sessions = state.host.sessions ∧
      ∀ client session, state.host.heap.get? client = some session →
        (state.advance progress).host.heap.get? client = some session := by
  cases progress with
  | checked call found =>
      cases found with
      | true => exact ⟨rfl, fun _ _ kept => kept⟩
      | false =>
          simp only [Interleaved.advance]
          split
          · exact ⟨rfl, fun _ _ kept => kept⟩
          · next host created =>
              obtain ⟨sameHeap, sameSessions⟩ := clients_attachCreate created
              exact ⟨sameSessions, fun _ _ kept => by rwa [sameHeap]⟩
  | existing call recreated =>
      have absent : state.host.heap.get? call.handle = none :=
        owned.pending _ holds
      simp only [Interleaved.advance]
      split
      · exact ⟨rfl, fun _ _ kept => kept⟩
      · next host began =>
          unfold Host.newSession at began
          split at began
          · cases began
          · cases began
            refine ⟨rfl, fun client session kept => ?_⟩
            rw [Table.get?_set_of_ne, kept]
            rintro rfl
            rw [absent] at kept
            cases kept
  | started call recreated =>
      exact absurd sameReturned (List.cons_ne_self _ _)

/-- In every state that any interleaving of the manager's operations reaches,
open clients and map slots correspond, each id has at most one open client,
processes are killed and reaped at most once, a stale `Detach` and a failed
`Attach` leave other clients alone, and nothing is leaked once every handler
has detached. -/
theorem attachOwnership_of_run
    {server : Server}
    {actions : List Action}
    {state : Interleaved}
    (ran : run Interleaved.step (Interleaved.start server) actions =
      some state) :
    state.AttachOwnership := by
  have owned := Owned.ofRun ran
  refine
    { open_iff_slot := fun _ _ => owned.open_iff_slot
      one_open_returned := ?_, one_open := ?_, reaped_once := ?_
      detach_frame := ?_, attach_frame := ?_, all_detached := ?_ }
  · intro id left right leftReturned rightReturned leftOpen rightOpen
    have leftSlot := (owned.open_iff_slot leftReturned).mp leftOpen
    have rightSlot := (owned.open_iff_slot rightReturned).mp rightOpen
    rw [leftSlot] at rightSlot
    exact Option.some.inj rightSlot
  · intro idle left right leftSession rightSession leftFound rightFound
      leftOpen rightOpen sameName
    have returned_of_found {client : Handle} {session : Session}
        (found : state.host.heap.get? client = some session) :
        ∃ id, state.Returned id client := by
      rcases owned.known client session found with known | started
      · exact known
      · obtain ⟨_, _, holds, _⟩ := started
        rw [idle] at holds
        cases holds
    obtain ⟨leftId, leftReturned⟩ := returned_of_found leftFound
    obtain ⟨rightId, rightReturned⟩ := returned_of_found rightFound
    obtain ⟨_, leftAgain, leftName, leftSlot⟩ :=
      owned.returned leftId left leftReturned
    obtain ⟨_, rightAgain, rightName, rightSlot⟩ :=
      owned.returned rightId right rightReturned
    rw [leftFound] at leftAgain
    rw [rightFound] at rightAgain
    cases leftAgain
    cases rightAgain
    have sameId : leftId = rightId :=
      tmuxName_injective (leftName.symm.trans (sameName.trans rightName))
    subst sameId
    exact Option.some.inj ((leftSlot leftOpen).symm.trans (rightSlot rightOpen))
  · intro client session found
    obtain ⟨kills, waits⟩ := owned.reaped client session found
    rw [kills, waits]
    cases session.closed <;> simp
  · intro id client next stepped other different
    obtain ⟨_, rfl⟩ := step_detach.mp stepped
    have givenBack := givenBack_detach state.host id client
    refine ⟨by rw [givenBack.heap, if_neg different], fun slot held => ?_⟩
    rw [givenBack.sessions, if_neg, held]
    rintro ⟨clientHeld, rfl⟩
    rw [held] at clientHeld
    exact different (Option.some.inj clientHeld)
  · intro action next attaching stepped sameReturned
    rcases attaching with ⟨call, rfl⟩ | rfl
    · obtain ⟨_, rfl⟩ := step_attachLock.mp stepped
      exact ⟨rfl, fun _ _ kept => kept⟩
    · obtain ⟨progress, holds, rfl⟩ := step_attachStep.mp stepped
      exact owned.attach_frame holds sameReturned
  · intro idle allDetached
    have noSlot (id : String) : state.host.sessions.get? id = none := by
      cases held : state.host.sessions.get? id with
      | none => rfl
      | some client =>
          obtain ⟨returned, _, notDetached⟩ := owned.slot id client held
          exact absurd (allDetached id client returned) notDetached
    refine ⟨noSlot, fun client session found => ?_⟩
    have isClosed : session.closed = true := by
      rcases owned.known client session found with known | started
      · obtain ⟨id, returned⟩ := known
        obtain ⟨_, again, _, slot⟩ := owned.returned id client returned
        rw [found] at again
        cases again
        by_contra notClosed
        have held := slot (by simpa using notClosed)
        rw [noSlot] at held
        cases held
      · obtain ⟨_, _, holds, _⟩ := started
        rw [idle] at holds
        cases holds
    obtain ⟨kills, waits⟩ := owned.reaped client session found
    rw [isClosed] at kills waits
    exact ⟨isClosed, kills, waits⟩

/-- Two overlapping handlers on one id: the second `Attach` closes the first
client, whose late `Detach` leaves the second alone. -/
def staleDetachRun : List Action :=
  [.attachLock ⟨0, "a", ⟨120, 40⟩, ⟨false, false⟩⟩,
    .attachStep, .attachStep, .attachStep,
    .attachLock ⟨1, "a", ⟨120, 40⟩, ⟨false, false⟩⟩,
    .attachStep, .attachStep, .attachStep,
    .detach "a" 0]

/-- Ownership after the stale `Detach` of an overtaken handler. -/
theorem attachOwnership_staleDetachRun :
    ((run Interleaved.step (Interleaved.start Server.fresh)
      staleDetachRun).get (by decide)).AttachOwnership :=
  attachOwnership_of_run (Option.some_get _).symm

end Interleaved
end Tmux
end LociTerm
