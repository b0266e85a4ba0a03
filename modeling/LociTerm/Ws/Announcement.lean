import LociTerm.Tmux.Steady
import LociTerm.Ws.Handler

/-!
# Announcing fresh shells

An `attached` frame with `recreated` set tells the user that a new tmux
session stands behind the id.  Only the `Attach` that created the session
sends it, once.  When that call fails to start its client, or its frame is not
written, or is not written yet, another handler reports the new session as an
old one.
-/

namespace LociTerm
namespace Ws

open Tmux

/-- Every `attached` frame without `recreated` was delivered after one with
`recreated` for the same tmux session.  The newest frame comes first. -/
def Heralded : List Delivery → Prop
  | [] => True
  | frame :: earlier =>
      (frame.message = attachedMessage false →
        ∀ incarnation, frame.incarnation = some incarnation →
          ∃ herald ∈ earlier, herald.id = frame.id ∧
            herald.message = attachedMessage true ∧
            herald.incarnation = some incarnation) ∧
      Heralded earlier

namespace Terminals

/-- The frame that announces a tmux session is still to be written. -/
def Unannounced (state : Terminals) (incarnation : Nat) : Prop :=
  ∃ entry ∈ state.unwritten, entry.2.recreated = true ∧
    state.incarnation? entry.2.session = some incarnation

instance (state : Terminals) (incarnation : Nat) :
    Decidable (state.Unannounced incarnation) :=
  inferInstanceAs (Decidable (∃ entry ∈ state.unwritten, _))

/-- A frame without `recreated` is not delivered for a tmux session whose
creating `Attach` failed to start its client, or whose announcing frame could
not be written or is still to be written. -/
def Announces (state : Terminals) : TerminalAction → Prop
  | .writeAttached _ ⟨client, false⟩ false =>
      ∀ incarnation ∈ (state.incarnation? client).toList,
        incarnation ∉ state.lost ∧ ¬state.Unannounced incarnation
  | _ => True

instance (state : Terminals) :
    ∀ action, Decidable (state.Announces action)
  | .writeAttached _ ⟨_, false⟩ false =>
      inferInstanceAs (Decidable (∀ incarnation ∈ Option.toList _, _))
  | .writeAttached _ ⟨_, true⟩ _ | .writeAttached _ ⟨_, false⟩ true
  | .connect _ _ _ | .manager _ => isTrue trivial

/-- What has become of the frame that announces a tmux session of an id. -/
inductive Traced (state : Terminals) (id : String) (incarnation : Nat) : Prop
  /-- The `Attach` that created the session is about to return. -/
  | returning (call : AttachCall)
      (holds : state.manager.holder = some (.started call true))
      (owner : call.id = id)
      (origin : state.manager.host.origin? call.handle =
        some (tmuxName id, some incarnation))
  | unwritten (client : Handle)
      (member : (id, ⟨client, true⟩) ∈ state.unwritten)
      (origin : state.manager.host.origin? client =
        some (tmuxName id, some incarnation))
  | lost (member : incarnation ∈ state.lost)
  | delivered (frame : Delivery)
      (member : frame ∈ state.delivered)
      (owner : frame.id = id)
      (message : frame.message = attachedMessage true)
      (joined : frame.incarnation = some incarnation)

/-- The invariant of the terminal handlers. -/
structure Tracing (state : Terminals) : Prop where
  owned : state.manager.Owned
  /-- The frame of every live tmux session can be traced, unless its `Attach`
  has yet to start a client. -/
  live : ∀ id session,
    state.manager.host.server.live.get? (tmuxName id) = some session →
      session.incarnation < state.manager.host.server.incarnations ∧
      (state.Traced id session.incarnation ∨
        ∃ call, state.manager.holder = some (.existing call true) ∧
          call.id = id)
  /-- So can the frame of every tmux session that a client has joined. -/
  joined : ∀ client id incarnation,
    state.manager.host.origin? client =
        some (tmuxName id, some incarnation) →
      incarnation < state.manager.host.server.incarnations ∧
      state.Traced id incarnation
  /-- While an `Attach` has a new tmux session, it is the newest, and only its
  own client joins it. -/
  created : ∀ call, state.manager.holder = some (.existing call true) →
    (∀ session,
      state.manager.host.server.live.get? (tmuxName call.id) =
          some session →
        session.incarnation + 1 =
          state.manager.host.server.incarnations) ∧
      ∀ client id incarnation,
        state.manager.host.origin? client =
            some (tmuxName id, some incarnation) →
          incarnation + 1 < state.manager.host.server.incarnations
  started : ∀ call, state.manager.holder = some (.started call true) →
    (∀ id incarnation,
      state.manager.host.origin? call.handle =
          some (tmuxName id, some incarnation) →
        incarnation + 1 = state.manager.host.server.incarnations) ∧
      ∀ client id incarnation, client ≠ call.handle →
        state.manager.host.origin? client =
            some (tmuxName id, some incarnation) →
          incarnation + 1 < state.manager.host.server.incarnations
  unwritten : ∀ id result, (id, result) ∈ state.unwritten →
    state.manager.Returned id result.session
  heralded : Heralded state.delivered

theorem Tracing.start : start.Tracing where
  owned := Interleaved.Owned.start Server.fresh
  live := by
    simp [Terminals.start, Interleaved.start, Host.newManager, Server.fresh]
  joined := by
    simp [Terminals.start, Interleaved.start, Host.newManager, Host.origin?]
  created := by simp [Terminals.start, Interleaved.start]
  started := by simp [Terminals.start, Interleaved.start]
  unwritten := by simp [Terminals.start]
  heralded := trivial

theorem incarnation?_of_origin
    {state : Terminals}
    {client : Handle}
    {name : String}
    {incarnation : Option Nat}
    (origin : state.manager.host.origin? client =
      some (name, incarnation)) :
    state.incarnation? client = incarnation := by
  unfold Host.origin? at origin
  obtain ⟨session, found, same⟩ := Option.map_eq_some_iff.mp origin
  simp only [Session.origin, Prod.mk.injEq] at same
  simp [incarnation?, found, same.2]

/-- The origin of a client that an `Attach` has returned. -/
theorem Tracing.origin_of_returned
    {state : Terminals}
    (tracing : state.Tracing)
    {id : String}
    {client : Handle}
    (returned : state.manager.Returned id client) :
    state.manager.host.origin? client =
      some (tmuxName id, state.incarnation? client) := by
  obtain ⟨session, found, name, _⟩ :=
    tracing.owned.returned id client returned
  simp [Host.origin?, incarnation?, found, Session.origin, name]

/-! ## Steps that create nothing -/

/-- A trace is kept by a step that keeps the lost sessions and the delivered
frames, and accounts for the results on their way to a frame. -/
theorem Traced.move
    {state next : Terminals}
    {id : String}
    {incarnation : Nat}
    (traced : state.Traced id incarnation)
    (returning : ∀ call,
      state.manager.holder = some (.started call true) → call.id = id →
        state.manager.host.origin? call.handle =
          some (tmuxName id, some incarnation) →
        next.Traced id incarnation)
    (unwritten : ∀ client, (id, ⟨client, true⟩) ∈ state.unwritten →
      state.manager.host.origin? client =
        some (tmuxName id, some incarnation) →
      next.Traced id incarnation)
    (lost : ∀ old ∈ state.lost, old ∈ next.lost)
    (delivered : ∀ frame ∈ state.delivered, frame ∈ next.delivered) :
    next.Traced id incarnation := by
  cases traced with
  | returning call holds owner origin =>
      exact returning call holds owner origin
  | unwritten client member origin => exact unwritten client member origin
  | lost member => exact .lost (lost _ member)
  | delivered frame member owner message joined =>
      exact .delivered frame (delivered _ member) owner message joined

/-- A step that creates nothing keeps the invariant when it keeps every
trace. -/
theorem Tracing.ofSteady
    {state next : Terminals}
    (tracing : state.Tracing)
    (owned : next.manager.Owned)
    (steady : state.manager.host.Steady next.manager.host)
    (holder : ∀ progress, progress.Creating →
      next.manager.holder = some progress →
        state.manager.holder = some progress)
    (traced : ∀ id incarnation, state.Traced id incarnation →
      next.Traced id incarnation)
    (existing : ∀ call session,
      state.manager.holder = some (.existing call true) →
        state.manager.host.server.live.get? (tmuxName call.id) =
          some session →
        next.Traced call.id session.incarnation ∨
          next.manager.holder = some (.existing call true))
    (unwritten : ∀ id result, (id, result) ∈ next.unwritten →
      next.manager.Returned id result.session)
    (heralded : Heralded next.delivered) :
    next.Tracing := by
  refine
    { owned := owned, live := ?_, joined := ?_, created := ?_, started := ?_
      unwritten := unwritten, heralded := heralded }
  · intro id session live
    obtain ⟨earlier, earlierLive, same⟩ := steady.live _ _ live
    obtain ⟨older, found⟩ := tracing.live id earlier earlierLive
    rw [← same, steady.incarnations]
    refine ⟨older, ?_⟩
    rcases found with found | ⟨call, holds, rfl⟩
    · exact Or.inl (traced _ _ found)
    · rcases existing call earlier holds earlierLive with found | holds
      · exact Or.inl found
      · exact Or.inr ⟨call, holds, rfl⟩
  · intro client id incarnation origin
    rw [steady.origin] at origin
    obtain ⟨older, found⟩ := tracing.joined client id incarnation origin
    rw [steady.incarnations]
    exact ⟨older, traced _ _ found⟩
  · intro call holds
    obtain ⟨newest, others⟩ := tracing.created call
      (holder (.existing call true) trivial holds)
    rw [steady.incarnations]
    constructor
    · intro session live
      obtain ⟨earlier, earlierLive, same⟩ := steady.live _ _ live
      rw [← same]
      exact newest earlier earlierLive
    · intro client id incarnation origin
      rw [steady.origin] at origin
      exact others client id incarnation origin
  · intro call holds
    obtain ⟨newest, others⟩ := tracing.started call
      (holder (.started call true) trivial holds)
    rw [steady.incarnations]
    constructor
    · intro id incarnation origin
      rw [steady.origin] at origin
      exact newest id incarnation origin
    · intro client id incarnation different origin
      rw [steady.origin] at origin
      exact others client id incarnation different origin

/-- Steps of the manager in which no `Attach` creates anything or returns. -/
theorem Tracing.ofQuietStep
    {state : Terminals}
    {manager : Interleaved}
    (tracing : state.Tracing)
    (owned : manager.Owned)
    (steady : state.manager.host.Steady manager.host)
    (holder : ∀ progress, progress.Creating →
      (manager.holder = some progress ↔
        state.manager.holder = some progress))
    (returned : manager.returned = state.manager.returned) :
    ({ state with manager := manager } : Terminals).Tracing := by
  apply tracing.ofSteady owned steady
  · exact fun progress creating => (holder progress creating).mp
  · intro id incarnation traced
    apply traced.move
    · intro call holds owner origin
      exact .returning call
        ((holder (.started call true) trivial).mpr holds) owner
        ((steady.origin _).trans origin)
    · intro client member origin
      exact .unwritten client member ((steady.origin _).trans origin)
    · exact fun _ member => member
    · exact fun _ member => member
  · intro call session holds _
    exact Or.inr ((holder (.existing call true) trivial).mpr holds)
  · intro id result member
    unfold Interleaved.Returned
    rw [returned]
    exact tracing.unwritten id result member
  · exact tracing.heralded

/-! ## Steps of an `Attach` call -/

theorem returned_advance
    {manager : Interleaved}
    {id : String}
    {client : Handle}
    (progress : Progress)
    (returned : manager.Returned id client) :
    (manager.advance progress).Returned id client := by
  unfold Interleaved.advance
  split
  · exact returned
  · split <;> exact returned
  · split <;> exact returned
  · obtain ⟨recreated, member⟩ := returned
    exact ⟨recreated, List.mem_cons_of_mem _ member⟩

/-- `new-session` succeeds. -/
theorem Tracing.create
    {state : Terminals}
    {call : AttachCall}
    {created : Host}
    (tracing : state.Tracing)
    (holds : state.manager.holder = some (.checked call false))
    (succeeded : state.manager.host.attachCreate call = some created)
    (owned : ({ state.manager with
      host := created
      holder := some (.existing call true) } : Interleaved).Owned) :
    ({ state with
      manager := { state.manager with
        host := created
        holder := some (.existing call true) } } : Terminals).Tracing := by
  have creation := Host.created_attachCreate succeeded
  have origin (client : Handle) :
      created.origin? client = state.manager.host.origin? client := by
    unfold Host.origin?
    rw [creation.heap]
  have kept {id : String} {incarnation : Nat}
      (traced : state.Traced id incarnation) :
      ({ state with
        manager := { state.manager with
          host := created
          holder := some (.existing call true) } } :
        Terminals).Traced id incarnation := by
    apply traced.move
    · intro other otherHolds
      rw [holds] at otherHolds
      cases otherHolds
    · intro client member found
      exact .unwritten client member ((origin client).trans found)
    · exact fun _ member => member
    · exact fun _ member => member
  refine
    { owned := owned, live := ?_, joined := ?_, created := ?_, started := ?_
      unwritten := tracing.unwritten, heralded := tracing.heralded }
  · intro id session live
    simp only [creation.incarnations]
    rcases creation.live _ _ live with ⟨same, newest⟩ | earlier
    · refine ⟨by omega, Or.inr ⟨call, rfl, ?_⟩⟩
      exact (tmuxName_injective same).symm
    · obtain ⟨older, traced⟩ := tracing.live id session earlier
      refine ⟨by omega, Or.inl ?_⟩
      rcases traced with traced | ⟨other, otherHolds, _⟩
      · exact kept traced
      · rw [holds] at otherHolds
        cases otherHolds
  · intro client id incarnation found
    simp only [origin] at found
    obtain ⟨older, traced⟩ := tracing.joined client id incarnation found
    simp only [creation.incarnations]
    exact ⟨by omega, kept traced⟩
  · rintro _ ⟨⟩
    simp only [creation.incarnations]
    constructor
    · intro session live
      rcases creation.live _ _ live with ⟨_, newest⟩ | earlier
      · omega
      · rw [creation.absent] at earlier
        cases earlier
    · intro client id incarnation found
      simp only [origin] at found
      have older := (tracing.joined client id incarnation found).1
      omega
  · rintro _ ⟨⟩

/-- The attach client starts. -/
theorem Tracing.join
    {state : Terminals}
    {call : AttachCall}
    {recreated : Bool}
    {joined : Host}
    (tracing : state.Tracing)
    (holds : state.manager.holder = some (.existing call recreated))
    (began : state.manager.host.newSession call = some joined)
    (owned : ({ state.manager with
      host := joined
      holder := some (.started call recreated) } : Interleaved).Owned) :
    ({ state with
      manager := { state.manager with
        host := joined
        holder := some (.started call recreated) } } :
      Terminals).Tracing := by
  have joining := Host.joined_newSession began
  have fresh : state.manager.host.heap.get? call.handle = none :=
    tracing.owned.pending _ holds
  have origin {client : Handle} (different : client ≠ call.handle) :
      joined.origin? client = state.manager.host.origin? client := by
    rw [joining.origin, if_neg different]
  have originNew : joined.origin? call.handle =
      some (tmuxName call.id,
        (state.manager.host.server.live.get? (tmuxName call.id)).map
          TmuxSession.incarnation) := by
    rw [joining.origin, if_pos rfl]
  let next : Terminals :=
    { state with
      manager := { state.manager with
        host := joined
        holder := some (.started call recreated) } }
  have kept {id : String} {incarnation : Nat}
      (traced : state.Traced id incarnation) :
      next.Traced id incarnation := by
    apply traced.move
    · intro other otherHolds
      rw [holds] at otherHolds
      cases otherHolds
    · intro client member found
      have different : client ≠ call.handle := by
        rintro rfl
        simp [Host.origin?, fresh] at found
      exact .unwritten client member ((origin different).trans found)
    · exact fun _ member => member
    · exact fun _ member => member
  -- Whichever client the session has first, its frame can be traced now.
  have live {id : String} {session : TmuxSession}
      (found : state.manager.host.server.live.get? (tmuxName id) =
        some session) :
      session.incarnation < state.manager.host.server.incarnations ∧
        next.Traced id session.incarnation := by
    obtain ⟨older, traced⟩ := tracing.live id session found
    refine ⟨older, ?_⟩
    rcases traced with traced | ⟨other, otherHolds, rfl⟩
    · exact kept traced
    · rw [holds] at otherHolds
      cases otherHolds
      exact .returning call rfl rfl (by rw [originNew, found]; rfl)
  refine
    { owned := owned, live := ?_, joined := ?_, created := ?_, started := ?_
      unwritten := tracing.unwritten, heralded := tracing.heralded }
  · intro id session laterLive
    obtain ⟨earlier, earlierLive, same⟩ := joining.live _ _ laterLive
    simp only [← same, joining.incarnations]
    exact ⟨(live earlierLive).1, Or.inl (live earlierLive).2⟩
  · intro client id incarnation found
    simp only [joining.incarnations]
    by_cases same : client = call.handle
    · subst same
      rw [originNew] at found
      simp only [Option.some.injEq, Prod.mk.injEq, tmuxName_inj,
        Option.map_eq_some_iff] at found
      obtain ⟨rfl, session, sessionLive, rfl⟩ := found
      exact live sessionLive
    · rw [origin same] at found
      obtain ⟨older, traced⟩ := tracing.joined client id incarnation found
      exact ⟨older, kept traced⟩
  · rintro _ ⟨⟩
  · rintro _ ⟨⟩
    obtain ⟨newest, others⟩ := tracing.created call holds
    simp only [joining.incarnations]
    constructor
    · intro id incarnation found
      rw [originNew] at found
      simp only [Option.some.injEq, Prod.mk.injEq, tmuxName_inj,
        Option.map_eq_some_iff] at found
      obtain ⟨rfl, session, sessionLive, rfl⟩ := found
      exact newest session sessionLive
    · intro client id incarnation different found
      rw [origin different] at found
      exact others client id incarnation found

/-- The `Attach` returns, and its handler has a frame to write. -/
theorem Tracing.publish
    {state : Terminals}
    {call : AttachCall}
    {recreated : Bool}
    (tracing : state.Tracing)
    (holds : state.manager.holder = some (.started call recreated)) :
    ({ state with
      manager := state.manager.advance (.started call recreated)
      unwritten := (call.id, ⟨call.handle, recreated⟩) ::
        state.unwritten } : Terminals).Tracing := by
  have steady := Host.Steady.attachPublish state.manager.host call
  apply tracing.ofSteady (tracing.owned.advance holds) steady
  · rintro progress _ ⟨⟩
  · intro id incarnation traced
    apply traced.move
    · intro other otherHolds owner origin
      rw [holds] at otherHolds
      cases otherHolds
      exact .unwritten call.handle (by simp [owner])
        ((steady.origin _).trans origin)
    · intro client member origin
      exact .unwritten client (List.mem_cons_of_mem _ member)
        ((steady.origin _).trans origin)
    · exact fun _ member => member
    · exact fun _ member => member
  · intro other session otherHolds
    rw [holds] at otherHolds
    cases otherHolds
  · intro id result member
    rcases List.mem_cons.mp member with same | member
    · cases same
      exact ⟨recreated, List.mem_cons_self⟩
    · exact returned_advance _ (tracing.unwritten id result member)
  · exact tracing.heralded

/-- The attach client of a new tmux session does not start. -/
theorem Tracing.abandon
    {state : Terminals}
    {call : AttachCall}
    (tracing : state.Tracing)
    (holds : state.manager.holder = some (.existing call true))
    (owned : ({ state.manager with holder := none } : Interleaved).Owned) :
    ({ state with
      manager := { state.manager with holder := none }
      lost := (state.manager.host.server.incarnations - 1) ::
        state.lost } : Terminals).Tracing := by
  refine tracing.ofSteady owned (Host.Steady.refl _) ?_ ?_ ?_ ?_ ?_
  · rintro progress _ ⟨⟩
  · intro id incarnation traced
    apply traced.move
    · intro other otherHolds
      rw [holds] at otherHolds
      cases otherHolds
    · exact fun client member origin => .unwritten client member origin
    · exact fun _ member => List.mem_cons_of_mem _ member
    · exact fun _ member => member
  · intro other session otherHolds live
    rw [holds] at otherHolds
    cases otherHolds
    have newest := (tracing.created call holds).1 session live
    exact Or.inl (.lost (by simp [← newest]))
  · exact tracing.unwritten
  · exact tracing.heralded

theorem Tracing.attachStep
    {state : Terminals}
    {progress : Progress}
    (tracing : state.Tracing)
    (holds : state.manager.holder = some progress) :
    ({ state with
      manager := state.manager.advance progress
      unwritten := returning state.manager .attachStep ++ state.unwritten
      lost := abandoning state.manager .attachStep ++ state.lost } :
      Terminals).Tracing := by
  have owned := tracing.owned.advance holds
  -- An `Attach` that has created nothing only gives the mutex back.
  have give_up (notCreating : ¬progress.Creating)
      (owned : ({ state.manager with holder := none } : Interleaved).Owned) :
      ({ state with
        manager := { state.manager with holder := none } } :
        Terminals).Tracing := by
    apply tracing.ofQuietStep owned (Host.Steady.refl _) _ rfl
    intro other creating
    constructor
    · rintro ⟨⟩
    · intro otherHolds
      rw [holds] at otherHolds
      cases otherHolds
      exact absurd creating notCreating
  cases progress with
  | checked call found =>
      have returns : returning state.manager .attachStep = [] := by
        simp [returning, holds]
      have abandons : abandoning state.manager .attachStep = [] := by
        simp [abandoning, holds]
      rw [returns, abandons]
      cases found with
      | true =>
          apply tracing.ofQuietStep owned (Host.Steady.refl _) _ rfl
          intro other creating
          rw [holds]
          constructor
          · rintro ⟨⟩
            exact creating.elim
          · rintro ⟨⟩
            exact creating.elim
      | false =>
          simp only [Interleaved.advance] at owned ⊢
          split at owned
          · exact give_up id owned
          · next created succeeded => exact tracing.create holds succeeded owned
  | existing call recreated =>
      have returns : returning state.manager .attachStep = [] := by
        simp [returning, holds]
      rw [returns]
      simp only [Interleaved.advance] at owned ⊢
      cases began : state.manager.host.newSession call with
      | none =>
          rw [began] at owned
          have fails : call.faults.start = true := by
            simpa [Host.newSession] using began
          cases recreated with
          | true =>
              simpa [abandoning, holds, fails] using
                tracing.abandon holds owned
          | false => simpa [abandoning, holds] using give_up id owned
      | some joined =>
          rw [began] at owned
          have starts : call.faults.start = false := by
            by_contra fails
            simp [Host.newSession, fails] at began
          have abandons : abandoning state.manager .attachStep = [] := by
            cases recreated <;> simp [abandoning, holds, starts]
          rw [abandons]
          exact tracing.join holds began owned
  | started call recreated =>
      simpa [returning, abandoning, holds] using tracing.publish holds

/-! ## Writing the frame -/

/-- A frame is written or lost, and the trace of its tmux session moves on. -/
theorem Tracing.write
    {state : Terminals}
    {id : String}
    {result : AttachResult}
    {lost : List Nat}
    {delivered : List Delivery}
    (tracing : state.Tracing)
    (keepsLost : ∀ old ∈ state.lost, old ∈ lost)
    (keepsDelivered : ∀ frame ∈ state.delivered, frame ∈ delivered)
    (moves : ∀ client incarnation, result = ⟨client, true⟩ →
      state.incarnation? client = some incarnation →
        incarnation ∈ lost ∨
          ⟨id, client, attachedMessage true, some incarnation⟩ ∈ delivered)
    (heralded : Heralded delivered) :
    ({ state with
      unwritten := state.unwritten.erase (id, result)
      lost := lost
      delivered := delivered } : Terminals).Tracing := by
  refine tracing.ofSteady tracing.owned (Host.Steady.refl _) ?_ ?_ ?_ ?_
    heralded
  · exact fun _ _ holds => holds
  · intro other incarnation traced
    apply traced.move
    · exact fun call holds owner origin =>
        .returning call holds owner origin
    · intro client member origin
      by_cases same : (other, (⟨client, true⟩ : AttachResult)) = (id, result)
      · cases same
        rcases moves client incarnation rfl (incarnation?_of_origin origin)
          with isLost | isDelivered
        · exact .lost isLost
        · exact .delivered _ isDelivered rfl rfl rfl
      · exact .unwritten client ((List.mem_erase_of_ne same).mpr member)
          origin
    · exact keepsLost
    · exact keepsDelivered
  · exact fun call session holds _ => Or.inr holds
  · intro other otherResult member
    exact tracing.unwritten other otherResult (List.mem_of_mem_erase member)

/-- A frame without `recreated` that may be delivered has its herald. -/
theorem Tracing.herald
    {state : Terminals}
    {id : String}
    {client : Handle}
    {incarnation : Nat}
    (tracing : state.Tracing)
    (announces :
      state.Announces (.writeAttached id ⟨client, false⟩ false))
    (member : (id, ⟨client, false⟩) ∈ state.unwritten)
    (joined : state.incarnation? client = some incarnation) :
    ∃ herald ∈ state.delivered, herald.id = id ∧
      herald.message = attachedMessage true ∧
      herald.incarnation = some incarnation := by
  have returned := tracing.unwritten id _ member
  have origin := tracing.origin_of_returned returned
  rw [joined] at origin
  obtain ⟨notLost, announced⟩ := announces incarnation (by simp [joined])
  cases (tracing.joined client id incarnation origin).2 with
  | returning call holds owner callOrigin =>
      -- The session is the newest, and this client is not the first there.
      obtain ⟨newest, others⟩ := tracing.started call holds
      have different : client ≠ call.handle := by
        rintro rfl
        obtain ⟨_, _, _, _, unreturned⟩ := tracing.owned.pending _ holds
        exact unreturned id returned
      have isNewest := newest id incarnation callOrigin
      have isOlder := others client id incarnation different origin
      omega
  | unwritten other otherMember otherOrigin =>
      exact absurd
        ⟨_, otherMember, rfl, incarnation?_of_origin otherOrigin⟩ announced
  | lost isLost => exact absurd isLost notLost
  | delivered frame frameMember owner message frameJoined =>
      exact ⟨frame, frameMember, owner, message, frameJoined⟩

/-- Every step that announces in order keeps the invariant. -/
theorem Tracing.step
    {state next : Terminals}
    {action : TerminalAction}
    (tracing : state.Tracing)
    (announces : state.Announces action)
    (stepped : state.step action = some next) :
    next.Tracing := by
  cases action with
  | connect client id faults =>
      simp only [Terminals.step] at stepped
      split at stepped
      · cases stepped
      · obtain ⟨manager, locked, rfl⟩ := Option.map_eq_some_iff.mp stepped
        have owned := tracing.owned.step locked
        obtain ⟨⟨idle, _⟩, rfl⟩ := Interleaved.step_attachLock.mp locked
        apply tracing.ofQuietStep owned (Host.Steady.refl _) _ rfl
        intro progress creating
        rw [idle]
        constructor
        · rintro ⟨⟩
          exact creating.elim
        · rintro ⟨⟩
  | writeAttached id result fails =>
      simp only [Terminals.step] at stepped
      split at stepped
      · next member =>
          obtain ⟨client, recreated⟩ := result
          cases fails with
          | true =>
              obtain rfl := Option.some.inj stepped
              apply tracing.write
              · intro old oldMember
                cases recreated <;> simp [oldMember]
              · exact fun _ frameMember => frameMember
              · rintro _ incarnation ⟨⟩ joined
                simp [joined]
              · exact tracing.heralded
          | false =>
              obtain rfl := Option.some.inj stepped
              apply tracing.write
              · exact fun _ oldMember => oldMember
              · exact fun _ frameMember =>
                  List.mem_cons_of_mem _ frameMember
              · rintro _ incarnation ⟨⟩ joined
                simp [joined]
              · refine ⟨fun message incarnation joined => ?_,
                  tracing.heralded⟩
                cases recreated with
                | true => simp [attachedMessage] at message
                | false => exact tracing.herald announces member joined
      · cases stepped
  | manager action =>
      simp only [Terminals.step] at stepped
      split at stepped
      · next permitted =>
          obtain ⟨manager, moved, rfl⟩ := Option.map_eq_some_iff.mp stepped
          by_cases attaches : action = .attachStep
          · subst attaches
            obtain ⟨progress, holds, rfl⟩ :=
              Interleaved.step_attachStep.mp moved
            exact tracing.attachStep holds
          · have quiet : returning state.manager action = [] ∧
                abandoning state.manager action = [] := by
              unfold returning abandoning
              cases action <;> simp_all
            have notLock (call : AttachCall) : action ≠ .attachLock call := by
              rintro rfl
              exact permitted
            have unattached :=
              Interleaved.unattached_step notLock attaches moved
            simpa [quiet] using tracing.ofQuietStep (tracing.owned.step moved)
              (Interleaved.steady_step attaches moved)
              (fun _ _ => by rw [unattached.1]) unattached.2
      · cases stepped

/-- In every run whose frames are delivered in order, every `attached` frame
without `recreated` was preceded by the one with `recreated` for its tmux
session. -/
theorem heralded_of_announces
    {actions : List TerminalAction}
    {state : Terminals}
    (announces : Follows Terminals.step Announces start actions)
    (ran : run Terminals.step start actions = some state) :
    Heralded state.delivered :=
  (invariant_of_run
    (fun _ _ _ tracing announces stepped =>
      Tracing.step tracing announces stepped)
    Tracing.start announces ran).heralded

/-- A handler whose `Attach` takes these many steps under the mutex. -/
def connectRun
    (client : Handle)
    (faults : AttachFaults)
    (steps : Nat) : List TerminalAction :=
  .connect client "a" faults ::
    List.replicate steps (.manager .attachStep)

/-- Two handlers that attach and announce one after the other. -/
def reconnectRun : List TerminalAction :=
  connectRun 0 ⟨false, false⟩ 3 ++
    [.writeAttached "a" ⟨0, true⟩ false, .manager (.detach "a" 0)] ++
    connectRun 1 ⟨false, false⟩ 3 ++ [.writeAttached "a" ⟨1, false⟩ false]

/-- The frames of a client that reconnects. -/
theorem heralded_reconnectRun :
    Heralded
      ((run Terminals.step start reconnectRun).get (by decide)).delivered :=
  heralded_of_announces (by decide) (Option.some_get _).symm

/-- An `Attach` creates a tmux session and fails to start its client; then the
client reconnects. -/
def silentRun : List TerminalAction :=
  connectRun 0 ⟨false, true⟩ 2 ++ connectRun 1 ⟨false, false⟩ 3 ++
    [.writeAttached "a" ⟨1, false⟩ false]

/-- The new shell is reported as an old one, and by the first frame of all. -/
theorem not_heralded_silentRun :
    ¬∀ actions state, run Terminals.step start actions = some state →
      Heralded state.delivered := by
  intro heralded
  have ends := heralded silentRun
    ((run Terminals.step start silentRun).get (by decide))
    (Option.some_get _).symm
  have delivered :
      ((run Terminals.step start silentRun).get (by decide)).delivered =
        [⟨"a", 1, attachedMessage false, some 0⟩] := by decide
  rw [delivered] at ends
  simpa using ends.1 rfl 0 rfl

end Terminals
end Ws
end LociTerm
