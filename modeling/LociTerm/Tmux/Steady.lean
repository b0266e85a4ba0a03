import LociTerm.Tmux.Interleaving

/-!
# Steps that create nothing

Only the steps of an `Attach` call create tmux sessions and attach clients.
After every other step each client still is of the tmux session it joined, and
each live tmux session was there before.
-/

namespace LociTerm
namespace Tmux

/-- The tmux session name of a client and the incarnation it joined. -/
def Session.origin (session : Session) : String × Option Nat :=
  (session.name, session.incarnation)

@[simp] theorem Session.origin_close (session : Session) :
    session.close.origin = session.origin := by
  unfold Session.close
  split <;> rfl

@[simp] theorem Session.origin_closePTMX (session : Session) :
    session.closePTMX.origin = session.origin := by
  unfold Session.closePTMX
  split <;> rfl

/-- The origin of a client that exists. -/
def Host.origin? (host : Host) (client : Handle) :
    Option (String × Option Nat) :=
  (host.heap.get? client).map Session.origin

/-- A later host with the same clients, no new tmux session, and the same
number of tmux sessions created so far. -/
structure Host.Steady (before after : Host) : Prop where
  origin : ∀ client, after.origin? client = before.origin? client
  live : ∀ name session, after.server.live.get? name = some session →
    ∃ earlier, before.server.live.get? name = some earlier ∧
      earlier.incarnation = session.incarnation
  incarnations : after.server.incarnations = before.server.incarnations

namespace Host.Steady

variable {before middle after : Host}

theorem refl (host : Host) : Steady host host :=
  ⟨fun _ => rfl, fun _ session live => ⟨session, live, rfl⟩, rfl⟩

theorem trans
    (first : Steady before middle)
    (second : Steady middle after) :
    Steady before after := by
  refine ⟨fun client => (second.origin client).trans (first.origin client),
    fun name session live => ?_,
    second.incarnations.trans first.incarnations⟩
  obtain ⟨between, betweenLive, same⟩ := second.live name session live
  obtain ⟨earlier, earlierLive, sameEarlier⟩ :=
    first.live name between betweenLive
  exact ⟨earlier, earlierLive, sameEarlier.trans same⟩

/-- The map and the size cache do not matter. -/
theorem ofSame
    (heap : after.heap = before.heap)
    (server : after.server = before.server) :
    Steady before after := by
  refine ⟨fun client => ?_, fun name session live => ?_, by rw [server]⟩
  · unfold Host.origin?
    rw [heap]
  · exact ⟨session, server ▸ live, rfl⟩

theorem close (host : Host) (client : Handle) :
    Steady host (host.close client) := by
  refine ⟨fun other => ?_, fun name session live => ?_, by simp⟩
  · unfold Host.origin?
    rw [Host.get?_heap_close]
    split <;> simp [Function.comp_def]
  · rw [Host.get?_live_close] at live
    split at live
    · rw [Server.get?_clientExits] at live
      obtain ⟨earlier, earlierLive, rfl⟩ := Option.map_eq_some_iff.mp live
      exact ⟨earlier, earlierLive, rfl⟩
    · exact ⟨session, live, rfl⟩

theorem ofHeapModify
    (client : Handle)
    {f : Session → Session}
    (sameOrigin : ∀ session, (f session).origin = session.origin)
    (host : Host) :
    Steady host { host with heap := host.heap.modify client f } := by
  refine ⟨fun other => ?_, fun _ session live => ⟨session, live, rfl⟩, rfl⟩
  unfold Host.origin?
  rw [Table.get?_modify]
  split <;> simp [Function.comp_def, sameOrigin]

theorem closePTMX (host : Host) (client : Handle) :
    Steady host (host.closePTMX client) :=
  ofHeapModify client (by simp) host

theorem resizePTY (host : Host) (client : Handle) (size : Size) :
    Steady host (host.resizePTY client size) := by
  apply ofHeapModify
  exact fun _ => rfl

theorem killTmux (host : Host) (id : String) :
    Steady host (host.killTmux id) := by
  refine ⟨fun _ => rfl, fun name session live => ?_, rfl⟩
  simp only [Host.killTmux, Server.get?_killSession] at live
  split at live
  · cases live
  · exact ⟨session, live, rfl⟩

theorem detach (host : Host) (id : String) (client : Handle) :
    Steady host (host.detach id (some client)) := by
  simp only [Host.detach]
  split
  · refine trans ?_ (close _ client)
    exact ofSame rfl rfl
  · exact close host client

theorem resize
    (host : Host)
    (id : String)
    (size : Size)
    (fails : Bool) :
    Steady host (host.resize id size fails).1 := by
  rcases host.resize_cases id size fails with
    ⟨_, skipped⟩ | ⟨_, failed⟩ | ⟨_, _, session, live, sent⟩
  · rw [skipped]
    exact refl host
  · rw [failed]
    exact refl host
  · rw [sent]
    refine ⟨fun _ => rfl, fun name later laterLive => ?_, rfl⟩
    rw [Table.get?_set] at laterLive
    split at laterLive
    · next same =>
        cases laterLive
        exact ⟨session, same ▸ live, rfl⟩
    · exact ⟨later, laterLive, rfl⟩

theorem killLocked (host : Host) (id : String) :
    Steady host (host.killLocked id) := by
  unfold Host.killLocked
  split
  · exact (close host _).trans (ofSame rfl rfl)
  · exact ofSame rfl rfl

theorem attachPublish (host : Host) (call : AttachCall) :
    Steady host (host.attachPublish call) := by
  unfold Host.attachPublish
  split
  · exact (close host _).trans (ofSame rfl rfl)
  · exact ofSame rfl rfl

theorem shutdown (host : Host) : Steady host host.shutdown := by
  unfold Host.shutdown
  generalize host.sessions.entries = entries
  induction entries generalizing host with
  | nil => exact refl host
  | cons entry entries inductionHypothesis =>
      have first : Steady host (host.shutdownOne entry) :=
        (close host entry.2).trans (ofSame rfl rfl)
      exact first.trans (inductionHypothesis _)

end Host.Steady

/-! ## What the steps of an `Attach` call create -/

/-- An `Attach` that has created its tmux session. -/
def Progress.Creating : Progress → Prop
  | .existing _ true | .started _ true => True
  | .checked _ _ | .existing _ false | .started _ false => False

/-- A later host in which an `Attach` call has created its tmux session. -/
structure Host.Created (before after : Host) (call : AttachCall) : Prop where
  absent : before.server.live.get? (tmuxName call.id) = none
  heap : after.heap = before.heap
  live : ∀ name session, after.server.live.get? name = some session →
    name = tmuxName call.id ∧
        session.incarnation = before.server.incarnations ∨
      before.server.live.get? name = some session
  incarnations :
    after.server.incarnations = before.server.incarnations + 1

theorem Host.created_attachCreate
    {host created : Host}
    {call : AttachCall}
    (succeeded : host.attachCreate call = some created) :
    host.Created created call := by
  obtain ⟨_, absent, rfl⟩ := Host.attachCreate_eq_some succeeded
  refine ⟨absent, rfl, fun name session live => ?_, rfl⟩
  rw [Table.get?_set] at live
  split at live
  · next same =>
      cases live
      exact Or.inl ⟨same.symm, rfl⟩
  · exact Or.inr live

/-- A later host in which an `Attach` call has started its client. -/
structure Host.Joined (before after : Host) (call : AttachCall) : Prop where
  origin : ∀ client, after.origin? client =
    if client = call.handle then
      some (tmuxName call.id,
        (before.server.live.get? (tmuxName call.id)).map
          TmuxSession.incarnation)
    else before.origin? client
  live : ∀ name session, after.server.live.get? name = some session →
    ∃ earlier, before.server.live.get? name = some earlier ∧
      earlier.incarnation = session.incarnation
  incarnations : after.server.incarnations = before.server.incarnations

theorem Host.joined_newSession
    {host started : Host}
    {call : AttachCall}
    (began : host.newSession call = some started) :
    host.Joined started call := by
  unfold Host.newSession at began
  split at began
  · cases began
  · cases began
    refine ⟨fun client => ?_, fun name session live => ?_, rfl⟩
    · unfold Host.origin?
      by_cases same : client = call.handle
      · subst same
        simp [Session.origin]
      · rw [Table.get?_set_of_ne _ _ (Ne.symm same), if_neg same]
    · rw [Server.get?_attachSession] at live
      split at live
      · obtain ⟨earlier, earlierLive, rfl⟩ := Option.map_eq_some_iff.mp live
        exact ⟨earlier, earlierLive, rfl⟩
      · exact ⟨session, live, rfl⟩

/-- Every step but those of an `Attach` call is steady. -/
theorem Interleaved.steady_step
    {state next : Interleaved}
    {action : Action}
    (notAttach : action ≠ .attachStep)
    (stepped : state.step action = some next) :
    state.host.Steady next.host := by
  cases action with
  | attachLock call =>
      obtain ⟨_, rfl⟩ := step_attachLock.mp stepped
      exact Host.Steady.refl _
  | attachStep => exact absurd rfl notAttach
  | detach id client =>
      obtain ⟨_, rfl⟩ := step_detach.mp stepped
      exact Host.Steady.detach _ _ _
  | resize id size fails =>
      obtain ⟨_, rfl⟩ := step_resize.mp stepped
      exact Host.Steady.resize _ _ _ _
  | killLock id =>
      obtain ⟨_, rfl⟩ := step_killLock.mp stepped
      exact Host.Steady.killLocked _ _
  | killTmux id =>
      obtain ⟨_, rfl⟩ := step_killTmux.mp stepped
      exact Host.Steady.killTmux _ _
  | shutdown =>
      obtain ⟨_, rfl⟩ := step_shutdown.mp stepped
      exact Host.Steady.shutdown _
  | resizePTY client size =>
      obtain rfl := step_resizePTY.mp stepped
      exact Host.Steady.resizePTY _ _ _
  | closePTMX client =>
      obtain rfl := step_closePTMX.mp stepped
      exact Host.Steady.closePTMX _ _
  | sessionEnds id =>
      obtain rfl := step_sessionEnds.mp stepped
      exact Host.Steady.killTmux _ _

/-- Every step but those of an `Attach` call leaves the call that holds the
mutex and the returned results as they are. -/
theorem Interleaved.unattached_step
    {state next : Interleaved}
    {action : Action}
    (notLock : ∀ call, action ≠ .attachLock call)
    (notAttach : action ≠ .attachStep)
    (stepped : state.step action = some next) :
    next.holder = state.holder ∧ next.returned = state.returned := by
  cases action with
  | attachLock call => exact absurd rfl (notLock call)
  | attachStep => exact absurd rfl notAttach
  | detach id client =>
      obtain ⟨_, rfl⟩ := step_detach.mp stepped
      exact ⟨rfl, rfl⟩
  | resize id size fails =>
      obtain ⟨_, rfl⟩ := step_resize.mp stepped
      exact ⟨rfl, rfl⟩
  | killLock id =>
      obtain ⟨_, rfl⟩ := step_killLock.mp stepped
      exact ⟨rfl, rfl⟩
  | killTmux id =>
      obtain ⟨_, rfl⟩ := step_killTmux.mp stepped
      exact ⟨rfl, rfl⟩
  | shutdown =>
      obtain ⟨_, rfl⟩ := step_shutdown.mp stepped
      exact ⟨rfl, rfl⟩
  | resizePTY client size =>
      obtain rfl := step_resizePTY.mp stepped
      exact ⟨rfl, rfl⟩
  | closePTMX client =>
      obtain rfl := step_closePTMX.mp stepped
      exact ⟨rfl, rfl⟩
  | sessionEnds id =>
      obtain rfl := step_sessionEnds.mp stepped
      exact ⟨rfl, rfl⟩

end Tmux
end LociTerm
