import Mathlib.Data.List.Permutation
import LociTerm.Tmux.Atomicity

/-!
# The gap inside `KillSession`

Concurrent calls that stay out of the gap between the unlock of a
`KillSession` and its `kill-session` are atomic, and what a kill removes stays
removed: afterwards a map entry is attached to a tmux session created later,
and a cached size was sent to it.  An `Attach` inside the gap shows that
neither holds of every run.
-/

namespace LociTerm
namespace Tmux

/-- The map entry of an id is attached to the live tmux session of that id,
and the cached size is the last one sent to it. -/
structure Host.InStep (host : Host) (id : String) : Prop where
  slot : ∀ client, host.sessions.get? id = some client →
    ∃ session, host.server.live.get? (tmuxName id) = some session ∧
      client ∈ session.clients
  size : ∀ size, host.lastSize.get? id = some size →
    ∃ session, host.server.live.get? (tmuxName id) = some session ∧
      session.resizes.head? = some size

/-- An id without a map entry and without a cached size is in step. -/
theorem Host.InStep.ofAbsent
    {host : Host}
    {id : String}
    (noSlot : host.sessions.get? id = none)
    (noSize : host.lastSize.get? id = none) :
    host.InStep id := by
  constructor <;> simp [noSlot, noSize]

/-- A step that keeps the entries of an id, its tmux session's last size and
its entry's client there keeps the id in step. -/
theorem Host.InStep.ofKept
    {before after : Host}
    {id : String}
    (inStep : before.InStep id)
    (sameSlot : ∀ client, after.sessions.get? id = some client →
      before.sessions.get? id = some client)
    (sameSize : after.lastSize.get? id = before.lastSize.get? id)
    (kept : ∀ session,
      before.server.live.get? (tmuxName id) = some session →
        ∃ later, after.server.live.get? (tmuxName id) = some later ∧
          later.resizes = session.resizes ∧
          ∀ client, after.sessions.get? id = some client →
            client ∈ session.clients → client ∈ later.clients) :
    after.InStep id := by
  constructor
  · intro client held
    obtain ⟨session, live, member⟩ := inStep.slot client (sameSlot client held)
    obtain ⟨later, laterLive, _, clients⟩ := kept session live
    exact ⟨later, laterLive, clients client held member⟩
  · intro size cached
    rw [sameSize] at cached
    obtain ⟨session, live, last⟩ := inStep.size size cached
    obtain ⟨later, laterLive, resizes, _⟩ := kept session live
    exact ⟨later, laterLive, by rw [resizes, last]⟩

/-- Closing a client takes at most that client off a tmux session. -/
theorem live_close
    (host : Host)
    (client : Handle)
    {name : String}
    {session : TmuxSession}
    (live : host.server.live.get? name = some session) :
    ∃ later, (host.close client).server.live.get? name = some later ∧
      later.resizes = session.resizes ∧
      ∀ other, other ≠ client → other ∈ session.clients →
        other ∈ later.clients := by
  rw [Host.get?_live_close]
  split
  · simp +contextual [live]
  · exact ⟨session, live, rfl, fun _ _ member => member⟩

/-- Closing a client that holds no slot of the id keeps the id in step. -/
theorem Host.InStep.close
    {host : Host}
    {id : String}
    {client : Handle}
    (inStep : host.InStep id)
    (other : host.sessions.get? id ≠ some client) :
    (host.close client).InStep id := by
  apply inStep.ofKept
  · simp
  · simp
  · intro session live
    obtain ⟨later, laterLive, resizes, clients⟩ := live_close host client live
    refine ⟨later, laterLive, resizes, fun slot held member => ?_⟩
    apply clients slot _ member
    rintro rfl
    exact other (by simpa using held)

theorem Host.InStep.attachPublish
    {host : Host}
    {call : AttachCall}
    {id : String}
    (inStep : host.InStep id)
    (started : call.id = id →
      ∃ session, host.server.live.get? (tmuxName id) = some session ∧
        call.handle ∈ session.clients)
    (fresh : host.sessions.get? call.id ≠ some call.handle)
    (unshared : ∀ client, host.sessions.get? call.id = some client →
      call.id ≠ id → host.sessions.get? id ≠ some client) :
    (host.attachPublish call).InStep id := by
  -- The tmux session keeps every client but the prior one.
  have kept (session : TmuxSession)
      (live : host.server.live.get? (tmuxName id) = some session) :
      ∃ later,
        (host.attachPublish call).server.live.get? (tmuxName id) =
            some later ∧
          later.resizes = session.resizes ∧
          ∀ client, host.sessions.get? call.id ≠ some client →
            client ∈ session.clients → client ∈ later.clients := by
    unfold Host.attachPublish
    split
    · next prior held =>
        obtain ⟨later, laterLive, resizes, clients⟩ :=
          live_close host prior live
        refine ⟨later, laterLive, resizes, fun client different => ?_⟩
        apply clients client
        rintro rfl
        exact different held
    · exact ⟨session, live, rfl, fun _ _ member => member⟩
  have slots := host.sessions_attachPublish call
  have sizes := host.lastSize_attachPublish call
  by_cases same : call.id = id
  · constructor
    · intro client held
      rw [slots, same, Table.get?_set_self] at held
      cases held
      obtain ⟨session, live, member⟩ := started same
      obtain ⟨later, laterLive, _, clients⟩ := kept session live
      exact ⟨later, laterLive, clients _ fresh member⟩
    · intro size cached
      rw [sizes] at cached
      obtain ⟨session, live, last⟩ := inStep.size size cached
      obtain ⟨later, laterLive, resizes, _⟩ := kept session live
      exact ⟨later, laterLive, by rw [resizes, last]⟩
  · apply inStep.ofKept
    · simp [slots, Table.get?_set_of_ne _ _ same]
    · rw [sizes]
    · intro session live
      obtain ⟨later, laterLive, resizes, clients⟩ := kept session live
      refine ⟨later, laterLive, resizes, fun client held member => ?_⟩
      apply clients client _ member
      intro shared
      rw [slots, Table.get?_set_of_ne _ _ same] at held
      exact unshared client shared same held

theorem Host.InStep.killLocked
    {host : Host}
    {killed id : String}
    (inStep : killed ≠ id → host.InStep id)
    (unshared : ∀ client, host.sessions.get? killed = some client →
      killed ≠ id → host.sessions.get? id ≠ some client) :
    (host.killLocked killed).InStep id := by
  unfold Host.killLocked
  by_cases same : killed = id
  · subst same
    split
    · apply Host.InStep.ofAbsent <;> simp
    · next absent => exact Host.InStep.ofAbsent absent (by simp)
  · split
    · next client held =>
        refine ((inStep same).close (unshared client held same)).ofKept
          ?_ ?_ ?_
        · simp [Table.get?_erase_of_ne _ same]
        · simp [Table.get?_erase_of_ne _ same]
        · intro session live
          exact ⟨session, live, rfl, fun _ _ member => member⟩
    · refine (inStep same).ofKept (fun _ held => held) ?_ ?_
      · simp [Table.get?_erase_of_ne _ same]
      · intro session live
        exact ⟨session, live, rfl, fun _ _ member => member⟩

theorem Host.InStep.resize
    {host : Host}
    {resized id : String}
    {size : Size}
    {fails : Bool}
    (inStep : host.InStep id) :
    (host.resize resized size fails).1.InStep id := by
  rcases host.resize_cases resized size fails with
    ⟨_, skipped⟩ | ⟨_, failed⟩ | ⟨_, _, session, live, sent⟩
  · rwa [skipped]
  · rwa [failed]
  · rw [sent]
    by_cases same : resized = id
    · subst same
      constructor
      · intro client held
        obtain ⟨other, otherLive, member⟩ := inStep.slot client held
        rw [live] at otherLive
        cases otherLive
        exact ⟨_, Table.get?_set_self _ _ _, member⟩
      · intro cached lookup
        refine ⟨_, Table.get?_set_self _ _ _, ?_⟩
        simpa using lookup
    · refine inStep.ofKept (fun _ held => held) ?_ ?_
      · exact Table.get?_set_of_ne _ _ same
      · intro other otherLive
        refine ⟨other, ?_, rfl, fun _ _ member => member⟩
        rw [Table.get?_set_of_ne _ _ (by simpa using same), otherLive]

theorem Host.InStep.killTmux
    {host : Host}
    {killed id : String}
    (inStep : host.InStep id)
    (different : killed ≠ id) :
    (host.killTmux killed).InStep id := by
  refine inStep.ofKept (fun _ held => held) rfl ?_
  intro session live
  refine ⟨session, ?_, rfl, fun _ _ member => member⟩
  simpa [Host.killTmux, different] using live

namespace Interleaved

/-! ## What holds inside the gap -/

/-- While calls stay out of the gap, an id about to be killed has no map entry
and no cached size, and the `Attach` call under way finds its tmux session as
it left it. -/
structure GapClear (state : Interleaved) : Prop where
  owned : state.Owned
  slot : ∀ id ∈ state.killing, state.host.sessions.get? id = none
  size : ∀ id ∈ state.killing, state.host.lastSize.get? id = none
  holder : ∀ progress, state.holder = some progress →
    progress.call.id ∉ state.killing ∨ progress.Doomed
  joined : ∀ progress, state.holder = some progress →
    match progress with
    | .checked call found => found = true → ¬state.host.Gone call.id
    | .existing call _ => ¬state.host.Gone call.id
    | .started call _ => ∃ session,
        state.host.server.live.get? (tmuxName call.id) = some session ∧
          call.handle ∈ session.clients

/-- A slot is never shared between ids. -/
theorem Owned.unshared
    {state : Interleaved}
    (owned : state.Owned)
    {left right : String}
    {client : Handle}
    (held : state.host.sessions.get? left = some client)
    (different : left ≠ right) :
    state.host.sessions.get? right ≠ some client := fun shared =>
  different
    (owned.id_unique (owned.slot left client held).1
      (owned.slot right client shared).1)

theorem GapClear.ofIdle
    {state : Interleaved}
    (owned : state.Owned)
    (idle : state.Quiescent) :
    state.GapClear where
  owned := owned
  slot := by simp [idle.2]
  size := by simp [idle.2]
  holder := by simp [idle.1]
  joined := by simp [idle.1]

theorem sessions_newSession
    {host started : Host}
    {call : AttachCall}
    (began : host.newSession call = some started) :
    started.sessions = host.sessions ∧ started.lastSize = host.lastSize ∧
      ∀ id, started.server.live.get? (tmuxName id) =
        (host.server.attachSession (tmuxName call.id)
          call.handle).live.get? (tmuxName id) := by
  unfold Host.newSession at began
  split at began
  · cases began
  · cases began
    exact ⟨rfl, rfl, fun _ => rfl⟩

theorem sessions_attachCreate
    {host created : Host}
    {call : AttachCall}
    (succeeded : host.attachCreate call = some created) :
    created.sessions = host.sessions ∧ created.lastSize = host.lastSize ∧
      host.Gone call.id ∧ ¬created.Gone call.id ∧
      ∀ id, call.id ≠ id →
        created.server.live.get? (tmuxName id) =
          host.server.live.get? (tmuxName id) := by
  obtain ⟨_, absent, rfl⟩ := Host.attachCreate_eq_some succeeded
  refine ⟨rfl, rfl, absent, by simp [Host.Gone], fun id different => ?_⟩
  simp [Table.get?_set, different]

/-- The steps of the `Attach` call under way keep the gap clear. -/
theorem GapClear.advance
    {state : Interleaved}
    {progress : Progress}
    (clear : state.GapClear)
    (holds : state.holder = some progress) :
    (state.advance progress).GapClear := by
  have owned := clear.owned.advance holds
  have joined := clear.joined progress holds
  have outside := clear.holder progress holds
  cases progress with
  | checked call found =>
      cases found with
      | true =>
          refine ⟨owned, clear.slot, clear.size, ?_, ?_⟩
          · rintro _ ⟨⟩
            apply Or.inl
            rcases outside with outside | ⟨_, doomed, _⟩
            · exact outside
            · cases doomed
          · rintro _ ⟨⟩
            exact joined rfl
      | false =>
          simp only [Interleaved.advance] at owned ⊢
          split at owned
          · refine ⟨owned, clear.slot, clear.size, ?_, ?_⟩ <;> simp
          · next created succeeded =>
              obtain ⟨slots, sizes, _, live, _⟩ :=
                sessions_attachCreate succeeded
              refine ⟨owned, ?_, ?_, ?_, ?_⟩
              · simpa only [slots] using clear.slot
              · simpa only [sizes] using clear.size
              · rintro _ ⟨⟩
                apply Or.inl
                rcases outside with outside | ⟨_, doomed, fails⟩
                · exact outside
                · cases doomed
                  have works := (Host.attachCreate_eq_some succeeded).1
                  rw [fails] at works
                  cases works
              · rintro _ ⟨⟩
                exact live
  | existing call recreated =>
      simp only [Interleaved.advance] at owned ⊢
      split at owned
      · refine ⟨owned, clear.slot, clear.size, ?_, ?_⟩ <;> simp
      · next started began =>
          obtain ⟨slots, sizes, live⟩ := sessions_newSession began
          refine ⟨owned, ?_, ?_, ?_, ?_⟩
          · simpa only [slots] using clear.slot
          · simpa only [sizes] using clear.size
          · rintro _ ⟨⟩
            apply Or.inl
            rcases outside with outside | ⟨_, doomed, _⟩
            · exact outside
            · cases doomed
          · rintro _ ⟨⟩
            obtain ⟨session, found⟩ := Option.ne_none_iff_exists'.mp joined
            refine ⟨{ session with
              clients := call.handle :: session.clients }, ?_, by simp⟩
            simp [live, found]
  | started call recreated =>
      have notKilled : call.id ∉ state.killing := by
        rcases outside with outside | ⟨_, doomed, _⟩
        · exact outside
        · cases doomed
      refine ⟨owned, ?_, ?_, by simp [Interleaved.advance],
        by simp [Interleaved.advance]⟩
      · intro id member
        have different : call.id ≠ id := fun same => notKilled (same ▸ member)
        show (state.host.attachPublish call).sessions.get? id = none
        rw [Host.sessions_attachPublish, Table.get?_set_of_ne _ _ different,
          clear.slot id member]
      · intro id member
        show (state.host.attachPublish call).lastSize.get? id = none
        rw [Host.lastSize_attachPublish, clear.size id member]

/-- The first part of a kill empties the slot and forgets the size. -/
theorem GapClear.killLock
    {state next : Interleaved}
    {id : String}
    (clear : state.GapClear)
    (stepped : state.step (.killLock id) = some next) :
    next.GapClear := by
  have owned := clear.owned.step stepped
  obtain ⟨idle, rfl⟩ := step_killLock.mp stepped
  refine ⟨owned, ?_, ?_, by simp [idle], by simp [idle]⟩
  · intro other member
    rw [Host.get?_sessions_killLocked]
    split
    · rfl
    · next different =>
        exact clear.slot other
          (List.mem_of_ne_of_mem (Ne.symm different) member)
  · intro other member
    rw [Host.lastSize_killLocked, Table.get?_erase]
    split
    · rfl
    · next different =>
        exact clear.size other
          (List.mem_of_ne_of_mem (Ne.symm different) member)

/-- The second part of a kill is of no concern to a call on another id, and a
call on the same id has nothing left to lose. -/
theorem GapClear.killTmux
    {state next : Interleaved}
    {id : String}
    (clear : state.GapClear)
    (stepped : state.step (.killTmux id) = some next) :
    next.GapClear := by
  have owned := clear.owned.step stepped
  obtain ⟨member, rfl⟩ := step_killTmux.mp stepped
  refine ⟨owned, ?_, ?_, ?_, ?_⟩
  · exact fun other otherMember =>
      clear.slot other (List.mem_of_mem_erase otherMember)
  · exact fun other otherMember =>
      clear.size other (List.mem_of_mem_erase otherMember)
  · intro progress holds
    rcases clear.holder progress holds with outside | doomed
    · exact Or.inl fun otherMember =>
        outside (List.mem_of_mem_erase otherMember)
    · exact Or.inr doomed
  · intro progress holds
    have joined := clear.joined progress holds
    rcases clear.holder progress holds with outside | ⟨call, rfl, _⟩
    · have different : id ≠ progress.call.id := fun same =>
        outside (same ▸ member)
      cases progress with
      | checked call found | existing call recreated =>
          have different : id ≠ call.id := different
          simpa [gone_killTmux, different] using joined
      | started call recreated =>
          have different : id ≠ call.id := different
          simpa [Host.killTmux, different] using joined
    · simp

/-- A step of a call outside the gap keeps the gap clear. -/
theorem GapClear.step
    {state next : Interleaved}
    {action : Action}
    (clear : state.GapClear)
    (callStep : action.IsCallStep)
    (outside : state.OutsideKill action)
    (stepped : state.step action = some next) :
    next.GapClear := by
  have owned := clear.owned.step stepped
  cases action with
  | attachLock call =>
      obtain ⟨⟨idle, _⟩, rfl⟩ := step_attachLock.mp stepped
      refine ⟨owned, clear.slot, clear.size, ?_, ?_⟩
      · rintro _ ⟨⟩
        by_cases member : call.id ∈ state.killing
        · obtain ⟨absent, fails⟩ := outside member
          exact Or.inr ⟨call, by rw [absent], fails⟩
        · exact Or.inl member
      · rintro _ ⟨⟩ found gone
        rw [(tmuxSessionExists_eq_false_iff _ _).mpr gone] at found
        cases found
  | attachStep =>
      obtain ⟨progress, holds, rfl⟩ := step_attachStep.mp stepped
      exact clear.advance holds
  | detach id client =>
      obtain ⟨⟨idle, _⟩, rfl⟩ := step_detach.mp stepped
      refine ⟨owned, ?_, ?_, by simp [idle], by simp [idle]⟩
      · intro other member
        simp only [Host.detach, Host.sessions_close]
        split
        · rw [Table.get?_erase]
          simp [clear.slot other member]
        · exact clear.slot other member
      · intro other member
        simp only [Host.detach, Host.lastSize_close]
        split <;> exact clear.size other member
  | resize id size fails =>
      obtain ⟨idle, rfl⟩ := step_resize.mp stepped
      refine ⟨owned, ?_, ?_, by simp [idle], by simp [idle]⟩
      · rw [(clients_resize state.host id size fails).2]
        exact clear.slot
      · intro other member
        have before := clear.size other member
        rcases state.host.resize_cases id size fails with
          ⟨_, skipped⟩ | ⟨_, failed⟩ | ⟨_, works, session, live, sent⟩
        · rwa [skipped]
        · rwa [failed]
        · rw [sent, Table.get?_set_of_ne]
          · exact before
          · rintro rfl
            rcases outside member with gone | fails
            · rw [tmuxSessionExists_eq_false_iff, Host.Gone, live] at gone
              cases gone
            · rw [works] at fails
              cases fails
  | killLock id => exact clear.killLock stepped
  | killTmux id => exact clear.killTmux stepped
  | shutdown | resizePTY | closePTMX | sessionEnds => exact callStep.elim

/-! ## What a kill removes -/

/-- The steps of the `Attach` call under way keep every id in step. -/
theorem GapClear.inStep_advance
    {state : Interleaved}
    {progress : Progress}
    {id : String}
    (clear : state.GapClear)
    (holds : state.holder = some progress)
    (inStep : state.host.InStep id) :
    (state.advance progress).host.InStep id := by
  cases progress with
  | checked call found =>
      cases found with
      | true => exact inStep
      | false =>
          simp only [Interleaved.advance]
          split
          · exact inStep
          · next created succeeded =>
              obtain ⟨slots, sizes, absent, _, live⟩ :=
                sessions_attachCreate succeeded
              by_cases same : call.id = id
              · -- Nothing can be in step with a tmux session that was gone.
                subst same
                apply Host.InStep.ofAbsent
                · rw [slots, Option.eq_none_iff_forall_ne_some]
                  intro client held
                  obtain ⟨session, found, _⟩ := inStep.slot client held
                  rw [Host.Gone, found] at absent
                  cases absent
                · rw [sizes, Option.eq_none_iff_forall_ne_some]
                  intro size cached
                  obtain ⟨session, found, _⟩ := inStep.size size cached
                  rw [Host.Gone, found] at absent
                  cases absent
              · refine inStep.ofKept ?_ (by rw [sizes]) ?_
                · simp [slots]
                · intro session found
                  exact ⟨session, (live id same).trans found, rfl,
                    fun _ _ member => member⟩
  | existing call recreated =>
      simp only [Interleaved.advance]
      split
      · exact inStep
      · next started began =>
          obtain ⟨slots, sizes, live⟩ := sessions_newSession began
          refine inStep.ofKept ?_ (by rw [sizes]) ?_
          · simp [slots]
          · intro session found
            by_cases same : id = call.id
            · subst same
              refine ⟨{ session with
                clients := call.handle :: session.clients }, ?_, rfl, ?_⟩
              · simp [live, found]
              · intro client _ member
                exact List.mem_cons_of_mem _ member
            · refine ⟨session, ?_, rfl, fun _ _ member => member⟩
              rw [live, Server.get?_attachSession, if_neg (by simpa using same),
                found]
  | started call recreated =>
      have joined := clear.joined _ holds
      obtain ⟨_, _, _, _, unreturned⟩ := clear.owned.pending _ holds
      apply inStep.attachPublish
      · rintro rfl
        exact joined
      · exact fun held =>
          unreturned call.id (clear.owned.slot call.id _ held).1
      · exact fun client held different => clear.owned.unshared held different

/-- Outside the gap, a step keeps every id in step, and the locked part of a
kill puts its id in step. -/
theorem GapClear.inStep_step
    {state next : Interleaved}
    {action : Action}
    {id : String}
    (clear : state.GapClear)
    (callStep : action.IsCallStep)
    (stepped : state.step action = some next)
    (inStep : action.commit = some (.kill id) ∨ state.host.InStep id) :
    next.host.InStep id := by
  cases action with
  | attachLock call =>
      obtain ⟨_, rfl⟩ := step_attachLock.mp stepped
      simpa [Action.commit] using inStep
  | attachStep =>
      obtain ⟨progress, holds, rfl⟩ := step_attachStep.mp stepped
      exact clear.inStep_advance holds (by simpa [Action.commit] using inStep)
  | detach owner client =>
      obtain ⟨⟨_, returned⟩, rfl⟩ := step_detach.mp stepped
      have inStep : state.host.InStep id := by
        simpa [Action.commit] using inStep
      simp only [Host.detach]
      split
      · next held =>
          by_cases same : owner = id
          · subst same
            refine Host.InStep.close (Host.InStep.ofKept inStep ?_ rfl ?_) ?_
            · simp
            · exact fun session live =>
                ⟨session, live, rfl, fun _ _ member => member⟩
            · simp
          · have unshared := clear.owned.unshared held same
            refine Host.InStep.close (Host.InStep.ofKept inStep ?_ rfl ?_) ?_
            · simp [Table.get?_erase_of_ne _ same]
            · exact fun session live =>
                ⟨session, live, rfl, fun _ _ member => member⟩
            · simpa [Table.get?_erase_of_ne _ same] using unshared
      · next notHeld =>
          apply inStep.close
          intro held
          have same := clear.owned.id_unique returned
            (clear.owned.slot id client held).1
          exact notHeld (same ▸ held)
  | resize resized size fails =>
      obtain ⟨_, rfl⟩ := step_resize.mp stepped
      exact Host.InStep.resize (by simpa [Action.commit] using inStep)
  | killLock killed =>
      obtain ⟨_, rfl⟩ := step_killLock.mp stepped
      apply Host.InStep.killLocked
      · intro different
        rcases inStep with sameKill | inStep
        · simp [Action.commit, different] at sameKill
        · exact inStep
      · exact fun client held different => clear.owned.unshared held different
  | killTmux killed =>
      obtain ⟨member, rfl⟩ := step_killTmux.mp stepped
      by_cases same : killed = id
      · subst same
        exact Host.InStep.ofAbsent (clear.slot _ member) (clear.size _ member)
      · exact Host.InStep.killTmux (by simpa [Action.commit] using inStep) same
  | shutdown | resizePTY | closePTMX | sessionEnds => exact callStep.elim

/-! ## Whole runs -/

/-- An interleaving of calls of the four operations, from a reachable state
without calls under way to the state in which all of them have returned. -/
structure Concurrent
    (start : Interleaved)
    (actions : List Action)
    (final : Interleaved) : Prop where
  reachable : ∃ server before,
    run Interleaved.step (Interleaved.start server) before = some start
  idle : start.Quiescent
  callSteps : ∀ action ∈ actions, action.IsCallStep
  ran : run Interleaved.step start actions = some final
  done : final.Quiescent

/-- Whether an id is in step, as the calls of a run are served: it stays in
step, and a kill puts it in step. -/
theorem foldl_inStep
    (id : String)
    (calls : List Call)
    (known : Prop) :
    calls.foldl (fun known call => known ∨ call = .kill id) known ↔
      known ∨ .kill id ∈ calls := by
  induction calls generalizing known with
  | nil => simp
  | cons call calls inductionHypothesis =>
      rw [List.foldl_cons, inductionHypothesis, List.mem_cons, or_assoc,
        eq_comm]

/-- Concurrent calls that stay out of the gap end in a state that the same
calls reach one after the other; the entries of an id that a call has killed
belong to a tmux session created after the kill. -/
theorem atomic_of_outsideKill
    {start final : Interleaved}
    {actions : List Action}
    (concurrent : Concurrent start actions final)
    (outside : Follows Interleaved.step OutsideKill start actions) :
    Atomic start.host actions final.host ∧
      ∀ id, .kill id ∈ actions.filterMap Action.commit ∨
          start.host.InStep id →
        final.host.InStep id := by
  obtain ⟨⟨server, before, reached⟩, idle, callSteps, ran, done⟩ := concurrent
  have follows := outside.and_of_forall callSteps
  constructor
  · have tracks := refines_of_run Action.commit Host.serve
      (fun _ _ _ _ tracks permitted stepped =>
        Tracks.step tracks permitted.1 permitted.2 stepped)
      (Tracks.ofIdle idle) follows ran
    refine ⟨_, List.Perm.refl _, ?_⟩
    have agree := (tracks.agree_of_idle done.1).symm
    rw [done.2] at agree
    refine ⟨fun id => by rw [agree.sessions], fun id => by rw [agree.lastSize],
      fun id => ?_⟩
    rw [Host.clients?, agree.live id (by simp), Host.clients?]
  · intro id known
    let related (state : Interleaved) (inStep : Prop) : Prop :=
      state.GapClear ∧ (inStep → state.host.InStep id)
    have preserved : ∀ state action next inStep, related state inStep →
        (action.IsCallStep ∧ state.OutsideKill action) →
        state.step action = some next →
        related next (action.commit.elim inStep
          fun call => inStep ∨ call = .kill id) := by
      intro state action next inStep holds permitted stepped
      refine ⟨holds.1.step permitted.1 permitted.2 stepped, fun later => ?_⟩
      apply holds.1.inStep_step permitted.1 stepped
      cases committed : action.commit with
      | none =>
          rw [committed] at later
          exact Or.inr (holds.2 later)
      | some call =>
          rw [committed] at later
          rcases later with earlier | rfl
          · exact Or.inr (holds.2 earlier)
          · exact Or.inl rfl
    have related_start : related start (start.host.InStep id) :=
      ⟨GapClear.ofIdle (Owned.ofRun reached) idle, fun inStep => inStep⟩
    have settled :=
      refines_of_run Action.commit _ preserved related_start follows ran
    apply settled.2
    rw [foldl_inStep]
    exact known.symm

/-- A handler that attaches to a new tmux session. -/
def attachRun (handle : Handle) (id : String) : List Action :=
  [.attachLock ⟨handle, id, ⟨120, 40⟩, ⟨false, false⟩⟩,
    .attachStep, .attachStep, .attachStep]

/-- A resize and a kill of one id around an attach of another. -/
def killBesideAttach : List Action :=
  [.resize "a" ⟨80, 24⟩ false, .killLock "a"] ++ attachRun 1 "b" ++
    [.killTmux "a"]

/-- The state after one attach of `"a"`. -/
def attachedOnce : Interleaved :=
  (run Interleaved.step (Interleaved.start Server.fresh)
    (attachRun 0 "a")).get (by decide)

/-- Atomicity of a kill that another id's attach overlaps. -/
theorem atomic_killBesideAttach :
    Atomic attachedOnce.host killBesideAttach
        ((run Interleaved.step attachedOnce killBesideAttach).get
          (by decide)).host ∧
      ∀ id, .kill id ∈ killBesideAttach.filterMap Action.commit ∨
          attachedOnce.host.InStep id →
        ((run Interleaved.step attachedOnce killBesideAttach).get
          (by decide)).host.InStep id :=
  atomic_of_outsideKill
    ⟨⟨Server.fresh, attachRun 0 "a", (Option.some_get _).symm⟩, by decide,
      by decide, (Option.some_get _).symm, by decide⟩
    (by decide)

/-- A client reconnects between the unlock and the `kill-session`. -/
def attachInsideKill : List Action :=
  .killLock "a" :: attachRun 1 "a" ++ [.killTmux "a"]

/-- No order of a kill and an attach leaves a map entry without a tmux
session, but their interleaving does. -/
theorem not_atomic_attachInsideKill :
    ¬∀ start actions final, Concurrent start actions final →
      Atomic start.host actions final.host := by
  intro atomic
  obtain ⟨order, permuted, same⟩ := atomic attachedOnce attachInsideKill
    ((run Interleaved.step attachedOnce attachInsideKill).get (by decide))
    ⟨⟨Server.fresh, attachRun 0 "a", (Option.some_get _).symm⟩, by decide,
      by decide, (Option.some_get _).symm, by decide⟩
  rcases List.perm_pair.mp permuted with rfl | rfl
  · -- The kill first: the attach then recreates the tmux session.
    exact absurd (same.clients "a") (by decide)
  · -- The kill last: it empties the map.
    exact absurd (same.sessions "a") (by decide)

end Interleaved
end Tmux
end LociTerm
