import LociTerm.Api.Backend
import LociTerm.Tmux.Atomicity
import LociTerm.Tmux.Steady

/-!
# Orphan shells

A tmux session whose id has no row in the `sessions` table is an orphan: no
request can reach it any more.  `Attach` creates tmux sessions without looking
at the table, and a cascade can delete rows that the request has not listed.
Runs in which neither happens to a row that is gone have no orphans.
-/

namespace LociTerm
namespace Api

open Tmux Store

/-- A deletion under way has still to kill the tmux session of an id. -/
def Pending (deletions : Table Nat Deletion) (id : String) : Prop :=
  ∃ request deletion, deletions.get? request = some deletion ∧
    id ∈ deletion.pending

instance (deletions : Table Nat Deletion) (id : String) :
    Decidable (Pending deletions id) :=
  decidable_of_iff (∃ entry ∈ deletions.entries, id ∈ entry.2.pending) (by
    constructor
    · rintro ⟨⟨request, deletion⟩, member, waits⟩
      exact ⟨request, deletion,
        (deletions.mem_entries_iff request deletion).mp member, waits⟩
    · rintro ⟨request, deletion, found, waits⟩
      exact ⟨(request, deletion),
        (deletions.mem_entries_iff request deletion).mpr found, waits⟩)

theorem Pending.set
    {deletions : Table Nat Deletion}
    {request : Nat}
    {next : Deletion}
    {id : String}
    (pending : Pending deletions id)
    (kept : ∀ deletion, deletions.get? request = some deletion →
      id ∈ deletion.pending → id ∈ next.pending) :
    Pending (deletions.set request next) id := by
  obtain ⟨other, deletion, found, waits⟩ := pending
  by_cases same : request = other
  · subst same
    exact ⟨request, next, by simp, kept deletion found waits⟩
  · exact ⟨other, deletion, by rw [Table.get?_set_of_ne _ _ same, found],
      waits⟩

theorem Pending.of_set
    (deletions : Table Nat Deletion)
    (request : Nat)
    {next : Deletion}
    {id : String}
    (waits : id ∈ next.pending) :
    Pending (deletions.set request next) id :=
  ⟨request, next, by simp, waits⟩

theorem Pending.erase
    {deletions : Table Nat Deletion}
    {request : Nat}
    {deletion : Deletion}
    {id : String}
    (pending : Pending deletions id)
    (found : deletions.get? request = some deletion)
    (done : deletion.pending = []) :
    Pending (deletions.erase request) id := by
  obtain ⟨other, otherDeletion, otherFound, waits⟩ := pending
  have different : request ≠ other := by
    rintro rfl
    rw [found] at otherFound
    cases otherFound
    rw [done] at waits
    cases waits
  exact ⟨other, otherDeletion,
    by rw [Table.get?_erase_of_ne _ different, otherFound], waits⟩

/-! ## Which steps create a tmux session -/

theorem gone_of_steady
    {before after : Host}
    {id : String}
    (steady : before.Steady after)
    (gone : before.Gone id) :
    after.Gone id := by
  unfold Host.Gone at *
  rw [Option.eq_none_iff_forall_ne_some]
  intro session live
  obtain ⟨earlier, earlierLive, _⟩ := steady.live _ session live
  rw [gone] at earlierLive
  cases earlierLive

/-- A step of an `Attach` call creates a tmux session only by the
`new-session` of its id. -/
theorem gone_advance
    {manager : Interleaved}
    {progress : Progress}
    {id : String}
    (gone : manager.host.Gone id)
    (created : ¬(manager.advance progress).host.Gone id) :
    ∃ call, progress = .checked call false ∧
      call.faults.newSession = false ∧ call.id = id := by
  cases progress with
  | checked call found =>
      cases found with
      | true => exact absurd gone created
      | false =>
          refine ⟨call, rfl, ?_⟩
          simp only [Interleaved.advance] at created
          cases succeeded : manager.host.attachCreate call with
          | none =>
              rw [succeeded] at created
              exact absurd gone created
          | some next =>
              rw [succeeded] at created
              have creation := Host.created_attachCreate succeeded
              obtain ⟨session, live⟩ := Option.ne_none_iff_exists'.mp created
              rcases creation.live _ session live with ⟨same, _⟩ | earlier
              · exact ⟨(Host.attachCreate_eq_some succeeded).1,
                  (tmuxName_injective same).symm⟩
              · rw [Host.Gone, earlier] at gone
                cases gone
  | existing call recreated =>
      simp only [Interleaved.advance] at created
      cases began : manager.host.newSession call with
      | none =>
          rw [began] at created
          exact absurd gone created
      | some next =>
          rw [began] at created
          have joining := Host.joined_newSession began
          obtain ⟨session, live⟩ := Option.ne_none_iff_exists'.mp created
          obtain ⟨earlier, earlierLive, _⟩ := joining.live _ session live
          rw [Host.Gone, earlierLive] at gone
          cases gone
  | started call recreated =>
      exact absurd
        (gone_of_steady (Host.Steady.attachPublish manager.host call) gone)
        created

namespace Backend

/-- No handler is between two of its steps. -/
def Quiescent (state : Backend) : Prop :=
  state.manager.holder = none ∧ state.deletions.entries = []

instance (state : Backend) : Decidable state.Quiescent :=
  inferInstanceAs (Decidable (_ ∧ _))

/-- `new-session` runs for an id that has a row, or for one that a deletion is
about to kill while none has answered yet. -/
def BacksCreation (state : Backend) : Option Progress → Prop
  | some (.checked call false) =>
      call.faults.newSession = true ∨ state.db.HasSession call.id ∨
        Pending state.deletions call.id ∧ call.id ∉ state.answered
  | some (.checked _ true) | some (.existing _ _) | some (.started _ _)
  | none => True

instance (state : Backend) : ∀ holder, Decidable (state.BacksCreation holder)
  | some (.checked _ false) => inferInstanceAs (Decidable (_ ∨ _ ∨ _ ∧ _))
  | some (.checked _ true) | some (.existing _ _) | some (.started _ _)
  | none => isTrue trivial

/-- A cascade deletes a row that its request has not listed only when the tmux
session of its id is gone or another deletion is about to kill it. -/
def BacksCascade (state : Backend) : Option Deletion → Prop
  | some (.listed workspaceID sessions) =>
      ∀ row ∈ state.db.listSessions workspaceID,
        row.id ∈ sessions.map (·.id) ∨
          state.manager.host.Gone row.id ∨
          Pending state.deletions row.id
  | some (.killing _ _) | some (.locked _ _ _) | none => True

instance (state : Backend) :
    ∀ deletion, Decidable (state.BacksCascade deletion)
  | some (.listed _ _) =>
      inferInstanceAs (Decidable (∀ row ∈ Database.listSessions _ _, _))
  | some (.killing _ _) | some (.locked _ _ _) | none => isTrue trivial

/-- A step that leaves no tmux session without a row behind. -/
def BacksShells (state : Backend) : BackendAction → Prop
  | .manager .attachStep => state.BacksCreation state.manager.holder
  | .deleteWorkspace request =>
      state.BacksCascade (state.deletions.get? request)
  | _ => True

instance (state : Backend) : ∀ action, Decidable (state.BacksShells action)
  | .manager .attachStep =>
      inferInstanceAs (Decidable (state.BacksCreation _))
  | .deleteWorkspace _ => inferInstanceAs (Decidable (state.BacksCascade _))
  | .createWorkspace _ _ _ | .createSession _ _ _ _ | .deleteSession _ _
  | .listSessions _ _ | .killLock _ | .killTmux _ | .answer _
  | .connect _ _ _ | .manager (.attachLock _) | .manager (.detach _ _)
  | .manager (.resize _ _ _) | .manager (.killLock _)
  | .manager (.killTmux _) | .manager .shutdown
  | .manager (.resizePTY _ _) | .manager (.closePTMX _)
  | .manager (.sessionEnds _) => isTrue trivial

/-- The invariant of the deletions. -/
structure Backed (state : Backend) : Prop where
  /-- A live tmux session has a row, or is about to be killed. -/
  live : ∀ id, ¬state.manager.host.Gone id →
    state.db.HasSession id ∨ Pending state.deletions id
  /-- Ids are drawn once. -/
  used : ∀ id, state.db.HasSession id → id ∈ state.used
  unique : ∀ left ∈ state.db.sessions, ∀ right ∈ state.db.sessions,
    left.id = right.id → left = right
  /-- The row of an id that was deleted never comes back. -/
  gone : ∀ request deletion,
    state.deletions.get? request = some deletion →
      ∀ id ∈ deletion.gone, id ∈ state.used ∧ ¬state.db.HasSession id
  answered : ∀ id ∈ state.answered,
    id ∈ state.used ∧ ¬state.db.HasSession id

theorem Backed.start : start.Backed where
  live := by
    intro id live
    exact absurd rfl live
  used := by simp [Backend.start, Database.empty, Database.HasSession]
  unique := by simp [Backend.start, Database.empty]
  gone := by simp [Backend.start]
  answered := by simp [Backend.start]

/-- A step of the manager that creates no tmux session without a row or a
pending kill. -/
theorem Backed.ofManager
    {state : Backend}
    {manager : Interleaved}
    (backed : state.Backed)
    (created : ∀ id, state.manager.host.Gone id → ¬manager.host.Gone id →
      state.db.HasSession id ∨ Pending state.deletions id) :
    ({ state with manager := manager } : Backend).Backed :=
  { backed with
    live := by
      intro id live
      by_cases gone : state.manager.host.Gone id
      · exact created id gone live
      · exact backed.live id gone }

/-- A change of the database that leaves the sessions table alone. -/
theorem Backed.ofSameSessions
    {state : Backend}
    {db : Database}
    (backed : state.Backed)
    (same : db.sessions = state.db.sessions) :
    ({ state with db := db } : Backend).Backed := by
  have rows (id : String) : db.HasSession id ↔ state.db.HasSession id := by
    unfold Database.HasSession
    rw [same]
  refine
    { live := fun id live => (backed.live id live).imp_left (rows id).mpr
      used := fun id row => backed.used id ((rows id).mp row)
      unique := ?_, gone := ?_, answered := ?_ }
  · rw [same]
    exact backed.unique
  · intro request deletion found id member
    rw [rows]
    exact backed.gone request deletion found id member
  · intro id member
    rw [rows]
    exact backed.answered id member

/-- The tmux sessions that the next step creates are backed. -/
theorem BacksShells.created
    {state : Backend}
    {progress : Progress}
    {id : String}
    (backs : state.BacksShells (.manager .attachStep))
    (holds : state.manager.holder = some progress)
    (gone : state.manager.host.Gone id)
    (live : ¬(state.manager.advance progress).host.Gone id) :
    state.db.HasSession id ∨
      Pending state.deletions id ∧ id ∉ state.answered := by
  obtain ⟨call, rfl, succeeds, rfl⟩ := gone_advance gone live
  simp only [BacksShells, holds, BacksCreation] at backs
  rcases backs with fails | backs
  · rw [succeeds] at fails
    cases fails
  · exact backs

/-- A deletion that moves on, with the tmux sessions it no longer has to kill
gone. -/
theorem Backed.ofDeletion
    {state : Backend}
    {manager : Interleaved}
    {request : Nat}
    {old next : Deletion}
    (backed : state.Backed)
    (found : state.deletions.get? request = some old)
    (sameGone : next.gone = old.gone)
    (steady : state.manager.host.Steady manager.host)
    (killed : ∀ id ∈ old.pending, id ∈ next.pending ∨ manager.host.Gone id) :
    ({ state with
      manager := manager
      deletions := state.deletions.set request next } : Backend).Backed where
  live := by
    intro id live
    have liveBefore : ¬state.manager.host.Gone id := fun gone =>
      live (gone_of_steady steady gone)
    refine (backed.live id liveBefore).imp_right fun pending => ?_
    apply pending.set
    intro deletion again waits
    rw [found] at again
    cases again
    exact (killed id waits).resolve_right live
  used := backed.used
  unique := backed.unique
  gone := by
    intro other deletion otherFound id member
    rw [Table.get?_set] at otherFound
    split at otherFound
    · cases otherFound
      exact backed.gone request old found id (sameGone ▸ member)
    · exact backed.gone other deletion otherFound id member
  answered := backed.answered

/-! ## Steps of the handlers -/

/-- A workspace `DELETE` has read the session list. -/
theorem Backed.listSessions
    {state : Backend}
    {request : Nat}
    {workspaceID : String}
    {sessions : List Store.Session}
    (backed : state.Backed)
    (absent : state.deletions.get? request = none) :
    ({ state with
      deletions := state.deletions.set request
        (.listed workspaceID sessions) } : Backend).Backed where
  live id live := (backed.live id live).imp_right
    fun pending => pending.set (by simp [absent])
  used := backed.used
  unique := backed.unique
  gone := by
    intro other deletion found
    rw [Table.get?_set] at found
    split at found
    · cases found
      simp [Deletion.gone]
    · exact backed.gone other deletion found
  answered := backed.answered

theorem Backed.createSession
    {state : Backend}
    {db : Database}
    {id workspaceID title : String}
    {now : Nat}
    (backed : state.Backed)
    (fresh : id ∉ state.used)
    (created : state.db.createSession id workspaceID title now = some db) :
    ({ state with db := db, used := id :: state.used } : Backend).Backed := by
  have rows := Database.hasSession_createSession created
  have stillGone {other : String}
      (gone : other ∈ state.used ∧ ¬state.db.HasSession other) :
      other ∈ id :: state.used ∧ ¬db.HasSession other := by
    refine ⟨List.mem_cons_of_mem _ gone.1, ?_⟩
    rw [rows]
    rintro (rfl | row)
    · exact fresh gone.1
    · exact gone.2 row
  refine
    { live := ?_, used := ?_, unique := ?_, gone := ?_, answered := ?_ }
  · intro other live
    exact (backed.live other live).imp_left fun row =>
      (rows other).mpr (Or.inr row)
  · intro other row
    rcases (rows other).mp row with rfl | row
    · exact List.mem_cons_self
    · exact List.mem_cons_of_mem _ (backed.used other row)
  · -- The new row's id is not among the old ones.
    have notOld : ∀ row ∈ state.db.sessions, row.id ≠ id := by
      rintro row member rfl
      exact fresh (backed.used row.id ⟨row, member, rfl⟩)
    unfold Database.createSession at created
    split at created
    · cases created
    · cases created
      intro left leftMember right rightMember same
      simp only [List.mem_append, List.mem_singleton] at leftMember rightMember
      rcases leftMember with leftMember | rfl <;>
        rcases rightMember with rightMember | rfl
      · exact backed.unique left leftMember right rightMember same
      · exact absurd same (notOld left leftMember)
      · exact absurd same.symm (notOld right rightMember)
      · rfl
  · intro request deletion found other member
    exact stillGone (backed.gone request deletion found other member)
  · exact fun other member => stillGone (backed.answered other member)

theorem Backed.deleteSession
    {state : Backend}
    {request : Nat}
    (id : String)
    (backed : state.Backed)
    (absent : state.deletions.get? request = none) :
    ({ state with
      db := state.db.deleteSession id
      deletions := state.deletions.set request (.killing [id] [id])
      used := id :: state.used } : Backend).Backed := by
  have rows := Database.hasSession_deleteSession state.db id
  have stillGone {other : String}
      (gone : other ∈ state.used ∧ ¬state.db.HasSession other) :
      other ∈ id :: state.used ∧
        ¬(state.db.deleteSession id).HasSession other :=
    ⟨List.mem_cons_of_mem _ gone.1,
      fun row => gone.2 ((rows other).mp row).2⟩
  refine
    { live := ?_, used := ?_, unique := ?_, gone := ?_, answered := ?_ }
  · intro other live
    by_cases same : other = id
    · subst same
      exact Or.inr (Pending.of_set _ _ (by simp [Deletion.pending]))
    · rcases backed.live other live with row | pending
      · exact Or.inl ((rows other).mpr ⟨same, row⟩)
      · apply Or.inr
        apply pending.set
        intro deletion found
        rw [absent] at found
        cases found
  · intro other row
    exact List.mem_cons_of_mem _ (backed.used other ((rows other).mp row).2)
  · intro left leftMember right rightMember same
    exact backed.unique left (List.mem_filter.mp leftMember).1
      right (List.mem_filter.mp rightMember).1 same
  · intro other deletion found otherId member
    rw [Table.get?_set] at found
    split at found
    · cases found
      obtain rfl : otherId = id := by simpa [Deletion.gone] using member
      exact ⟨List.mem_cons_self, fun row => ((rows otherId).mp row).1 rfl⟩
    · exact stillGone (backed.gone other deletion found otherId member)
  · exact fun other member => stillGone (backed.answered other member)

theorem Backed.deleteWorkspace
    {state : Backend}
    {request : Nat}
    {workspaceID : String}
    {sessions : List Store.Session}
    (backed : state.Backed)
    (found : state.deletions.get? request =
      some (.listed workspaceID sessions))
    (backs : state.BacksShells (.deleteWorkspace request)) :
    ({ state with
      db := state.db.deleteWorkspace workspaceID
      deletions := state.deletions.set request
        (.killing (sessions.map (·.id))
          ((state.db.listSessions workspaceID).map (·.id))) } :
      Backend).Backed := by
  have rows := Database.hasSession_deleteWorkspace state.db workspaceID
  have kept {id : String}
      (row : (state.db.deleteWorkspace workspaceID).HasSession id) :
      state.db.HasSession id := by
    obtain ⟨old, member, _, same⟩ := (rows id).mp row
    exact ⟨old, member, same⟩
  simp only [BacksShells, found, BacksCascade] at backs
  refine
    { live := ?_, used := ?_, unique := ?_, gone := ?_, answered := ?_ }
  · intro id live
    have stillPending (pending : Pending state.deletions id) :
        Pending (state.deletions.set request
          (.killing (sessions.map (·.id))
            ((state.db.listSessions workspaceID).map (·.id)))) id := by
      apply pending.set
      intro deletion again waits
      rw [found] at again
      cases again
      cases waits
    rcases backed.live id live with ⟨row, member, rfl⟩ | pending
    · by_cases inside : row.workspaceID = workspaceID
      · apply Or.inr
        have listed := (Database.mem_listSessions _ _ _).mpr ⟨member, inside⟩
        rcases backs row listed with known | gone | pending
        · exact Pending.of_set _ _ known
        · exact absurd gone live
        · exact stillPending pending
      · exact Or.inl ((rows row.id).mpr ⟨row, member, inside, rfl⟩)
    · exact Or.inr (stillPending pending)
  · exact fun id row => backed.used id (kept row)
  · intro left leftMember right rightMember same
    exact backed.unique left (List.mem_filter.mp leftMember).1
      right (List.mem_filter.mp rightMember).1 same
  · intro other deletion otherFound id member
    rw [Table.get?_set] at otherFound
    split at otherFound
    · cases otherFound
      obtain ⟨row, listed, rfl⟩ := List.mem_map.mp member
      obtain ⟨rowMember, inside⟩ :=
        (Database.mem_listSessions _ _ _).mp listed
      refine ⟨backed.used row.id ⟨row, rowMember, rfl⟩, fun left => ?_⟩
      -- Ids are unique, so no row outside the workspace has this id.
      obtain ⟨survivor, survivorMember, outside, same⟩ :=
        (rows row.id).mp left
      have equal :=
        backed.unique survivor survivorMember row rowMember same
      exact outside (equal ▸ inside)
    · obtain ⟨drawn, gone⟩ := backed.gone other deletion otherFound id member
      exact ⟨drawn, fun row => gone (kept row)⟩
  · intro id member
    obtain ⟨drawn, gone⟩ := backed.answered id member
    exact ⟨drawn, fun row => gone (kept row)⟩

theorem Backed.answer
    {state : Backend}
    {request : Nat}
    {gone : List String}
    (backed : state.Backed)
    (found : state.deletions.get? request = some (.killing [] gone)) :
    ({ state with
      deletions := state.deletions.erase request
      answered := gone ++ state.answered } : Backend).Backed where
  live := fun id live =>
    (backed.live id live).imp_right fun pending => pending.erase found rfl
  used := backed.used
  unique := backed.unique
  gone := by
    intro other deletion otherFound
    rw [Table.get?_erase] at otherFound
    split at otherFound
    · cases otherFound
    · exact backed.gone other deletion otherFound
  answered := by
    intro id member
    rcases List.mem_append.mp member with member | member
    · exact backed.gone request _ found id member
    · exact backed.answered id member

/-- Every step that backs its shells keeps the invariant. -/
theorem Backed.step
    {state next : Backend}
    {action : BackendAction}
    (backed : state.Backed)
    (backs : state.BacksShells action)
    (stepped : state.step action = some next) :
    next.Backed := by
  cases action with
  | createWorkspace id name now =>
      simp only [Backend.step] at stepped
      split at stepped
      · cases stepped
      · obtain ⟨db, created, rfl⟩ := Option.map_eq_some_iff.mp stepped
        exact backed.ofSameSessions
          (Database.sessions_createWorkspace created)
  | createSession id workspaceID title now =>
      simp only [Backend.step] at stepped
      split at stepped
      · cases stepped
      · next fresh =>
          obtain ⟨db, created, rfl⟩ := Option.map_eq_some_iff.mp stepped
          exact backed.createSession fresh created
  | deleteSession request id =>
      simp only [Backend.step] at stepped
      split at stepped
      · cases stepped
      · next absent =>
          cases stepped
          exact backed.deleteSession id (by simpa using absent)
  | listSessions request workspaceID =>
      simp only [Backend.step] at stepped
      split at stepped
      · cases stepped
      · next absent =>
          have absent : state.deletions.get? request = none := by
            simpa using absent
          cases stepped
          exact backed.listSessions absent
  | deleteWorkspace request =>
      simp only [Backend.step] at stepped
      split at stepped
      · next workspaceID sessions found =>
          cases stepped
          exact backed.deleteWorkspace found backs
      · cases stepped
  | killLock request =>
      simp only [Backend.step] at stepped
      split at stepped
      · next id todo gone found =>
          obtain ⟨manager, locked, rfl⟩ := Option.map_eq_some_iff.mp stepped
          exact backed.ofDeletion found rfl
            (Interleaved.steady_step (by simp) locked)
            fun _ waits => Or.inl waits
      · cases stepped
  | killTmux request =>
      simp only [Backend.step] at stepped
      split at stepped
      · next id todo gone found =>
          obtain ⟨manager, killed, rfl⟩ := Option.map_eq_some_iff.mp stepped
          refine backed.ofDeletion found rfl
            (Interleaved.steady_step (by simp) killed) fun other waits => ?_
          obtain ⟨_, rfl⟩ := Interleaved.step_killTmux.mp killed
          rcases List.mem_cons.mp waits with rfl | waits
          · exact Or.inr ((gone_killTmux _ _ _).mpr (Or.inl rfl))
          · exact Or.inl waits
      · cases stepped
  | answer request =>
      simp only [Backend.step] at stepped
      split at stepped
      · next gone found =>
          cases stepped
          exact backed.answer found
      · cases stepped
  | connect client id faults =>
      simp only [Backend.step] at stepped
      split at stepped
      · cases stepped
      · obtain ⟨manager, locked, rfl⟩ := Option.map_eq_some_iff.mp stepped
        obtain ⟨_, rfl⟩ := Interleaved.step_attachLock.mp locked
        exact backed.ofManager fun _ gone live => absurd gone live
  | manager action =>
      simp only [Backend.step] at stepped
      split at stepped
      · obtain ⟨manager, moved, rfl⟩ := Option.map_eq_some_iff.mp stepped
        apply backed.ofManager
        intro id gone live
        by_cases attaches : action = .attachStep
        · subst attaches
          obtain ⟨progress, holds, rfl⟩ :=
            Interleaved.step_attachStep.mp moved
          exact (backs.created holds gone live).imp_right And.left
        · exact absurd
            (gone_of_steady (Interleaved.steady_step attaches moved) gone)
            live
      · cases stepped

/-! ## Whole runs -/

/-- A tmux session comes to life by a step of an `Attach` call only. -/
theorem created_step
    {state next : Backend}
    {action : BackendAction}
    {id : String}
    (stepped : state.step action = some next)
    (gone : state.manager.host.Gone id)
    (live : ¬next.manager.host.Gone id) :
    action = .manager .attachStep ∧ ∃ progress,
      state.manager.holder = some progress ∧
        next.manager = state.manager.advance progress := by
  cases action with
  | createWorkspace | createSession =>
      simp only [Backend.step] at stepped
      split at stepped
      · cases stepped
      · obtain ⟨db, _, rfl⟩ := Option.map_eq_some_iff.mp stepped
        exact absurd gone live
  | deleteSession | listSessions =>
      simp only [Backend.step] at stepped
      split at stepped <;> cases stepped
      exact absurd gone live
  | deleteWorkspace | answer =>
      simp only [Backend.step] at stepped
      split at stepped <;> cases stepped
      exact absurd gone live
  | killLock | killTmux =>
      simp only [Backend.step] at stepped
      split at stepped
      · obtain ⟨manager, moved, rfl⟩ := Option.map_eq_some_iff.mp stepped
        exact absurd
          (gone_of_steady (Interleaved.steady_step (by simp) moved) gone) live
      · cases stepped
  | connect client other faults =>
      simp only [Backend.step] at stepped
      split at stepped
      · cases stepped
      · obtain ⟨manager, locked, rfl⟩ := Option.map_eq_some_iff.mp stepped
        obtain ⟨_, rfl⟩ := Interleaved.step_attachLock.mp locked
        exact absurd gone live
  | manager action =>
      simp only [Backend.step] at stepped
      split at stepped
      · obtain ⟨manager, moved, rfl⟩ := Option.map_eq_some_iff.mp stepped
        by_cases attaches : action = .attachStep
        · subst attaches
          obtain ⟨progress, holds, rfl⟩ :=
            Interleaved.step_attachStep.mp moved
          exact ⟨rfl, progress, holds, rfl⟩
        · exact absurd
            (gone_of_steady (Interleaved.steady_step attaches moved) gone)
            live
      · cases stepped

/-- In every run that backs its shells, a quiescent server has a row for every
live tmux session, and no tmux session comes back to life after the `DELETE`
of its session, or of its workspace, has answered. -/
theorem noOrphans_of_backsShells
    {actions : List BackendAction}
    {state : Backend}
    (backs : Follows Backend.step BacksShells start actions)
    (ran : run Backend.step start actions = some state) :
    (state.Quiescent → ∀ id, ¬state.manager.host.Gone id →
        state.db.HasSession id) ∧
      ∀ action next, state.BacksShells action →
        state.step action = some next →
        ∀ id ∈ state.answered, state.manager.host.Gone id →
          next.manager.host.Gone id := by
  have backed : state.Backed :=
    invariant_of_run
      (fun _ _ _ backed backs stepped => Backed.step backed backs stepped)
      Backed.start backs ran
  constructor
  · intro quiescent id live
    rcases backed.live id live with row | ⟨request, deletion, found, _⟩
    · exact row
    · have member :=
        (state.deletions.mem_entries_iff request deletion).mpr found
      rw [quiescent.2] at member
      cases member
  · intro action next backsNext stepped id answered gone
    by_contra live
    obtain ⟨rfl, progress, holds, advanced⟩ := created_step stepped gone live
    rw [advanced] at live
    rcases backsNext.created holds gone live with row | ⟨_, unanswered⟩
    · exact (backed.answered id answered).2 row
    · exact unanswered answered

/-- A terminal connection whose `Attach` takes three steps under the mutex. -/
def connectRun (client : Handle) (id : String) : List BackendAction :=
  .connect client id ⟨false, false⟩ ::
    List.replicate 3 (.manager .attachStep)

/-- A `DELETE` of one session, kill included. -/
def deleteRun (request : Nat) (id : String) : List BackendAction :=
  [.deleteSession request id, .killLock request, .killTmux request,
    .answer request]

/-- Two terminals in a workspace, one closed by its tab and the other by the
`DELETE` of the workspace. -/
def closeRun : List BackendAction :=
  [.createWorkspace "w" "Default" 0, .createSession "x" "w" "" 1,
    .createSession "y" "w" "" 2] ++
  connectRun 0 "x" ++ connectRun 1 "y" ++ deleteRun 0 "x" ++
  [.listSessions 1 "w", .deleteWorkspace 1, .killLock 1, .killTmux 1,
    .answer 1]

/-- No orphans after a tab and a workspace have been closed. -/
theorem noOrphans_closeRun :
    let state := (run Backend.step start closeRun).get (by decide)
    (state.Quiescent → ∀ id, ¬state.manager.host.Gone id →
        state.db.HasSession id) ∧
      ∀ action next, state.BacksShells action →
        state.step action = some next →
        ∀ id ∈ state.answered, state.manager.host.Gone id →
          next.manager.host.Gone id :=
  noOrphans_of_backsShells (by decide) (Option.some_get _).symm

/-- A tab is closed while a second browser shows it; the second browser loses
its socket and reconnects. -/
def reviveRun : List BackendAction :=
  [.createWorkspace "w" "Default" 0, .createSession "x" "w" "" 1] ++
  connectRun 0 "x" ++ deleteRun 0 "x" ++ [.manager (.detach "x" 0)] ++
  connectRun 1 "x"

/-- The reconnect creates a shell that no row names. -/
theorem orphan_reviveRun :
    ¬∀ actions state, run Backend.step start actions = some state →
      state.Quiescent → ∀ id, ¬state.manager.host.Gone id →
        state.db.HasSession id := by
  intro noOrphans
  exact absurd
    (noOrphans reviveRun ((run Backend.step start reviveRun).get (by decide))
      (Option.some_get _).symm (by decide) "x" (by decide))
    (by decide)

end Backend
end Api
end LociTerm
