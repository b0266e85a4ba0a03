import LociTerm.Library.Table
import LociTerm.Store.TreeRefinement

/-!
# Deleting a workspace

The `DELETE` handler of workspaces lists the sessions in one store call and
deletes the workspace with its rows in another.  It drops the error of the
first call and kills what that call has listed.  Requests interleave at the
store calls, each of which may fail.
-/

namespace LociTerm
namespace Api

open Store

/-- A `DELETE` request of a workspace that has listed the sessions. -/
structure Cascade where
  workspaceID : String
  /-- The list that `ListSessions` returned, with an error or without. -/
  sessions : List Store.Session
  /-- The rows that a failing `ListSessions` has not read. -/
  unread : List Store.Session
  /-- The ids that the store had drawn before. -/
  known : List String
  deriving DecidableEq

/-- What a request has done when it answers. -/
structure CascadeAnswer where
  ok : Bool
  /-- The ids of the rows that its store call has removed. -/
  removed : List String
  /-- The ids that it has passed to `onDeleteFunc`. -/
  killed : List String
  deriving DecidableEq

/-- The database with the requests under way and the answers. -/
structure Cascading where
  db : Database
  used : List String
  cascades : Table Nat Cascade
  answers : List CascadeAnswer
  deriving DecidableEq

/-- A store call. -/
inductive CascadeAction
  /-- `ListSessions` fails, if it does, after it has read some rows. -/
  | list (request : Nat) (workspaceID : String) (failsAfter : Option Nat)
  /-- `DeleteWorkspace`, and what the handler does with its result. -/
  | delete (request : Nat) (fails : Bool)
  /-- A call that another handler makes. -/
  | store (call : StoreCall) (fails : Bool)
  deriving DecidableEq

namespace Cascading

/-- An empty database. -/
def start : Cascading := ⟨Database.empty, [], Table.empty, []⟩

/-- The step relation.  An id that the store draws is new. -/
def step (state : Cascading) : CascadeAction → Option Cascading
  | .list request workspaceID failsAfter =>
      if (state.cascades.get? request).isSome then none
      else
        let rows := state.db.listSessions workspaceID
        let read := failsAfter.getD rows.length
        some { state with
          cascades := state.cascades.set request
            { workspaceID := workspaceID
              sessions := rows.take read
              unread := rows.drop read
              known := state.used } }
  | .delete request fails =>
      match state.cascades.get? request with
      | none => none
      | some cascade =>
          let db :=
            if fails then state.db
            else state.db.deleteWorkspace cascade.workspaceID
          let removed := state.db.sessions.filter (· ∉ db.sessions)
          some { state with
            db := db
            cascades := state.cascades.erase request
            answers :=
              { ok := !fails
                removed := removed.map (·.id)
                killed :=
                  if fails then [] else cascade.sessions.map (·.id) } ::
                state.answers }
  -- No other handler deletes workspaces.
  | .store (.deleteWorkspace _) _ => none
  | .store call fails =>
      if ∃ id ∈ state.used, call.drawn = some id then none
      else if fails then some state
      else
        some { state with
          db := (state.db.serve call).1
          used := call.drawn.toList ++ state.used }

/-- Every request that answers ok has killed what it has removed and nothing
that exists; every other one has done nothing. -/
def KillsExactly (state : Cascading) : Prop :=
  ∀ answer ∈ state.answers,
    if answer.ok then
      answer.removed ⊆ answer.killed ∧
        ∀ id ∈ answer.killed, ¬state.db.HasSession id
    else answer.removed = [] ∧ answer.killed = []

instance (state : Cascading) : Decidable state.KillsExactly :=
  inferInstanceAs (Decidable (∀ answer ∈ state.answers, ite _ _ _))

/-- A workspace is deleted when all its sessions are older than the list that
the request has, and none of them was left out by a failure. -/
def Complete (state : Cascading) : CascadeAction → Prop
  | .delete request false =>
      ∀ cascade ∈ state.cascades.get? request,
        ∀ row ∈ state.db.sessions, row.workspaceID = cascade.workspaceID →
          row.id ∈ cascade.known ∧ row.id ∉ cascade.unread.map (·.id)
  | .delete _ true | .list _ _ _ | .store _ _ => True

instance (state : Cascading) : ∀ action, Decidable (state.Complete action)
  | .delete request false =>
      inferInstanceAs (Decidable (∀ cascade ∈ state.cascades.get? request, _))
  | .delete _ true | .list _ _ _ | .store _ _ => isTrue trivial

/-! ## What a request knows -/

/-- The rows of the workspace are listed, unread or new, and the ids that are
listed are of no other workspace. -/
structure Informed (db : Database) (used : List String) (cascade : Cascade) :
    Prop where
  known : ∀ id ∈ cascade.known, id ∈ used
  listed : ∀ id ∈ cascade.sessions.map (·.id), id ∈ cascade.known
  disjoint : (cascade.sessions.map (·.id)).Disjoint (cascade.unread.map (·.id))
  own : ∀ row ∈ db.sessions, row.id ∈ cascade.sessions.map (·.id) →
    row.workspaceID = cascade.workspaceID
  covered : ∀ row ∈ db.sessions, row.workspaceID = cascade.workspaceID →
    row.id ∈ cascade.known →
      row.id ∈ cascade.sessions.map (·.id) ∨
        row.id ∈ cascade.unread.map (·.id)

/-- Every row is an old one in its workspace, or a new one. -/
def Grows (db next : Database) (used : List String) : Prop :=
  ∀ row ∈ next.sessions,
    (∃ old ∈ db.sessions, old.id = row.id ∧
      old.workspaceID = row.workspaceID) ∨ row.id ∉ used

theorem Grows.of_subset
    {db next : Database}
    {used : List String}
    (subset : next.sessions ⊆ db.sessions) :
    Grows db next used :=
  fun row member => .inl ⟨row, subset member, rfl, rfl⟩

/-- What a request knows stays true as the rows change. -/
theorem Informed.grows
    {db next : Database}
    {used usedNext : List String}
    {cascade : Cascade}
    (informed : Informed db used cascade)
    (grows : Grows db next used)
    (more : used ⊆ usedNext) :
    Informed next usedNext cascade := by
  constructor
  · intro id member
    exact more (informed.known id member)
  · exact informed.listed
  · exact informed.disjoint
  · intro row member listed
    rcases grows row member with ⟨old, before, same, place⟩ | new
    · rw [← place]
      exact informed.own old before (by rwa [same])
    · exact absurd (informed.known _ (informed.listed _ listed)) new
  · intro row member here known
    rcases grows row member with ⟨old, before, same, place⟩ | new
    · rw [← same] at known ⊢
      exact informed.covered old before (place.trans here) known
    · exact absurd (informed.known _ known) new

/-- A store call of another handler. -/
theorem grows_serve
    {db : Database}
    {used : List String}
    {call : StoreCall}
    (fresh : ∀ id, call.drawn = some id → id ∉ used) :
    Grows db (db.serve call).1 used := by
  cases call with
  | listWorkspaces | getWorkspace | listSessions | getSession
  | updateWorkspace => exact .of_subset (List.Subset.refl _)
  | createWorkspace id name now =>
      rw [Database.serve]
      split
      · exact .of_subset (List.Subset.refl _)
      · next created =>
          rw [Grows, Database.sessions_createWorkspace created]
          exact fun row member => .inl ⟨row, member, rfl, rfl⟩
  | deleteWorkspace id | deleteSession id =>
      exact .of_subset List.filter_sublist.subset
  | createSession id workspaceID title now =>
      rw [Database.serve]
      split
      · exact .of_subset (List.Subset.refl _)
      · next created =>
          obtain ⟨-, -, -, row, named, -, sessions⟩ :=
            Database.createSession_eq_some created
          intro session member
          rw [sessions] at member
          rcases List.mem_append.mp member with before | last
          · exact .inl ⟨session, before, rfl, rfl⟩
          · rw [List.mem_singleton.mp last, named]
            exact .inr (fresh id rfl)
  | updateSession id title now =>
      exact fun row member => .inl (Database.mem_updateSession member)

/-! ## The invariant -/

/-- Ids are drawn once, requests are informed, and what has been killed does
not exist. -/
structure Consistent (state : Cascading) : Prop where
  ordered : state.db.Ordered
  unused : ∀ id, id ∉ state.used → state.db.Unused id
  informed : ∀ request cascade,
    state.cascades.get? request = some cascade →
      Informed state.db state.used cascade
  killed : ∀ answer ∈ state.answers, ∀ id ∈ answer.killed,
    id ∈ state.used ∧ ¬state.db.HasSession id

theorem Consistent.start : start.Consistent := by
  constructor
  · exact Database.ordered_empty
  · exact fun id _ => ⟨nofun, nofun⟩
  · exact nofun
  · exact nofun

theorem Consistent.mem_used
    {state : Cascading}
    (consistent : state.Consistent)
    {row : Store.Session}
    (member : row ∈ state.db.sessions) :
    row.id ∈ state.used := by
  by_contra new
  exact (consistent.unused row.id new).2 row member rfl

/-- A list informs its request, however many rows it has read. -/
theorem Consistent.informed_list
    {state : Cascading}
    (consistent : state.Consistent)
    (workspaceID : String)
    (read : Nat) :
    Informed state.db state.used
      { workspaceID := workspaceID
        sessions := (state.db.listSessions workspaceID).take read
        unread := (state.db.listSessions workspaceID).drop read
        known := state.used } := by
  have rows := Database.mem_listSessions state.db workspaceID
  have nodup : ((state.db.listSessions workspaceID).map (·.id)).Nodup := by
    rw [consistent.ordered.listSessions]
    exact consistent.ordered.sessionIds.sublist (List.filter_sublist.map _)
  have unique : ∀ first ∈ state.db.sessions, ∀ second ∈ state.db.sessions,
      first.id = second.id → first = second := fun first left second right =>
    List.inj_on_of_nodup_map consistent.ordered.sessionIds left right
  constructor
  · exact fun id member => member
  · intro id member
    obtain ⟨row, taken, rfl⟩ := List.mem_map.mp member
    exact consistent.mem_used ((rows row).mp (List.mem_of_mem_take taken)).1
  · rw [← List.take_append_drop read (state.db.listSessions workspaceID),
      List.map_append] at nodup
    exact List.disjoint_of_nodup_append nodup
  · intro row member listed
    obtain ⟨other, taken, same⟩ := List.mem_map.mp listed
    obtain ⟨there, place⟩ := (rows other).mp (List.mem_of_mem_take taken)
    rwa [← unique other there row member same]
  · intro row member here _
    have listed := (rows row).mpr ⟨member, here⟩
    rw [← List.take_append_drop read (state.db.listSessions workspaceID),
      List.mem_append] at listed
    rcases listed with taken | dropped
    · exact .inl (List.mem_map_of_mem taken)
    · exact .inr (List.mem_map_of_mem dropped)

/-- The ids that a request has listed do not exist after the deletion. -/
theorem Informed.not_hasSession
    {db : Database}
    {used : List String}
    {cascade : Cascade}
    (informed : Informed db used cascade)
    {id : String}
    (listed : id ∈ cascade.sessions.map (·.id)) :
    ¬(db.deleteWorkspace cascade.workspaceID).HasSession id := by
  rw [Database.hasSession_deleteWorkspace]
  rintro ⟨row, member, other, rfl⟩
  exact other (informed.own row member listed)

/-- The rows that a deletion removes. -/
theorem removed_deleteWorkspace
    (db : Database)
    (workspaceID : String) :
    db.sessions.filter (· ∉ (db.deleteWorkspace workspaceID).sessions) =
      db.sessions.filter (·.workspaceID = workspaceID) := by
  apply List.filter_congr
  intro row member
  simp [Database.deleteWorkspace, member]

/-- A call of another handler draws fresh ids only. -/
theorem step_store
    {state next : Cascading}
    {call : StoreCall}
    {fails : Bool}
    (stepped : state.step (.store call fails) = some next) :
    next = state ∨
      (∀ id, call.drawn = some id → id ∉ state.used) ∧
        next = { state with
          db := (state.db.serve call).1
          used := call.drawn.toList ++ state.used } := by
  unfold Cascading.step at stepped
  split at stepped
  · next shape => cases shape
  · next shape => cases shape
  · cases stepped
  · next shape =>
      cases shape
      split at stepped
      · cases stepped
      · next fresh =>
          split at stepped <;> cases stepped
          · exact .inl rfl
          · exact .inr ⟨fun id drawn old => fresh ⟨id, old, drawn⟩, rfl⟩

section Steps

variable {state next : Cascading}

/-- The request is over, and the others know what they knew. -/
theorem Consistent.informed_erase
    (consistent : state.Consistent)
    {request other : Nat}
    {cascade : Cascade}
    (still : (state.cascades.erase request).get? other = some cascade) :
    Informed state.db state.used cascade := by
  rw [Table.get?_erase] at still
  split at still
  · cases still
  · exact consistent.informed other cascade still

/-- A deletion that fails leaves an answer without ids. -/
theorem Consistent.deletionFails
    (consistent : state.Consistent)
    (request : Nat)
    (answer : CascadeAnswer)
    (none : answer.killed = []) :
    Consistent
      { state with
        cascades := state.cascades.erase request
        answers := answer :: state.answers } where
  ordered := consistent.ordered
  unused := consistent.unused
  informed _ _ still := consistent.informed_erase still
  killed other member := by
    rcases List.mem_cons.mp member with rfl | before
    · rw [none]
      exact nofun
    · exact consistent.killed other before

/-- A deletion that succeeds kills what its request has listed. -/
theorem Consistent.deletes
    (consistent : state.Consistent)
    {request : Nat}
    {cascade : Cascade}
    (found : state.cascades.get? request = some cascade)
    (answer : CascadeAnswer)
    (kills : answer.killed = cascade.sessions.map (·.id)) :
    Consistent
      { state with
        db := state.db.deleteWorkspace cascade.workspaceID
        cascades := state.cascades.erase request
        answers := answer :: state.answers } := by
  have own := consistent.informed request cascade found
  have fewer : (state.db.deleteWorkspace cascade.workspaceID).sessions ⊆
      state.db.sessions := List.filter_sublist.subset
  constructor
  · exact (consistent.ordered.deleteWorkspace _).1
  · intro id new
    have still : (state.db.serve
        (.deleteWorkspace cascade.workspaceID)).1.Unused id :=
      Database.unused_serve (consistent.unused id new) nofun
    exact still
  · intro other cascade still
    exact (consistent.informed_erase still).grows (.of_subset fewer)
      (List.Subset.refl _)
  · intro other member id listed
    rcases List.mem_cons.mp member with rfl | before
    · rw [kills] at listed
      exact ⟨own.known id (own.listed id listed), own.not_hasSession listed⟩
    · obtain ⟨drawn, gone⟩ := consistent.killed other before id listed
      refine ⟨drawn, fun there => gone ?_⟩
      obtain ⟨row, member, same⟩ := there
      exact ⟨row, fewer member, same⟩

/-- Another handler draws fresh ids only. -/
theorem Consistent.serves
    (consistent : state.Consistent)
    {call : StoreCall}
    (fresh : ∀ id, call.drawn = some id → id ∉ state.used) :
    Consistent
      { state with
        db := (state.db.serve call).1
        used := call.drawn.toList ++ state.used } := by
  have grows : Grows state.db (state.db.serve call).1 state.used :=
    grows_serve fresh
  have more : state.used ⊆ call.drawn.toList ++ state.used :=
    List.subset_append_right _ _
  constructor
  · apply (Database.serve_simulates consistent.ordered _).2.2
    exact fun id drawn => consistent.unused id (fresh id drawn)
  · intro id new
    apply Database.unused_serve
    · exact consistent.unused id fun old => new (more old)
    · intro drawn
      exact new (List.mem_append_left _ (by simp [drawn]))
  · intro request cascade found
    exact (consistent.informed request cascade found).grows grows more
  · intro answer member id listed
    obtain ⟨drawn, gone⟩ := consistent.killed answer member id listed
    refine ⟨more drawn, ?_⟩
    rintro ⟨row, there, rfl⟩
    rcases grows row there with ⟨old, before, same, -⟩ | new
    · exact gone ⟨old, before, same⟩
    · exact new drawn

theorem Consistent.step
    {action : CascadeAction}
    (consistent : state.Consistent)
    (stepped : state.step action = some next) :
    next.Consistent := by
  cases action with
  | list request workspaceID failsAfter =>
      simp only [Cascading.step] at stepped
      split at stepped <;> cases stepped
      obtain ⟨ordered, unused, informed, killed⟩ := consistent
      refine ⟨ordered, unused, fun other cascade found => ?_, killed⟩
      rw [Table.get?_set] at found
      split at found
      · cases found
        exact Consistent.informed_list ⟨ordered, unused, informed, killed⟩ _ _
      · exact informed other cascade found
  | delete request fails =>
      simp only [Cascading.step] at stepped
      split at stepped <;> cases stepped
      next cascade found =>
        cases fails with
        | true => exact consistent.deletionFails request _ rfl
        | false => exact consistent.deletes found _ rfl
  | store call fails =>
      rcases step_store stepped with rfl | ⟨fresh, rfl⟩
      · exact consistent
      · exact consistent.serves fresh

end Steps

/-! ## Whole runs -/

/-- What an answer has to be apart from what exists. -/
def Covers (answer : CascadeAnswer) : Prop :=
  if answer.ok then answer.removed ⊆ answer.killed
  else answer.removed = [] ∧ answer.killed = []

theorem Consistent.killsExactly_iff
    {state : Cascading}
    (consistent : state.Consistent) :
    state.KillsExactly ↔ ∀ answer ∈ state.answers, Covers answer := by
  apply forall₂_congr
  intro answer member
  unfold Covers
  split
  · apply and_iff_left
    exact fun id listed => (consistent.killed answer member id listed).2
  · exact Iff.rfl

/-- A request that deletes covers what it removes exactly if its list is
complete. -/
theorem Informed.covers_iff
    {db : Database}
    {used : List String}
    {cascade : Cascade}
    (informed : Informed db used cascade) :
    (db.sessions.filter (·.workspaceID = cascade.workspaceID)).map (·.id) ⊆
        cascade.sessions.map (·.id) ↔
      ∀ row ∈ db.sessions, row.workspaceID = cascade.workspaceID →
        row.id ∈ cascade.known ∧ row.id ∉ cascade.unread.map (·.id) := by
  constructor
  · intro covered row member here
    have listed : row.id ∈ cascade.sessions.map (·.id) :=
      covered (List.mem_map_of_mem (List.mem_filter.mpr ⟨member, by simpa⟩))
    exact ⟨informed.listed _ listed, informed.disjoint listed⟩
  · intro complete id removed
    obtain ⟨row, kept, rfl⟩ := List.mem_map.mp removed
    obtain ⟨member, here⟩ := List.mem_filter.mp kept
    simp only [decide_eq_true_eq] at here
    obtain ⟨known, read⟩ := complete row member here
    exact (informed.covered row member here known).resolve_right read

/-- One step keeps the kills exact exactly if it is complete. -/
theorem killsExactly_step
    {state next : Cascading}
    {action : CascadeAction}
    (consistent : state.Consistent)
    (stepped : state.step action = some next) :
    next.KillsExactly ↔ state.KillsExactly ∧ state.Complete action := by
  rw [consistent.killsExactly_iff,
    (consistent.step stepped).killsExactly_iff]
  cases action with
  | list request workspaceID failsAfter =>
      simp only [Cascading.step] at stepped
      split at stepped <;> cases stepped
      simp [Complete]
  | delete request fails =>
      simp only [Cascading.step] at stepped
      split at stepped <;> cases stepped
      next cascade found =>
        cases fails with
        | true => simp [Complete, Covers]
        | false =>
            have informed := consistent.informed request cascade found
            simp only [Bool.false_eq_true, if_false, List.forall_mem_cons,
              removed_deleteWorkspace, Complete, found, Option.mem_def,
              Option.some.injEq, forall_eq', ← informed.covers_iff]
            simp [Covers, and_comm]
  | store call fails =>
      rcases step_store stepped with rfl | ⟨-, rfl⟩ <;> simp [Complete]

/-- Deleting workspaces kills exactly what it removes exactly if every deletion
has a complete list. -/
theorem killsExactly_iff_complete
    {actions : List CascadeAction}
    {final : Cascading}
    (ran : run Cascading.step start actions = some final) :
    final.KillsExactly ↔
      Follows Cascading.step Complete start actions := by
  have begins : start.KillsExactly := nofun
  rw [Follows.iff_of_run (fun _ _ _ => Consistent.step)
    (fun _ _ _ => killsExactly_step) Consistent.start ran]
  exact and_iff_right begins

/-- A workspace with two sessions is deleted. -/
def quietRun : List CascadeAction :=
  [.store (.createWorkspace "w" "dev" 0) false,
    .store (.createSession "a" "w" "" 1) false,
    .store (.createSession "b" "w" "" 2) false,
    .list 0 "w" none, .delete 0 false]

/-- Both sessions are killed. -/
theorem killsExactly_quietRun :
    ((run Cascading.step start quietRun).get (by decide)).KillsExactly := by
  apply (killsExactly_iff_complete (Option.some_get _).symm).mpr
  decide

/-- A session is created between the list and the deletion. -/
def createdBetween : List CascadeAction :=
  [.store (.createWorkspace "w" "dev" 0) false,
    .list 0 "w" none,
    .store (.createSession "a" "w" "" 1) false,
    .delete 0 false]

/-- The list fails, and the deletion does not. -/
def listFails : List CascadeAction :=
  [.store (.createWorkspace "w" "dev" 0) false,
    .store (.createSession "a" "w" "" 1) false,
    .list 0 "w" (some 0), .delete 0 false]

/-- In both runs a row is removed whose session is not killed. -/
theorem not_killsExactly :
    (∃ final ∈ run Cascading.step start createdBetween,
      ¬final.KillsExactly) ∧
      ∃ final ∈ run Cascading.step start listFails, ¬final.KillsExactly := by
  decide

end Cascading
end Api
end LociTerm
