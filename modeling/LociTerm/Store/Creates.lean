import LociTerm.Library.Run
import LociTerm.Library.Table
import LociTerm.Store.Sqlite

/-!
# Concurrent creates

A create reads the greatest sort order in one statement and inserts its row in
another, without a transaction, and goes on when the first statement fails.
A step is one SQL statement, or the start or the return of a call.
-/

namespace LociTerm
namespace Store

/-- The rows whose sort orders are compared with each other. -/
inductive Scope
  | workspaces
  | sessionsOf (workspaceID : String)
  deriving DecidableEq

/-- What a call creates. -/
inductive Target
  | workspace (name : String)
  | session (workspaceID title : String)
  deriving DecidableEq

/-- How far a create has come. -/
inductive CreateStage
  | started
  /-- The order to insert is computed; whether the query has failed is kept. -/
  | numbered (order : Int) (failed : Bool)
  | inserted
  | refused
  | returned
  deriving DecidableEq

/-- The row of the create is not inserted yet. -/
def CreateStage.pending : CreateStage → Bool
  | .started | .numbered _ _ => true
  | .inserted | .refused | .returned => false

/-- A call of `CreateWorkspace` or `CreateSession`. -/
structure Creating where
  target : Target
  id : String
  now : Nat
  /-- The ids of the creates that had returned when this one started. -/
  before : List String
  stage : CreateStage
  deriving DecidableEq

/-- The database and the creates on it. -/
structure Creates where
  db : Database
  calls : Table Nat Creating
  deriving DecidableEq

/-- The steps of creates, and the deletes. -/
inductive CreateLabel
  | start (call : Nat) (target : Target) (id : String) (now : Nat)
  | readMax (call : Nat) (fails : Bool)
  | insert (call : Nat)
  | returns (call : Nat)
  | deleteWorkspace (id : String)
  | deleteSession (id : String)
  deriving DecidableEq

namespace Target

/-- The rows that a new row is ordered among. -/
def scope : Target → Scope
  | .workspace _ => .workspaces
  | .session workspaceID _ => .sessionsOf workspaceID

end Target

namespace Database

/-- The ids and sort orders of the rows of a scope. -/
def rows (db : Database) : Scope → List (String × Int)
  | .workspaces => db.workspaces.map fun row => (row.id, row.sortOrder)
  | .sessionsOf workspaceID =>
      (db.sessions.filter (·.workspaceID = workspaceID)).map fun row =>
        (row.id, row.sortOrder)

/-- `maxOrder` after `SELECT COALESCE(MAX(sort_order), -1)`; it stays zero when
the query fails, because the error is ignored. -/
def readMaxOrder (db : Database) (target : Target) (fails : Bool) : Int :=
  if fails then 0 else maxOrder ((db.rows target.scope).map Prod.snd)

/-- The `INSERT` of a create. -/
def insert (db : Database) (target : Target) (id : String) (now : Nat) (order : Int) :
    Option Database :=
  match target with
  | .workspace name =>
      db.insertWorkspace
        { id := id
          name := name
          sortOrder := order
          createdAt := now
          updatedAt := now }
  | .session workspaceID title =>
      db.insertSession
        { id := id
          workspaceID := workspaceID
          title := if title = "" then "Terminal" else title
          shell := ""
          sortOrder := order
          createdAt := now
          updatedAt := now }

/-- Every session refers to a workspace. -/
def Referring (db : Database) : Prop :=
  ∀ row ∈ db.sessions, ∃ workspace ∈ db.workspaces, workspace.id = row.workspaceID

/-- The id of a row of either table. -/
def Uses (db : Database) (id : String) : Prop :=
  (∃ row ∈ db.workspaces, row.id = id) ∨ ∃ row ∈ db.sessions, row.id = id

instance (db : Database) (id : String) : Decidable (db.Uses id) :=
  inferInstanceAs (Decidable ((∃ row ∈ db.workspaces, _) ∨ ∃ row ∈ db.sessions, _))

end Database

namespace Creates

/-- The ids of the creates that have returned. -/
def returnedIds (state : Creates) : List String :=
  (state.calls.entries.filter fun entry => entry.2.stage = .returned).map
    fun entry => entry.2.id

/-- A fresh id: no row and no call has it. -/
def Unused (state : Creates) (id : String) : Prop :=
  ¬ state.db.Uses id ∧ ∀ entry ∈ state.calls.entries, entry.2.id ≠ id

instance (state : Creates) (id : String) : Decidable (state.Unused id) :=
  inferInstanceAs (Decidable (_ ∧ ∀ entry ∈ state.calls.entries, _))

/-- A call goes on to another stage. -/
def setStage (state : Creates) (call : Nat) (creating : Creating) (stage : CreateStage) :
    Creates :=
  { state with calls := state.calls.set call { creating with stage := stage } }

/-- One statement, or the start or the return of a call. -/
def step (state : Creates) : CreateLabel → Option Creates
  | .start call target id now =>
      if state.calls.get? call = none ∧ state.Unused id then
        some
          { state with
            calls := state.calls.set call
              { target := target
                id := id
                now := now
                before := state.returnedIds
                stage := .started } }
      else none
  | .readMax call fails =>
      (state.calls.get? call).bind fun creating =>
        if creating.stage = .started then
          some (state.setStage call creating
            (.numbered (state.db.readMaxOrder creating.target fails + 1) fails))
        else none
  | .insert call =>
      (state.calls.get? call).bind fun creating =>
        match creating.stage with
        | .numbered order _ =>
            match state.db.insert creating.target creating.id creating.now order with
            | none => some (state.setStage call creating .refused)
            | some db => some { state.setStage call creating .inserted with db := db }
        | _ => none
  | .returns call =>
      (state.calls.get? call).bind fun creating =>
        if creating.stage = .inserted ∨ creating.stage = .refused then
          some (state.setStage call creating .returned)
        else none
  | .deleteWorkspace id => some { state with db := state.db.deleteWorkspace id }
  | .deleteSession id => some { state with db := state.db.deleteSession id }

/-- The rows of every scope have different sort orders, and a row whose create
started after another create had returned has the greater one. -/
structure Strict (state : Creates) : Prop where
  distinct : ∀ scope, ((state.db.rows scope).map Prod.snd).Nodup
  later : ∀ call creating, state.calls.get? call = some creating →
    ∀ earlier ∈ creating.before, ∀ scope lower upper,
      (earlier, lower) ∈ state.db.rows scope →
      (creating.id, upper) ∈ state.db.rows scope → lower < upper

/-- An insert writes an order that no row of its scope has; and when its query
has failed, the order is above those of the rows whose create had returned
before it started. -/
def Apart (state : Creates) : CreateLabel → Prop
  | .insert call =>
      ∀ creating order failed, state.calls.get? call = some creating →
        creating.stage = .numbered order failed →
        (∀ row ∈ state.db.rows creating.target.scope, row.2 ≠ order) ∧
          (failed = true → ∀ row ∈ state.db.rows creating.target.scope,
            row.1 ∈ creating.before → row.2 < order)
  | _ => True

/-- No call has started yet, the orders of the rows differ, and every session
refers to a workspace. -/
structure Start (state : Creates) : Prop where
  calls : state.calls = Table.empty
  orders : ∀ scope, ((state.db.rows scope).map Prod.snd).Nodup
  references : state.db.Referring

/-! ## Rows -/

end Creates

namespace Database

variable {db next : Database}

/-- A create without an interruption and without a failure is one that reads
the order and inserts it. -/
theorem insert_readMaxOrder
    (db : Database)
    (target : Target)
    (id : String)
    (now : Nat) :
    db.insert target id now (db.readMaxOrder target false + 1) =
      match target with
      | .workspace name => db.createWorkspace id name now
      | .session workspaceID title => db.createSession id workspaceID title now := by
  cases target with
  | workspace name =>
      dsimp only
      rw [createWorkspace_eq_insert]
      simp [insert, readMaxOrder, rows, Target.scope, Function.comp_def]
  | session workspaceID title =>
      dsimp only
      rw [createSession_eq_insert]
      simp [insert, readMaxOrder, rows, Target.scope, Function.comp_def]

theorem rows_deleteWorkspace_sublist (db : Database) (id : String) (scope : Scope) :
    ((db.deleteWorkspace id).rows scope).Sublist (db.rows scope) := by
  cases scope with
  | workspaces => exact List.filter_sublist.map _
  | sessionsOf workspaceID => exact (List.filter_sublist.filter _).map _

theorem rows_deleteSession_sublist (db : Database) (id : String) (scope : Scope) :
    ((db.deleteSession id).rows scope).Sublist (db.rows scope) := by
  cases scope with
  | workspaces => exact List.Sublist.refl _
  | sessionsOf workspaceID => exact (List.filter_sublist.filter _).map _

/-- An insert adds its row to its own scope. -/
theorem rows_insert
    {target : Target}
    {id : String}
    {now : Nat}
    {order : Int}
    (inserted : db.insert target id now order = some next)
    (scope : Scope) :
    next.rows scope =
      db.rows scope ++ if scope = target.scope then [(id, order)] else [] := by
  cases target with
  | workspace name =>
      simp only [insert, insertWorkspace] at inserted
      split at inserted <;> cases inserted
      cases scope with
      | workspaces => simp [rows, Target.scope]
      | sessionsOf workspaceID => simp [rows, Target.scope]
  | session workspaceID title =>
      simp only [insert, insertSession] at inserted
      split at inserted <;> cases inserted
      cases scope with
      | workspaces => simp [rows, Target.scope]
      | sessionsOf other =>
          by_cases same : other = workspaceID
          · simp [rows, Target.scope, same]
          · simp [rows, Target.scope, same, Ne.symm same]

theorem Referring.insert
    {target : Target}
    {id : String}
    {now : Nat}
    {order : Int}
    (referring : db.Referring)
    (inserted : db.insert target id now order = some next) :
    next.Referring := by
  cases target with
  | workspace name =>
      simp only [Database.insert, insertWorkspace] at inserted
      split at inserted <;> cases inserted
      intro row member
      obtain ⟨workspace, there, same⟩ := referring row member
      exact ⟨workspace, List.mem_append_left _ there, same⟩
  | session workspaceID title =>
      simp only [Database.insert, insertSession] at inserted
      split at inserted <;> cases inserted
      rename_i allowed
      intro row member
      rcases List.mem_append.mp member with before | last
      · exact referring row before
      · rw [List.mem_singleton.mp last]
        simp only [Bool.or_eq_true, List.any_eq_true, beq_iff_eq,
          Bool.not_eq_true', not_or, Bool.not_eq_false] at allowed
        exact allowed.2

theorem Referring.deleteWorkspace
    (referring : db.Referring)
    (id : String) :
    (db.deleteWorkspace id).Referring := by
  intro row member
  obtain ⟨before, other⟩ := List.mem_filter.mp member
  obtain ⟨workspace, there, same⟩ := referring row before
  refine ⟨workspace, List.mem_filter.mpr ⟨there, ?_⟩, same⟩
  rw [same]
  exact other

theorem Referring.deleteSession
    (referring : db.Referring)
    (id : String) :
    (db.deleteSession id).Referring :=
  fun row member => referring row (List.mem_filter.mp member).1

theorem uses_of_mem_rows
    {id : String}
    {order : Int}
    {scope : Scope}
    (member : (id, order) ∈ db.rows scope) :
    db.Uses id := by
  cases scope with
  | workspaces =>
      obtain ⟨row, there, same⟩ := List.mem_map.mp member
      exact .inl ⟨row, there, congrArg Prod.fst same⟩
  | sessionsOf workspaceID =>
      obtain ⟨row, there, same⟩ := List.mem_map.mp member
      exact .inr ⟨row, (List.mem_filter.mp there).1, congrArg Prod.fst same⟩

theorem uses_insert
    {target : Target}
    {id other : String}
    {now : Nat}
    {order : Int}
    (inserted : db.insert target id now order = some next)
    (uses : next.Uses other) :
    db.Uses other ∨ other = id := by
  cases target with
  | workspace name =>
      simp only [insert, insertWorkspace] at inserted
      split at inserted <;> cases inserted
      rcases uses with ⟨row, member, rfl⟩ | session
      · rcases List.mem_append.mp member with before | last
        · exact .inl (.inl ⟨row, before, rfl⟩)
        · rw [List.mem_singleton.mp last]
          exact .inr rfl
      · exact .inl (.inr session)
  | session workspaceID title =>
      simp only [insert, insertSession] at inserted
      split at inserted <;> cases inserted
      rcases uses with workspace | ⟨row, member, rfl⟩
      · exact .inl (.inl workspace)
      · rcases List.mem_append.mp member with before | last
        · exact .inl (.inr ⟨row, before, rfl⟩)
        · rw [List.mem_singleton.mp last]
          exact .inr rfl

theorem uses_deleteWorkspace
    {id other : String}
    (uses : (db.deleteWorkspace id).Uses other) :
    db.Uses other := by
  rcases uses with ⟨row, member, same⟩ | ⟨row, member, same⟩
  · exact .inl ⟨row, (List.mem_filter.mp member).1, same⟩
  · exact .inr ⟨row, (List.mem_filter.mp member).1, same⟩

theorem uses_deleteSession
    {id other : String}
    (uses : (db.deleteSession id).Uses other) :
    db.Uses other := by
  rcases uses with workspace | ⟨row, member, same⟩
  · exact .inl workspace
  · exact .inr ⟨row, (List.mem_filter.mp member).1, same⟩

/-- An insert with an unused id is refused only in a scope without rows. -/
theorem rows_eq_nil_of_refused
    {target : Target}
    {id : String}
    {now : Nat}
    {order : Int}
    (referring : db.Referring)
    (unused : ¬ db.Uses id)
    (refused : db.insert target id now order = none) :
    db.rows target.scope = [] := by
  cases target with
  | workspace name =>
      simp only [insert, insertWorkspace] at refused
      split at refused
      · rename_i taken
        simp only [List.any_eq_true, beq_iff_eq] at taken
        exact absurd (.inl taken) unused
      · cases refused
  | session workspaceID title =>
      simp only [insert, insertSession] at refused
      split at refused
      · rename_i why
        simp only [Bool.or_eq_true, List.any_eq_true, beq_iff_eq,
          Bool.not_eq_true', List.any_eq_false] at why
        rcases why with taken | absent
        · exact absurd (.inr taken) unused
        · refine List.map_eq_nil_iff.mpr (List.filter_eq_nil_iff.mpr ?_)
          intro row member here
          obtain ⟨workspace, there, same⟩ := referring row member
          simp only [decide_eq_true_eq] at here
          exact absent workspace there (same.trans here)
      · cases refused

end Database

namespace Creates

/-! ## The steps -/

variable {start state next : Creates} {labels : List CreateLabel}

/-- What one step does. -/
inductive Moves (state : Creates) : CreateLabel → Creates → Prop
  | start
      (call : Nat)
      (target : Target)
      (id : String)
      (now : Nat)
      (free : state.calls.get? call = none)
      (unused : state.Unused id) :
      Moves state (.start call target id now)
        { state with
          calls := state.calls.set call
            { target := target
              id := id
              now := now
              before := state.returnedIds
              stage := .started } }
  | readMax
      (call : Nat)
      (fails : Bool)
      (creating : Creating)
      (found : state.calls.get? call = some creating)
      (started : creating.stage = .started) :
      Moves state (.readMax call fails)
        (state.setStage call creating
          (.numbered (state.db.readMaxOrder creating.target fails + 1) fails))
  | inserts
      (call : Nat)
      (creating : Creating)
      (order : Int)
      (failed : Bool)
      (db : Database)
      (found : state.calls.get? call = some creating)
      (numbered : creating.stage = .numbered order failed)
      (inserted :
        state.db.insert creating.target creating.id creating.now order = some db) :
      Moves state (.insert call)
        { state.setStage call creating .inserted with db := db }
  | refuses
      (call : Nat)
      (creating : Creating)
      (order : Int)
      (failed : Bool)
      (found : state.calls.get? call = some creating)
      (numbered : creating.stage = .numbered order failed)
      (refused :
        state.db.insert creating.target creating.id creating.now order = none) :
      Moves state (.insert call) (state.setStage call creating .refused)
  | returns
      (call : Nat)
      (creating : Creating)
      (found : state.calls.get? call = some creating)
      (finished : creating.stage = .inserted ∨ creating.stage = .refused) :
      Moves state (.returns call) (state.setStage call creating .returned)
  | deleteWorkspace (id : String) :
      Moves state (.deleteWorkspace id)
        { state with db := state.db.deleteWorkspace id }
  | deleteSession (id : String) :
      Moves state (.deleteSession id)
        { state with db := state.db.deleteSession id }

theorem moves_of_step
    {label : CreateLabel}
    (stepped : step state label = some next) :
    Moves state label next := by
  cases label with
  | start call target id now =>
      obtain ⟨⟨free, unused⟩, ⟨⟩⟩ := Option.ite_none_right_eq_some.mp stepped
      exact .start call target id now free unused
  | readMax call fails =>
      obtain ⟨creating, found, rest⟩ := Option.bind_eq_some_iff.mp stepped
      obtain ⟨started, ⟨⟩⟩ := Option.ite_none_right_eq_some.mp rest
      exact .readMax call fails creating found started
  | insert call =>
      obtain ⟨creating, found, rest⟩ := Option.bind_eq_some_iff.mp stepped
      split at rest
      · rename_i order failed numbered
        split at rest <;> cases rest
        · exact .refuses call creating order failed found numbered ‹_›
        · exact .inserts call creating order failed _ found numbered ‹_›
      · cases rest
  | returns call =>
      obtain ⟨creating, found, rest⟩ := Option.bind_eq_some_iff.mp stepped
      obtain ⟨finished, ⟨⟩⟩ := Option.ite_none_right_eq_some.mp rest
      exact .returns call creating found finished
  | deleteWorkspace id =>
      cases stepped
      exact .deleteWorkspace id
  | deleteSession id =>
      cases stepped
      exact .deleteSession id

end Creates
end Store
end LociTerm
