import LociTerm.Api.Workspaces
import LociTerm.Client.Coherence

/-!
# The first run

Several runs of `init` on one server that has no workspaces yet: in two tabs,
or twice in one page, as React's strict mode calls the effect.  The calls of
all runs are served in any order, those of a `Promise.all` too.  A run goes on
when the last reply that it awaits is there.
-/

namespace LociTerm
namespace Client

open Store Api

/-- A run of `init`, with the replies to the calls that it awaits. -/
structure InitRun where
  outcome : Outcome
  replies : List (Option Reply)
  deriving DecidableEq

namespace InitRun

/-- A run that has come somewhere, without replies. -/
def reached (outcome : Outcome) : InitRun :=
  { outcome := outcome
    replies :=
      match outcome with
      | .awaits flight => flight.calls.map fun _ => none
      | .returns _ | .throws _ => [] }

/-- A reply arrives, in a page whose store is in some state. -/
def receive
    (initRun : InitRun)
    (index : Nat)
    (reply : Reply)
    (app : App) : Option InitRun :=
  match initRun.outcome with
  | .awaits flight =>
      let replies := initRun.replies.set index (some reply)
      match replies.mapM id with
      | none => some { initRun with replies := replies }
      | some replies => (app.resume flight.pending replies).map InitRun.reached
  | .returns _ | .throws _ => none

/-- Where the run stands. -/
def pending (initRun : InitRun) : Option Pending :=
  match initRun.outcome with
  | .awaits flight => some flight.pending
  | .returns _ | .throws _ => none

/-- The call that is served next, if it is this one. -/
def call (initRun : InitRun) (index : Nat) : Option Call :=
  match initRun.outcome, initRun.replies[index]? with
  | .awaits flight, some none => flight.calls[index]?
  | _, _ => none

end InitRun

/-- The server with the runs of `init`. -/
structure FirstRun where
  db : Database
  used : List String
  runs : Table Nat InitRun
  deriving DecidableEq

/-- What happens between the browsers and the server. -/
inductive FirstRunAction
  | begin (initRun : Nat)
  /-- A call is served, and its reply arrives. -/
  | serve (initRun index : Nat) (supply : Supply) (app : App)

namespace FirstRun

/-- An empty database. -/
def start : FirstRun := ⟨Database.empty, [], Table.empty⟩

/-- The step relation. -/
def step (state : FirstRun) : FirstRunAction → Option FirstRun
  | .begin number =>
      if (state.runs.get? number).isSome then none
      else
        some { state with
          runs := state.runs.set number
            (InitRun.reached (App.initial.start .init)) }
  | .serve number index supply app =>
      match state.runs.get? number with
      | none => none
      | some initRun =>
          match initRun.call index with
          | none => none
          | some call =>
              if supply.fresh ∈ state.used then none
              else
                let (db, reply) := answer state.db supply call
                (initRun.receive index reply app).map fun initRun =>
                  { db := db
                    used := supply.fresh :: state.used
                    runs := state.runs.set number initRun }

/-- A run of `init` has resolved. -/
def Resolved (state : FirstRun) (number : Nat) (app : App) : Prop :=
  ∃ initRun, state.runs.get? number = some initRun ∧
    initRun.outcome = .returns app

/-- The run has found no workspaces, and is going to create one. -/
def foundNoWorkspace : Pending → Bool
  | .initDefault => true
  | _ => false

/-- The run has found no session, and is going to create one. -/
def foundNoSession : Pending → Bool
  | .initSession _ _ _ _ => true
  | _ => false

/-- No run stands at such an `await`. -/
def NoneAt (state : FirstRun) (stands : Pending → Bool) : Prop :=
  ∀ entry ∈ state.runs.entries, ∀ pending ∈ entry.2.pending,
    stands pending = false

instance (state : FirstRun) (stands : Pending → Bool) :
    Decidable (state.NoneAt stands) :=
  inferInstanceAs (Decidable (∀ entry ∈ state.runs.entries, _))

/-- A list that a run asks for has an entry, or no other run has found it empty
and has not created the entry yet. -/
def Clear (state : FirstRun) : Pending → Prop
  | .initWorkspaces =>
      state.db.workspaces = [] → state.NoneAt foundNoWorkspace
  | .initSessions _ => state.db.sessions = [] → state.NoneAt foundNoSession
  | _ => True

instance (state : FirstRun) : ∀ pending, Decidable (state.Clear pending)
  | .initWorkspaces | .initSessions _ => inferInstanceAs (Decidable (_ → _))
  | .initDefault | .initSession _ _ _ _ | .fetchWorkspaces | .createWorkspace
  | .createWorkspaceSession _ | .deleteWorkspace _ | .renameWorkspace _
  | .setActiveWorkspace _ | .fetchSessions _ | .pollActive _
  | .createSession _ | .deleteSession _ | .renameSession _ => isTrue trivial

/-- The runs find out one after another whether there is something to create. -/
def Apart (state : FirstRun) : FirstRunAction → Prop
  | .begin _ => True
  | .serve number _ _ _ =>
      ∀ initRun ∈ state.runs.get? number, ∀ pending ∈ initRun.pending,
        state.Clear pending

instance (state : FirstRun) : ∀ action, Decidable (state.Apart action)
  | .begin _ => isTrue trivial
  | .serve number _ _ _ =>
      inferInstanceAs (Decidable (∀ initRun ∈ state.runs.get? number, _))

/-! ## Where a run can stand -/

/-- What a run of `init` can be, while there is one workspace at most. -/
inductive Stands (db : Database) : InitRun → Prop
  | begun : Stands db (.reached (.awaits ⟨[.listWorkspaces], .initWorkspaces⟩))
  | noWorkspace
      (empty : db.workspaces = [] ∧ db.sessions = []) :
      Stands db
        (.reached (.awaits ⟨[.createWorkspace "Default"], .initDefault⟩))
  | listing
      (row : Store.Workspace)
      (only : db.workspaces = [row]) :
      Stands db (.reached (.awaits
        ⟨[.listSessions row.id], .initSessions [.ok (workspaceJSON row)]⟩))
  | noSession
      (row : Store.Workspace)
      (sessions : Table String (Records Session))
      (tabs : Table String (Option String))
      (only : db.workspaces = [row])
      (empty : db.sessions = []) :
      Stands db (.reached (.awaits
        ⟨[.createSession row.id "Terminal"],
          .initSession [.ok (workspaceJSON row)] sessions tabs
            (some row.id)⟩))
  | resolved
      (row : Store.Workspace)
      (session : Store.Session)
      (app : App)
      (only : db.workspaces = [row])
      (first : db.sessions = [session])
      (workspace : app.state.activeWorkspaceId = some row.id)
      (tab : app.state.activeSessionId = some session.id) :
      Stands db (.reached (.returns app))

/-- The tables hold one workspace with one session at most. -/
structure Small (db : Database) : Prop where
  workspaces : db.workspaces.length ≤ 1
  sessions : db.sessions.length ≤ 1
  references : ∀ session ∈ db.sessions, ∃ row ∈ db.workspaces,
    session.workspaceID = row.id

/-- Only one run stands at such an `await`. -/
def Unique (runs : Table Nat InitRun) (stands : Pending → Bool) : Prop :=
  ∀ number initRun other otherRun,
    runs.get? number = some initRun → runs.get? other = some otherRun →
      initRun.pending.any stands = true →
        otherRun.pending.any stands = true → number = other

/-- Every run stands somewhere, and one at most has found nothing. -/
structure Settled (state : FirstRun) : Prop where
  small : Small state.db
  unused : ∀ id, id ∉ state.used → state.db.Unused id
  stands : ∀ number initRun, state.runs.get? number = some initRun →
    Stands state.db initRun
  oneNoWorkspace : Unique state.runs foundNoWorkspace
  oneNoSession : Unique state.runs foundNoSession

theorem NoneAt.any_eq_false
    {state : FirstRun}
    {stands : Pending → Bool}
    (none : state.NoneAt stands)
    {number : Nat}
    {initRun : InitRun}
    (found : state.runs.get? number = some initRun) :
    initRun.pending.any stands = false := by
  have member := (state.runs.mem_entries_iff number initRun).mpr found
  cases pending : initRun.pending with
  | none => rfl
  | some pending' => exact none _ member pending' pending

/-- A run that goes on stays alone if no other run stands where it comes to. -/
theorem Unique.set
    {runs : Table Nat InitRun}
    {stands : Pending → Bool}
    {number : Nat}
    {next : InitRun}
    (unique : Unique runs stands)
    (clear : next.pending.any stands = true →
      ∀ other otherRun, runs.get? other = some otherRun →
        otherRun.pending.any stands = false) :
    Unique (runs.set number next) stands := by
  intro first firstRun second secondRun foundFirst foundSecond here there
  rw [Table.get?_set] at foundFirst foundSecond
  split at foundFirst <;> split at foundSecond
  · next same same' => exact same.symm.trans same'
  · cases foundFirst
    rw [clear here second secondRun foundSecond] at there
    cases there
  · cases foundSecond
    rw [clear there first firstRun foundFirst] at here
    cases here
  · exact unique first firstRun second secondRun foundFirst foundSecond here
      there

/-! ## One call of a run -/

theorem call_eq_some
    {call next : Call}
    {pending : Pending}
    {index : Nat}
    (asked : (InitRun.reached (.awaits ⟨[call], pending⟩)).call index =
      some next) :
    index = 0 ∧ next = call := by
  cases index with
  | zero =>
      cases asked
      exact ⟨rfl, rfl⟩
  | succ index => cases asked

theorem receive_single
    (call : Call)
    (pending : Pending)
    (reply : Reply)
    (app : App) :
    (InitRun.reached (.awaits ⟨[call], pending⟩)).receive 0 reply app =
      (app.resume pending [reply]).map InitRun.reached := rfl

/-- A call that is served. -/
theorem step_serve
    {state next : FirstRun}
    {number index : Nat}
    {supply : Supply}
    {app : App}
    (stepped : state.step (.serve number index supply app) = some next) :
    ∃ initRun call after, state.runs.get? number = some initRun ∧
      initRun.call index = some call ∧ supply.fresh ∉ state.used ∧
      initRun.receive index (answer state.db supply call).2 app =
        some after ∧
      next = { db := (answer state.db supply call).1
               used := supply.fresh :: state.used
               runs := state.runs.set number after } := by
  simp only [step] at stepped
  split at stepped
  · cases stepped
  · next initRun found =>
      split at stepped
      · cases stepped
      · next call asked =>
          split at stepped
          · cases stepped
          · next fresh =>
              obtain ⟨after, received, rfl⟩ :=
                Option.map_eq_some_iff.mp stepped
              exact ⟨initRun, call, after, found, asked, fresh, received, rfl⟩

/-- What the list of a small table holds. -/
theorem listWorkspaces_of_nil
    {db : Database}
    (empty : db.workspaces = []) :
    ∃ nodup, listWorkspaces db = writeJSON 200 ⟨[], nodup⟩ := by
  obtain ⟨workspaces, sessions, hash⟩ := db
  cases empty
  exact ⟨List.nodup_nil, rfl⟩

theorem listWorkspaces_of_singleton
    {db : Database}
    {row : Store.Workspace}
    (only : db.workspaces = [row]) :
    ∃ nodup, listWorkspaces db =
      writeJSON 200 ⟨[workspaceJSON row], nodup⟩ := by
  obtain ⟨workspaces, sessions, hash⟩ := db
  cases only
  exact ⟨List.nodup_singleton _, dif_pos (List.nodup_singleton _)⟩

theorem listSessions_of_nil
    {db : Database}
    (wid : String)
    (empty : db.sessions = []) :
    db.listSessions wid = [] := by
  rw [Database.listSessions, empty]
  rfl

theorem listSessions_of_singleton
    {db : Database}
    {session : Store.Session}
    (only : db.sessions = [session]) :
    db.listSessions session.workspaceID = [session] := by
  rw [Database.listSessions, only]
  simp

/-- The only workspace has no session yet. -/
theorem initSessions_nil (app : App) (workspace : Workspace) :
    app.initSessions [.ok workspace] [.ok []] =
      .awaits ⟨[.createSession workspace.id "Terminal"],
        .initSession [.ok workspace] (Table.empty.set workspace.id (.ok []))
          Table.empty (some workspace.id)⟩ := by
  simp [App.initSessions, App.tabulate, firstId, key]

/-- The only workspace has a session. -/
theorem initSessions_cons
    (app : App)
    (workspace : Workspace)
    (first : Session) :
    ∃ after : App, app.initSessions [.ok workspace] [.ok [.ok first]] =
        .returns after ∧
      after.state.activeWorkspaceId = some workspace.id ∧
      after.state.activeSessionId = some first.id := by
  simp [App.initSessions, App.tabulate, firstId, key, App.finishInit]

/-! ## One step -/

/-- The workspace that the first create makes. -/
theorem Stands.createWorkspace
    {db : Database}
    {initRun : InitRun}
    (row : Store.Workspace)
    (stands : Stands db initRun)
    (empty : db.workspaces = [])
    (other : initRun.pending.any foundNoWorkspace = false) :
    Stands { db with workspaces := db.workspaces ++ [row] } initRun := by
  cases stands with
  | begun => exact .begun
  | noWorkspace => cases other
  | listing first only | noSession first _ _ only
  | resolved first _ _ only =>
      rw [empty] at only
      cases only

/-- The session that the first create makes. -/
theorem Stands.createSession
    {db : Database}
    {initRun : InitRun}
    {row : Store.Workspace}
    (session : Store.Session)
    (stands : Stands db initRun)
    (present : db.workspaces = [row])
    (empty : db.sessions = [])
    (other : initRun.pending.any foundNoSession = false) :
    Stands { db with sessions := db.sessions ++ [session] } initRun := by
  cases stands with
  | begun => exact .begun
  | noWorkspace none =>
      rw [present] at none
      cases none.1
  | listing first only => exact .listing first only
  | noSession => cases other
  | resolved _ _ _ _ first =>
      rw [empty] at first
      cases first

/-- A run that has gone on stands somewhere, and the others still do. -/
theorem Settled.goesOn
    {state : FirstRun}
    {after : InitRun}
    (settled : state.Settled)
    (number : Nat)
    (supply : Supply)
    (call : Call)
    (small : Small (answer state.db supply call).1)
    (stands : Stands (answer state.db supply call).1 after)
    (others : ∀ other otherRun, other ≠ number →
      state.runs.get? other = some otherRun →
        Stands (answer state.db supply call).1 otherRun)
    (clearWorkspace : after.pending.any foundNoWorkspace = true →
      state.NoneAt foundNoWorkspace)
    (clearSession : after.pending.any foundNoSession = true →
      state.NoneAt foundNoSession) :
    Settled
      { db := (answer state.db supply call).1
        used := supply.fresh :: state.used
        runs := state.runs.set number after } := by
  constructor
  · exact small
  · intro id absent
    rw [List.mem_cons, not_or] at absent
    exact unused_answer (settled.unused id absent.2) (Ne.symm absent.1) call
  · intro other otherRun found
    rw [Table.get?_set] at found
    split at found
    · cases found
      exact stands
    · next different => exact others other otherRun (Ne.symm different) found
  · apply settled.oneNoWorkspace.set
    exact fun here other otherRun => (clearWorkspace here).any_eq_false
  · apply settled.oneNoSession.set
    exact fun here other otherRun => (clearSession here).any_eq_false

/-- The tables of a server without workspaces have no sessions either. -/
theorem Small.sessions_eq_nil
    {db : Database}
    (small : Small db)
    (empty : db.workspaces = []) :
    db.sessions = [] := by
  apply List.eq_nil_iff_forall_not_mem.mpr
  intro session member
  obtain ⟨row, there, _⟩ := small.references session member
  rw [empty] at there
  cases there

section Calls

variable {state next : FirstRun} {number : Nat} {supply : Supply} {app : App}
  {after : InitRun}

theorem Settled.begins
    (settled : state.Settled)
    (stepped : state.step (.begin number) = some next) :
    next.Settled := by
  simp only [FirstRun.step] at stepped
  split at stepped <;> cases stepped
  have nowhere (stands : Pending → Bool)
      (other : stands .initWorkspaces = false) :
      (InitRun.reached (App.initial.start .init)).pending.any stands =
        false := other
  refine ⟨settled.small, settled.unused, fun other otherRun found => ?_,
    settled.oneNoWorkspace.set fun here => ?_,
    settled.oneNoSession.set fun here => ?_⟩
  · rw [Table.get?_set] at found
    split at found
    · cases found
      exact .begun
    · exact settled.stands other otherRun found
  · rw [nowhere _ rfl] at here
    cases here
  · rw [nowhere _ rfl] at here
    cases here

/-- The run lists the workspaces, and finds none or one. -/
theorem Settled.listsWorkspaces
    (settled : state.Settled)
    (clear : state.Clear .initWorkspaces)
    (received :
      (InitRun.reached (.awaits ⟨[.listWorkspaces], .initWorkspaces⟩)).receive
        0 (answer state.db supply .listWorkspaces).2 app = some after) :
    Settled
      { db := state.db
        used := supply.fresh :: state.used
        runs := state.runs.set number after } := by
  have goesOn (stands : Stands state.db after) :=
    settled.goesOn number supply .listWorkspaces settled.small stands
      fun other otherRun _ => settled.stands other otherRun
  rw [receive_single] at received
  cases rows : state.db.workspaces with
  | nil =>
      have empty := settled.small.sessions_eq_nil rows
      have none := clear rows
      obtain ⟨nodup, response⟩ := listWorkspaces_of_nil rows
      simp only [answer, response] at received
      cases received
      exact goesOn (.noWorkspace ⟨rows, empty⟩) (fun _ => none) (by rintro ⟨⟩)
  | cons row others =>
      have short := settled.small.workspaces
      rw [rows] at short
      cases others with
      | cons _ _ => exact absurd short (by simp)
      | nil =>
          obtain ⟨nodup, response⟩ := listWorkspaces_of_singleton rows
          simp only [answer, response] at received
          cases received
          exact goesOn (.listing row rows) (by rintro ⟨⟩) (by rintro ⟨⟩)

/-- The run creates the Default workspace. -/
theorem Settled.createsWorkspace
    (settled : state.Settled)
    (fresh : supply.fresh ∉ state.used)
    (found : state.runs.get? number = some
      (.reached (.awaits ⟨[.createWorkspace "Default"], .initDefault⟩)))
    (empty : state.db.workspaces = [] ∧ state.db.sessions = [])
    (received :
      (InitRun.reached (.awaits
        ⟨[.createWorkspace "Default"], .initDefault⟩)).receive
          0 (answer state.db supply (.createWorkspace "Default")).2 app =
        some after) :
    Settled
      { db := (answer state.db supply (.createWorkspace "Default")).1
        used := supply.fresh :: state.used
        runs := state.runs.set number after } := by
  obtain ⟨row, named, answered⟩ :=
    answer_createWorkspace (show "Default" ≠ "" by decide)
      (settled.unused _ fresh)
  rw [receive_single, answered] at received
  cases received
  have only : state.db.workspaces ++ [row] = [row] := by
    rw [empty.1, List.nil_append]
  apply settled.goesOn number supply (.createWorkspace "Default")
  · rw [answered]
    refine ⟨?_, settled.small.sessions, ?_⟩
    · rw [only]
      exact le_rfl
    · rw [empty.2]
      exact nofun
  · rw [answered]
    exact .listing row only
  · intro other otherRun different there
    rw [answered]
    apply (settled.stands other otherRun there).createWorkspace row empty.1
    by_contra creates
    exact different (settled.oneNoWorkspace other otherRun number _ there found
      (by simpa using creates) rfl)
  · exact nofun
  · exact nofun

/-- The run lists the sessions of the workspace, and finds none or one. -/
theorem Settled.listsSessions
    {row : Store.Workspace}
    (settled : state.Settled)
    (only : state.db.workspaces = [row])
    (clear : state.Clear (.initSessions [.ok (workspaceJSON row)]))
    (received :
      (InitRun.reached (.awaits ⟨[.listSessions row.id],
        .initSessions [.ok (workspaceJSON row)]⟩)).receive
          0 (answer state.db supply (.listSessions row.id)).2 app =
        some after) :
    Settled
      { db := state.db
        used := supply.fresh :: state.used
        runs := state.runs.set number after } := by
  have goesOn (stands : Stands state.db after) :=
    settled.goesOn number supply (.listSessions row.id) settled.small stands
      fun other otherRun _ => settled.stands other otherRun
  rw [receive_single] at received
  simp only [answer, list] at received
  cases rows : state.db.sessions with
  | nil =>
      have none := clear rows
      rw [listSessions_of_nil row.id rows] at received
      have reached : after =
          .reached (app.initSessions [.ok (workspaceJSON row)] [.ok []]) :=
        (Option.some.inj received).symm
      rw [initSessions_nil] at reached
      subst reached
      exact goesOn (.noSession row _ _ only rows) (by rintro ⟨⟩) fun _ => none
  | cons session others =>
      have short := settled.small.sessions
      rw [rows] at short
      cases others with
      | cons _ _ => exact absurd short (by simp)
      | nil =>
          obtain ⟨place, there, here⟩ := settled.small.references session
            (by rw [rows]; exact List.mem_singleton_self session)
          rw [only, List.mem_singleton] at there
          subst there
          rw [← here, listSessions_of_singleton rows] at received
          have reached : after = .reached (app.initSessions
              [.ok (workspaceJSON place)] [.ok [.ok
                (sessionJSON (supply.getCwd session.id) session)]]) :=
            (Option.some.inj received).symm
          obtain ⟨shown, ends, workspace, tab⟩ := initSessions_cons app
            (workspaceJSON place)
            (sessionJSON (supply.getCwd session.id) session)
          rw [ends] at reached
          subst reached
          exact goesOn (.resolved place session shown only rows workspace tab)
            (by rintro ⟨⟩) (by rintro ⟨⟩)

/-- The run creates the first session of the workspace. -/
theorem Settled.createsSession
    {row : Store.Workspace}
    {sessions : Table String (Records Session)}
    {tabs : Table String (Option String)}
    (settled : state.Settled)
    (fresh : supply.fresh ∉ state.used)
    (found : state.runs.get? number = some (.reached (.awaits
      ⟨[.createSession row.id "Terminal"],
        .initSession [.ok (workspaceJSON row)] sessions tabs (some row.id)⟩)))
    (only : state.db.workspaces = [row])
    (empty : state.db.sessions = [])
    (received :
      (InitRun.reached (.awaits ⟨[.createSession row.id "Terminal"],
        .initSession [.ok (workspaceJSON row)] sessions tabs
          (some row.id)⟩)).receive
            0 (answer state.db supply (.createSession row.id "Terminal")).2
            app = some after) :
    Settled
      { db := (answer state.db supply (.createSession row.id "Terminal")).1
        used := supply.fresh :: state.used
        runs := state.runs.set number after } := by
  obtain ⟨session, named, here, answered⟩ :=
    answer_createSession "Terminal"
      ⟨row, by rw [only]; exact List.mem_singleton_self row, rfl⟩
      (settled.unused _ fresh)
  rw [receive_single, answered] at received
  cases received
  have first : state.db.sessions ++ [session] = [session] := by
    rw [empty, List.nil_append]
  apply settled.goesOn number supply (.createSession row.id "Terminal")
  · rw [answered]
    refine ⟨settled.small.workspaces, ?_, ?_⟩
    · rw [first]
      exact le_rfl
    · rw [first, only]
      simpa using here
  · rw [answered]
    refine .resolved row session _ only first rfl ?_
    simp [key, sessionJSON, request, writeJSON]
  · intro other otherRun different there
    rw [answered]
    apply (settled.stands other otherRun there).createSession session only empty
    by_contra creates
    exact different (settled.oneNoSession other otherRun number _ there found
      (by simpa using creates) rfl)
  · rintro ⟨⟩
  · rintro ⟨⟩

end Calls

theorem Settled.step
    {state next : FirstRun}
    {action : FirstRunAction}
    (settled : state.Settled)
    (apart : state.Apart action)
    (stepped : state.step action = some next) :
    next.Settled := by
  cases action with
  | begin number => exact settled.begins stepped
  | serve number index supply app =>
      obtain ⟨initRun, call, after, found, asked, fresh, received, rfl⟩ :=
        step_serve stepped
      have clear := apart initRun found
      cases settled.stands number initRun found with
      | begun =>
          obtain ⟨rfl, rfl⟩ := call_eq_some asked
          exact settled.listsWorkspaces (clear _ rfl) received
      | noWorkspace empty =>
          obtain ⟨rfl, rfl⟩ := call_eq_some asked
          exact settled.createsWorkspace fresh found empty received
      | listing row only =>
          obtain ⟨rfl, rfl⟩ := call_eq_some asked
          exact settled.listsSessions only (clear _ rfl) received
      | noSession row sessions tabs only empty =>
          obtain ⟨rfl, rfl⟩ := call_eq_some asked
          exact settled.createsSession fresh found only empty received
      | resolved => cases asked

/-! ## Whole runs -/

theorem get?_start (number : Nat) (initRun : InitRun) :
    start.runs.get? number ≠ some initRun := by
  rw [start, Table.get?_empty]
  exact (Option.some_ne_none initRun).symm

theorem Settled.start : start.Settled := by
  have none := get?_start
  constructor
  · exact ⟨Nat.zero_le 1, Nat.zero_le 1, nofun⟩
  · exact fun id _ => ⟨nofun, nofun⟩
  · exact fun number initRun found => absurd found (none number initRun)
  · exact fun number initRun _ _ found => absurd found (none number initRun)
  · exact fun number initRun _ _ found => absurd found (none number initRun)

/-- What a run that has resolved shows. -/
theorem Settled.resolved
    {state : FirstRun}
    {number : Nat}
    {app : App}
    (settled : state.Settled)
    (resolved : state.Resolved number app) :
    ∃ row session, state.db.workspaces = [row] ∧
      state.db.sessions = [session] ∧
      app.state.activeWorkspaceId = some row.id ∧
      app.state.activeSessionId = some session.id := by
  obtain ⟨initRun, found, ends⟩ := resolved
  cases settled.stands number initRun found with
  | resolved row session after only first workspace tab =>
      cases ends
      exact ⟨row, session, only, first, workspace, tab⟩
  | begun | noWorkspace | listing | noSession => cases ends

/-- A call with the id that it may draw. -/
def serves (number : Nat) (fresh : String) : FirstRunAction :=
  .serve number 0 ⟨fresh, 0, fun _ => ""⟩ App.initial

end FirstRun
end Client
end LociTerm
