import LociTerm.Client.Desk
import LociTerm.Client.Listing

/-!
# What a desk recalls

While one page calls its operations one after another, it lists what the server
lists, and the tab it remembers for a workspace is the one that was active there
last, or the first one.  A workspace without a remembered tab has no sessions.
-/

namespace LociTerm
namespace Client

open Store Api

/-- The page lists what the server lists. -/
structure Mirrors (s : AppState) (db : Database) : Prop where
  workspaces : s.workspaces.IsOk
  listed : ∀ wid, wid ∈ ids (·.id) s.workspaces ↔
    ∃ row ∈ db.workspaces, row.id = wid
  typed : ∀ wid list, s.sessions.get? wid = some list →
    ∃ rows : List Session, list = .ok (rows.map .ok)
  stocked : ∀ wid ∈ ids (·.id) s.workspaces, (s.sessions.get? wid).isSome
  tabs : ∀ wid ∈ ids (·.id) s.workspaces, ∀ id,
    id ∈ sessionIds s.sessions wid ↔ id ∈ tabsOf db wid

/-- One list of the page follows the server's. -/
theorem Mirrors.setTabs
    {s next : AppState}
    {db nextDb : Database}
    {wid : String}
    (mirrors : Mirrors s db)
    (rows : List Session)
    (workspaces : next.workspaces = s.workspaces)
    (sameRows : nextDb.workspaces = db.workspaces)
    (sessions : next.sessions = s.sessions.set wid (.ok (rows.map .ok)))
    (here : ∀ id, id ∈ rows.map (·.id) ↔ id ∈ tabsOf nextDb wid)
    (others : ∀ other, other ≠ wid → tabsOf nextDb other = tabsOf db other) :
    Mirrors next nextDb := by
  constructor
  · rw [workspaces]
    exact mirrors.workspaces
  · rw [workspaces, sameRows]
    exact mirrors.listed
  · intro other list found
    rw [sessions, Table.get?_set] at found
    split at found
    · cases found
      exact ⟨rows, rfl⟩
    · exact mirrors.typed other list found
  · intro other present
    rw [workspaces] at present
    rw [sessions, Table.get?_set]
    split
    · rfl
    · exact mirrors.stocked other present
  · intro other present id
    rw [workspaces] at present
    rw [sessions, sessionIds_set]
    split
    · next same =>
        subst same
        rw [ids_map_ok]
        exact here id
    · next different =>
        rw [others other (Ne.symm different)]
        exact mirrors.tabs other present id

/-- A new workspace stands at the end with one session. -/
theorem Mirrors.addWorkspace
    {s next : AppState}
    {db nextDb : Database}
    {list : List (Body Workspace)}
    {row : Store.Workspace}
    {session : Session}
    (mirrors : Mirrors s db)
    (held : s.workspaces = .ok list)
    (workspaces : next.workspaces = .ok (list ++ [.ok (workspaceJSON row)]))
    (rows : nextDb.workspaces = db.workspaces ++ [row])
    (sessions : next.sessions = s.sessions.set row.id (.ok [.ok session]))
    (here : ∀ id, id ∈ tabsOf nextDb row.id ↔ session.id = id)
    (others : ∀ other, other ≠ row.id →
      tabsOf nextDb other = tabsOf db other) :
    Mirrors next nextDb := by
  have listed (wid : String) : wid ∈ ids (·.id) next.workspaces ↔
      wid ∈ ids (·.id) s.workspaces ∨ row.id = wid := by
    rw [workspaces, held, ids_append, List.mem_append]
    simp [workspaceJSON, eq_comm]
  constructor
  · rw [workspaces]
    trivial
  · intro wid
    rw [listed, mirrors.listed, rows]
    simp [or_and_right, exists_or]
  · intro wid found entry
    rw [sessions, Table.get?_set] at entry
    split at entry
    · cases entry
      exact ⟨[session], rfl⟩
    · exact mirrors.typed wid found entry
  · intro wid present
    rw [sessions, Table.get?_set]
    split
    · rfl
    · next different =>
        exact mirrors.stocked wid
          (((listed wid).mp present).resolve_right different)
  · intro wid present id
    rw [sessions, sessionIds_set]
    split
    · next same =>
        subst same
        rw [ids_singleton, List.mem_singleton, here, eq_comm]
    · next different =>
        rw [others wid (Ne.symm different)]
        exact mirrors.tabs wid
          (((listed wid).mp present).resolve_right different) id

/-- The list of a workspace that the page shows. -/
theorem Mirrors.held
    {s : AppState}
    {db : Database}
    {wid : String}
    (mirrors : Mirrors s db)
    (listed : wid ∈ ids (·.id) s.workspaces) :
    ∃ rows : List Session, s.sessions.get? wid = some (.ok (rows.map .ok)) ∧
      ∀ id, id ∈ rows.map (·.id) ↔ id ∈ tabsOf db wid := by
  obtain ⟨list, found⟩ := Option.isSome_iff_exists.mp
    (mirrors.stocked wid listed)
  obtain ⟨rows, rfl⟩ := mirrors.typed wid list found
  refine ⟨rows, found, fun id => ?_⟩
  rw [← mirrors.tabs wid listed id, sessionIds_of_get? found, ids_map_ok]

/-- A tab is chosen, or there is none. -/
def Chosen (tab : Option String) (tabs : List String) : Prop :=
  match tab with
  | none => tabs = []
  | some id => id ∈ tabs

namespace Desk

/-- The server's rows have ids that the store has drawn, and none is empty. -/
structure Stored (desk : Desk) : Prop where
  keyed : desk.db.Keyed
  unused : ∀ id, id ∉ desk.used → desk.db.Unused id
  named : desk.db.Unused ""
  reserved : "" ∈ desk.used

/-- The remembered tabs are those that were active last. -/
structure Recalls (desk : Desk) : Prop where
  stored : desk.Stored
  mirrors : Mirrors desk.app.state desk.db
  chosen : ∀ wid ∈ ids (·.id) desk.app.state.workspaces,
    Chosen (desk.app.state.remembered wid) (tabsOf desk.db wid)
  recalled : ∀ wid ∈ ids (·.id) desk.app.state.workspaces,
    desk.app.state.remembered wid =
      (desk.lastActive wid).getD (tabsOf desk.db wid).head?
  active : ∀ wid, desk.app.state.activeWorkspaceId = some wid →
    wid ∈ ids (·.id) desk.app.state.workspaces ∧
      desk.app.state.activeSessionId = desk.app.state.remembered wid

theorem Stored.withApp
    {desk : Desk}
    (stored : desk.Stored)
    (app : App) :
    Stored { desk with app := app } :=
  ⟨stored.keyed, stored.unused, stored.named, stored.reserved⟩

/-! ## One call -/

theorem Stored.served
    {desk : Desk}
    {supply : Supply}
    {call : Call}
    (stored : desk.Stored)
    (fresh : supply.fresh ∉ desk.used)
    (keyed : (answer desk.db supply call).1.Keyed) :
    (desk.served supply call).Stored := by
  constructor
  · exact keyed
  · intro id absent
    simp only [Desk.served, List.mem_cons, not_or] at absent
    exact unused_answer (stored.unused id absent.2) (Ne.symm absent.1) call
  · apply unused_answer stored.named
    rintro empty
    exact fresh (empty ▸ stored.reserved)
  · exact List.mem_cons_of_mem _ stored.reserved

theorem conclude_returns
    {desk next : Desk}
    {app : App}
    {rounds : List (List Supply)}
    (concluded : desk.conclude (.returns app) rounds = some next) :
    next = { desk with app := app } := by
  cases rounds with
  | nil =>
      cases concluded
      rfl
  | cons supplies rounds => cases concluded

/-- An operation that awaits one call goes on with its reply. -/
theorem conclude_awaits
    {desk next : Desk}
    {call : Call}
    {pending : Pending}
    {rounds : List (List Supply)}
    (concluded : desk.conclude (.awaits ⟨[call], pending⟩) rounds =
      some next) :
    ∃ supply outcome rest, supply.fresh ∉ desk.used ∧
      desk.app.resume pending [(answer desk.db supply call).2] =
        some outcome ∧
      (desk.served supply call).conclude outcome rest = some next := by
  cases rounds with
  | nil => cases concluded
  | cons supplies rounds =>
      simp only [conclude] at concluded
      split at concluded
      · next served replies found =>
          obtain ⟨outcome, resumed, rest⟩ :=
            Option.bind_eq_some_iff.mp concluded
          cases supplies with
          | nil => cases found
          | cons supply supplies =>
              simp only [serveAll] at found
              split at found
              · cases found
              · next fresh =>
                  cases supplies with
                  | nil =>
                      cases found
                      exact ⟨supply, outcome, rounds, fresh, resumed, rest⟩
                  | cons _ _ => cases found
      · cases concluded

/-- A desk that goes on with one reply. -/
structure GoesOn
    (desk after : Desk)
    (pending : Pending)
    (reply : Reply)
    (next : Desk) : Prop where
  stored : after.Stored
  app : after.app = desk.app
  history : after.history = desk.history
  resumed : ∃ outcome rest, desk.app.resume pending [reply] = some outcome ∧
    after.conclude outcome rest = some next

theorem Stored.goesOn_createWorkspace
    {desk next : Desk}
    {name : String}
    {pending : Pending}
    {rounds : List (List Supply)}
    (stored : desk.Stored)
    (named : name ≠ "")
    (concluded : desk.conclude (.awaits ⟨[.createWorkspace name], pending⟩)
      rounds = some next) :
    ∃ (after : Desk) (row : Store.Workspace), desk.db.Unused row.id ∧
      after.db = { desk.db with
        workspaces := desk.db.workspaces ++ [row] } ∧
      GoesOn desk after pending
        (.workspace (writeJSON 201 (workspaceJSON row))) next := by
  obtain ⟨supply, outcome, rest, fresh, resumed, concluded⟩ :=
    conclude_awaits concluded
  have unused := stored.unused _ fresh
  obtain ⟨row, drawn, answered⟩ := answer_createWorkspace named unused
  rw [← drawn] at unused
  rw [answered] at resumed
  refine ⟨desk.served supply (.createWorkspace name), row, unused,
    congrArg Prod.fst answered, ⟨?_, rfl, rfl, outcome, rest, resumed,
    concluded⟩⟩
  apply stored.served fresh
  rw [answered]
  exact stored.keyed.createWorkspace unused.1

theorem Stored.goesOn_createSession
    {desk next : Desk}
    {wid title : String}
    {pending : Pending}
    {rounds : List (List Supply)}
    (stored : desk.Stored)
    (present : ∃ row ∈ desk.db.workspaces, row.id = wid)
    (concluded : desk.conclude (.awaits ⟨[.createSession wid title], pending⟩)
      rounds = some next) :
    ∃ (after : Desk) (row : Store.Session), row.workspaceID = wid ∧
      after.db = { desk.db with sessions := desk.db.sessions ++ [row] } ∧
      GoesOn desk after pending
        (.session (writeJSON 201 (sessionJSON "" row))) next := by
  obtain ⟨supply, outcome, rest, fresh, resumed, concluded⟩ :=
    conclude_awaits concluded
  have unused := stored.unused _ fresh
  obtain ⟨row, drawn, rfl, answered⟩ :=
    answer_createSession title present unused
  rw [← drawn] at unused
  rw [answered] at resumed
  refine ⟨desk.served supply (.createSession row.workspaceID title), row, rfl,
    congrArg Prod.fst answered, ⟨?_, rfl, rfl, outcome, rest, resumed,
    concluded⟩⟩
  apply stored.served fresh
  rw [answered]
  exact stored.keyed.createSession unused.2 present

/-! ## The rule for an operation -/

theorem lastActive_record_of_eq
    {desk : Desk}
    {wid : String}
    (active : desk.app.state.activeWorkspaceId = some wid) :
    desk.record.lastActive wid = some desk.app.state.activeSessionId := by
  simp [lastActive, record, active]

theorem lastActive_record_of_ne
    {desk : Desk}
    {wid : String}
    (inactive : desk.app.state.activeWorkspaceId ≠ some wid) :
    desk.record.lastActive wid = desk.lastActive wid := by
  simp [lastActive, record, inactive]

/-- After an operation the active session is the remembered one, and the other
workspaces are as they were. -/
theorem Stored.record
    {desk : Desk}
    (stored : desk.Stored)
    (mirrors : Mirrors desk.app.state desk.db)
    (active : ∀ wid, desk.app.state.activeWorkspaceId = some wid →
      wid ∈ ids (·.id) desk.app.state.workspaces ∧
        desk.app.state.activeSessionId = desk.app.state.remembered wid ∧
        Chosen (desk.app.state.remembered wid) (tabsOf desk.db wid))
    (others : ∀ wid ∈ ids (·.id) desk.app.state.workspaces,
      desk.app.state.activeWorkspaceId ≠ some wid →
        Chosen (desk.app.state.remembered wid) (tabsOf desk.db wid) ∧
          desk.app.state.remembered wid =
            (desk.lastActive wid).getD (tabsOf desk.db wid).head?) :
    desk.record.Recalls := by
  refine ⟨⟨stored.keyed, stored.unused, stored.named, stored.reserved⟩,
    mirrors, ?_, ?_, ?_⟩
  · intro wid listed
    by_cases here : desk.app.state.activeWorkspaceId = some wid
    · exact (active wid here).2.2
    · exact (others wid listed here).1
  · intro wid listed
    by_cases here : desk.app.state.activeWorkspaceId = some wid
    · rw [lastActive_record_of_eq here, Option.getD_some]
      exact (active wid here).2.1.symm
    · rw [lastActive_record_of_ne here]
      exact (others wid listed here).2
  · intro wid here
    exact ⟨(active wid here).1, (active wid here).2.1⟩

/-- A workspace that an operation has left alone. -/
theorem Recalls.undisturbed
    {desk next : Desk}
    {wid : String}
    (recalls : desk.Recalls)
    (listed : wid ∈ ids (·.id) desk.app.state.workspaces)
    (history : next.history = desk.history)
    (remembered : next.app.state.remembered wid =
      desk.app.state.remembered wid)
    (tabs : tabsOf next.db wid = tabsOf desk.db wid) :
    Chosen (next.app.state.remembered wid) (tabsOf next.db wid) ∧
      next.app.state.remembered wid =
        (next.lastActive wid).getD (tabsOf next.db wid).head? := by
  rw [remembered, tabs, lastActive, history]
  exact ⟨recalls.chosen wid listed, recalls.recalled wid listed⟩

end Desk
end Client
end LociTerm
