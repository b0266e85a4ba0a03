import LociTerm.Client.DeletedWorkspace
import LociTerm.Client.DeskCalls

/-!
# The operations of a desk

Each operation leaves the page with the tabs that were active last.
-/

namespace LociTerm
namespace Client

open Store Api

/-- The successor is one of the other workspaces. -/
theorem AppState.successor_cases
    {s : AppState}
    {id wid : String}
    (first : (s.successor id).1 = some wid) :
    wid ∈ ids Workspace.id (.ok (s.otherWorkspaces id)) ∧
      (s.successor id).2 = (s.remembered wid).or
        ((s.sessions.get? wid).bind (firstId Session.id)) := by
  unfold AppState.successor at first ⊢
  cases left : (s.otherWorkspaces id).head? with
  | none =>
      rw [left] at first
      cases first
  | some workspace =>
      rw [left] at first
      have named : workspace.field (·.id) = some wid := first
      refine ⟨mem_ids_ok.mpr ⟨workspace, List.mem_of_head? left, named⟩, ?_⟩
      simp only [named, Option.bind_some]

/-- The page loses the workspace as the tables do. -/
theorem Mirrors.deleteWorkspace
    {s next : AppState}
    {db : Database}
    {id : String}
    (mirrors : Mirrors s db)
    (loses : s.LosesOnly next id)
    (listed : ∀ wid, wid ∈ ids (·.id) next.workspaces ↔
      wid ≠ id ∧ wid ∈ ids (·.id) s.workspaces) :
    Mirrors next (db.deleteWorkspace id) := by
  constructor
  · rw [loses.workspaces]
    trivial
  · intro wid
    rw [listed, mirrors.listed]
    simp only [Database.deleteWorkspace, List.mem_filter, decide_eq_true_eq]
    constructor
    · rintro ⟨different, row, member, rfl⟩
      exact ⟨row, ⟨member, different⟩, rfl⟩
    · rintro ⟨row, ⟨member, different⟩, rfl⟩
      exact ⟨different, row, member, rfl⟩
  · intro wid list entry
    rw [loses.sessions] at entry
    split at entry
    · cases entry
    · exact mirrors.typed wid list entry
  · intro wid present
    obtain ⟨different, old⟩ := (listed wid).mp present
    rw [loses.sessions, if_neg different]
    exact mirrors.stocked wid old
  · intro wid present session
    obtain ⟨different, old⟩ := (listed wid).mp present
    rw [sessionIds, loses.sessions, if_neg different,
      tabsOf_deleteWorkspace_of_ne (Ne.symm different)]
    exact mirrors.tabs wid old session

/-- The deletion resolves, since the lists that it reads are there. -/
theorem Mirrors.deleteWorkspace_returns
    {app : App}
    {db : Database}
    {list : List (Body Workspace)}
    (mirrors : Mirrors app.state db)
    (held : app.state.workspaces = .ok list)
    (id : String) :
    ∃ next, app.finishDeleteWorkspace id = .returns next := by
  have removed : ∃ rows, app.state.sessionsOf id = .ok rows := by
    rw [AppState.sessionsOf]
    cases entry : app.state.sessions.get? id with
    | none => exact ⟨[], rfl⟩
    | some list =>
        obtain ⟨rows, rfl⟩ := mirrors.typed id list entry
        exact ⟨_, rfl⟩
  obtain ⟨rows, removed⟩ := removed
  simp only [App.finishDeleteWorkspace, held, removed]
  exact ⟨_, rfl⟩

namespace Desk

theorem remembered_set
    (s : AppState)
    (wid other : String)
    (tab : Option String) :
    ((s.activeSessionByWorkspace.set wid tab).get? other).join =
      if wid = other then tab else s.remembered other := by
  rw [Table.get?_set]
  split <;> rfl

theorem remembered_erase (s : AppState) (wid other : String) :
    ((s.activeSessionByWorkspace.erase wid).get? other).join =
      if wid = other then none else s.remembered other := by
  rw [Table.get?_erase]
  split <;> rfl

/-- An operation on the active workspace changes its list alone. -/
theorem Recalls.onActive
    {desk next : Desk}
    {wid : String}
    (recalls : desk.Recalls)
    (active : desk.app.state.activeWorkspaceId = some wid)
    (stored : next.Stored)
    (mirrors : Mirrors next.app.state next.db)
    (history : next.history = desk.history)
    (workspaces : next.app.state.workspaces = desk.app.state.workspaces)
    (still : next.app.state.activeWorkspaceId = some wid)
    (tab : next.app.state.activeSessionId = next.app.state.remembered wid)
    (chosen : Chosen (next.app.state.remembered wid) (tabsOf next.db wid))
    (others : ∀ other, other ≠ wid →
      next.app.state.remembered other = desk.app.state.remembered other ∧
        tabsOf next.db other = tabsOf desk.db other) :
    next.record.Recalls := by
  have listed := (recalls.active wid active).1
  apply stored.record mirrors
  · intro other here
    cases still.symm.trans here
    rw [workspaces]
    exact ⟨listed, tab, chosen⟩
  · intro other present elsewhere
    rw [workspaces] at present
    obtain ⟨remembered, tabs⟩ := others other fun same =>
      elsewhere (same ▸ still)
    exact recalls.undisturbed present history remembered tabs

theorem Recalls.createSession
    {desk next : Desk}
    {wid : String}
    {title : Option String}
    {rounds : List (List Supply)}
    (recalls : desk.Recalls)
    (active : desk.app.state.activeWorkspaceId = some wid)
    (concluded : desk.conclude (desk.app.start (.createSession wid title))
      rounds = some next) :
    next.record.Recalls := by
  have listed := (recalls.active wid active).1
  have present := (recalls.mirrors.listed wid).mp listed
  obtain ⟨rows, held, tabs⟩ := recalls.mirrors.held listed
  obtain ⟨after, row, rfl, db, stored, -, history, outcome, rest, resumed,
    concluded⟩ := recalls.stored.goesOn_createSession present concluded
  have list : desk.app.state.sessionsOf row.workspaceID =
      .ok (rows.map .ok) := by
    rw [AppState.sessionsOf, held, Option.getD_some]
  simp only [App.resume, request, writeJSON, App.finishCreateSession, list,
    Option.some.injEq] at resumed
  subst resumed
  cases conclude_returns concluded
  have here (id : String) : id ∈ tabsOf after.db row.workspaceID ↔
      id ∈ tabsOf desk.db row.workspaceID ∨ row.id = id := by
    rw [db]
    exact mem_tabsOf_createSession
  have others (other : String) (different : other ≠ row.workspaceID) :
      tabsOf after.db other = tabsOf desk.db other := by
    rw [db]
    exact tabsOf_createSession_of_ne (Ne.symm different)
  apply recalls.onActive active (stored.withApp _)
  · refine recalls.mirrors.setTabs (rows ++ [sessionJSON "" row]) ?_ ?_ ?_ ?_
      others
    · rfl
    · change after.db.workspaces = desk.db.workspaces
      rw [db]
    · rw [List.map_append]
      rfl
    · intro id
      rw [here, ← tabs id, List.map_append]
      simp [sessionJSON, eq_comm]
  · exact history
  · rfl
  · exact active
  · simp [AppState.remembered, sessionJSON]
  · simp only [AppState.remembered, Table.get?_set, if_true]
    exact (here row.id).mpr (.inr rfl)
  · intro other different
    refine ⟨?_, others other different⟩
    exact (remembered_set _ _ _ _).trans (if_neg (Ne.symm different))

theorem Stored.tab_ne
    {desk : Desk}
    {wid id : String}
    (stored : desk.Stored)
    (listed : id ∈ tabsOf desk.db wid) :
    id ≠ "" := by
  obtain ⟨row, member, _, rfl⟩ := mem_tabsOf.mp listed
  exact stored.named.2 row member

theorem Recalls.workspace_ne
    {desk : Desk}
    {wid : String}
    (recalls : desk.Recalls)
    (listed : wid ∈ ids (·.id) desk.app.state.workspaces) :
    wid ≠ "" := by
  obtain ⟨row, member, rfl⟩ := (recalls.mirrors.listed wid).mp listed
  exact recalls.stored.named.1 row member

theorem Recalls.setActiveSession
    {desk next : Desk}
    {id : String}
    {rounds : List (List Supply)}
    (recalls : desk.Recalls)
    (shown : ShowsTab desk.app.state id)
    (concluded : desk.conclude (desk.app.start (.setActiveSession id))
      rounds = some next) :
    next.record.Recalls := by
  obtain ⟨wid, active, member⟩ := shown
  have listed := (recalls.active wid active).1
  have named := recalls.workspace_ne listed
  cases conclude_returns concluded
  have remembered (other : String) :
      ((desk.app.state.activeSessionByWorkspace.set wid (some id)).get?
        other).join =
          if wid = other then some id else desk.app.state.remembered other :=
    remembered_set _ _ _ _
  have truth : truthy desk.app.state.activeWorkspaceId = true :=
    truthy_iff.mpr ⟨wid, active, named⟩
  have here : key desk.app.state.activeWorkspaceId = wid := by
    rw [active]
    rfl
  obtain ⟨workspaces, rows, typed, stocked, tabs⟩ := recalls.mirrors
  apply recalls.onActive active (recalls.stored.withApp _)
  · exact ⟨workspaces, rows, typed, stocked, tabs⟩
  · rfl
  · rfl
  · exact active
  · simp [AppState.remembered, App.cancelIdleTracking, truth, here]
  · simp only [AppState.remembered, App.cancelIdleTracking, truth, here,
      remembered, if_true]
    exact (tabs wid listed id).mp member
  · intro other different
    refine ⟨?_, rfl⟩
    simp only [AppState.remembered, App.cancelIdleTracking, truth, here,
      remembered, if_true, if_neg (Ne.symm different)]

theorem firstId_eq_none
    {rows : List Session}
    (first : firstId Session.id (.ok (rows.map .ok)) = none) :
    rows = [] := by
  cases rows with
  | nil => rfl
  | cons row rows => cases first

/-- The tab that a deletion leaves active is the remembered one. -/
theorem withoutSession_remembered
    {s : AppState}
    {wid : String}
    {rows : List Session}
    (id : String)
    (tab : s.activeSessionId = s.remembered wid)
    (named : ∀ row ∈ rows, row.id ≠ "") :
    (s.withoutSession wid id (rows.map .ok)).remembered wid =
      (s.withoutSession wid id (rows.map .ok)).activeSessionId := by
  by_cases active : s.activeSessionId = some id
  · have here : s.remembered wid = some id := tab.symm.trans active
    simp only [AppState.withoutSession, active, here, if_true]
    cases first : firstId Session.id
        (.ok ((rows.map Body.ok).filter (·.field (·.id) ≠ some id))) with
    | none =>
        rw [if_neg (by simp [truthy]), AppState.remembered]
        exact (remembered_erase _ _ _).trans (if_pos rfl)
    | some next =>
        have nonempty : next ≠ "" := by
          obtain ⟨_, member⟩ := mem_ids_filter.mp (firstId_mem first)
          rw [ids_map_ok] at member
          obtain ⟨row, present, rfl⟩ := List.mem_map.mp member
          exact named row present
        rw [if_pos (truthy_iff.mpr ⟨next, rfl, nonempty⟩), AppState.remembered]
        exact (remembered_set _ _ _ _).trans (if_pos rfl)
  · have elsewhere : s.remembered wid ≠ some id :=
      fun same => active (tab.trans same)
    simp only [AppState.withoutSession, if_neg active, if_neg elsewhere]
    exact tab.symm

theorem withoutSession_remembered_of_ne
    {s : AppState}
    {wid id other : String}
    {list : List (Body Session)}
    (different : other ≠ wid) :
    (s.withoutSession wid id list).remembered other = s.remembered other := by
  rw [AppState.withoutSession, AppState.remembered]
  simp only
  generalize (if s.activeSessionId = some id then _ else _) = next
  split
  · split
    · exact (remembered_set _ _ _ _).trans (if_neg (Ne.symm different))
    · exact (remembered_erase _ _ _).trans (if_neg (Ne.symm different))
  · rfl

/-- A deletion leaves a tab of the workspace active, if one is left. -/
theorem chosen_withoutSession
    {s : AppState}
    {db : Database}
    {wid id : String}
    {rows : List Session}
    (tabs : ∀ id, id ∈ rows.map (·.id) ↔ id ∈ tabsOf db wid)
    (own : id ∈ tabsOf db wid)
    (chosen : Chosen s.activeSessionId (tabsOf db wid)) :
    Chosen (s.withoutSession wid id (rows.map .ok)).activeSessionId
      (tabsOf (db.deleteSession id) wid) := by
  have removed (session : String) :
      session ∈ ids Session.id
          (.ok ((rows.map Body.ok).filter (·.field (·.id) ≠ some id))) ↔
        session ∈ tabsOf (db.deleteSession id) wid := by
    rw [mem_ids_filter, ids_map_ok, tabs, mem_tabsOf_deleteSession]
  simp only [AppState.withoutSession]
  split
  · cases first : firstId Session.id
        (.ok ((rows.map Body.ok).filter (·.field (·.id) ≠ some id))) with
    | some next => exact (removed next).mp (firstId_mem first)
    | none =>
        have left : (rows.map Body.ok).filter (·.field (·.id) ≠ some id) =
            (rows.filter (·.id ≠ id)).map Body.ok := by
          simp [List.filter_map, Function.comp_def]
        rw [left] at first removed
        apply List.eq_nil_iff_forall_not_mem.mpr
        intro session member
        have still := (removed session).mpr member
        rw [firstId_eq_none first] at still
        cases still
  · next elsewhere =>
      cases before : s.activeSessionId with
      | none =>
          rw [before] at chosen
          have empty : tabsOf db wid = [] := chosen
          rw [empty] at own
          cases own
      | some next =>
          rw [before] at chosen elsewhere
          refine mem_tabsOf_deleteSession.mpr ⟨?_, chosen⟩
          rintro rfl
          exact elsewhere rfl

theorem Recalls.deleteSession
    {desk next : Desk}
    {id : String}
    {rounds : List (List Supply)}
    (recalls : desk.Recalls)
    (shown : ShowsTab desk.app.state id)
    (concluded : desk.conclude (desk.app.start (.deleteSession id))
      rounds = some next) :
    next.record.Recalls := by
  obtain ⟨supply, outcome, rest, fresh, resumed, concluded⟩ :=
    conclude_awaits concluded
  obtain ⟨wid, active, member⟩ := shown
  rw [Option.mem_def] at active
  obtain ⟨listed, tab⟩ := recalls.active wid active
  obtain ⟨rows, held, tabs⟩ := recalls.mirrors.held listed
  have own : id ∈ tabsOf desk.db wid := by
    rwa [sessionIds_of_get? held, ids_map_ok, tabs] at member
  have stored : (desk.served supply (.deleteSession id)).Stored :=
    recalls.stored.served fresh (recalls.stored.keyed.deleteSession id)
  have truth : truthy (some wid) = true :=
    truthy_iff.mpr ⟨wid, rfl, recalls.workspace_ne listed⟩
  have list : desk.app.state.sessionsOf wid = .ok (rows.map .ok) := by
    rw [AppState.sessionsOf, held, Option.getD_some]
  have finished : desk.app.finishDeleteSession id =
      .returns { desk.app.cancelIdleTracking id with
        state := desk.app.state.withoutSession wid id (rows.map .ok) } := by
    simp only [App.finishDeleteSession, App.cancelIdleTracking, truth, active,
      key, Option.getD_some, list, if_true]
  have outcomes : outcome = desk.app.finishDeleteSession id :=
    (Option.some.inj resumed).symm
  rw [outcomes, finished] at concluded
  cases conclude_returns concluded
  have left : (rows.map Body.ok).filter (·.field (·.id) ≠ some id) =
      (rows.filter (·.id ≠ id)).map Body.ok := by
    simp [List.filter_map, Function.comp_def]
  have removed (session : String) :
      session ∈ (rows.filter (·.id ≠ id)).map (·.id) ↔
        session ≠ id ∧ session ∈ tabsOf desk.db wid := by
    rw [← ids_map_ok, ← left, mem_ids_filter, ids_map_ok, tabs]
  have others (other : String) (different : other ≠ wid) :
      tabsOf (desk.db.deleteSession id) other = tabsOf desk.db other :=
    tabsOf_deleteSession_of_not_mem fun there =>
      different (tab_unique recalls.stored.keyed there own)
  have remembered := withoutSession_remembered id tab
    fun row present => recalls.stored.tab_ne
      ((tabs row.id).mp (List.mem_map_of_mem present))
  apply recalls.onActive active (stored.withApp _)
  · refine recalls.mirrors.setTabs (rows.filter (·.id ≠ id)) ?_ ?_ ?_ ?_ others
    · rfl
    · rfl
    · simp only [AppState.withoutSession, left]
    · exact fun session => (removed session).trans
        mem_tabsOf_deleteSession.symm
  · rfl
  · rfl
  · exact active
  · exact remembered.symm
  · have chosen := recalls.chosen wid listed
    rw [← tab] at chosen
    rw [remembered]
    exact chosen_withoutSession tabs own chosen
  · intro other different
    exact ⟨withoutSession_remembered_of_ne different, others other different⟩

/-- An operation that changes nothing. -/
theorem Recalls.record {desk : Desk} (recalls : desk.Recalls) :
    desk.record.Recalls := by
  apply recalls.stored.record recalls.mirrors
  · intro wid active
    obtain ⟨listed, tab⟩ := recalls.active wid active
    exact ⟨listed, tab, recalls.chosen wid listed⟩
  · intro wid listed _
    exact ⟨recalls.chosen wid listed, recalls.recalled wid listed⟩

/-- The list that the server sends. -/
def sent (db : Database) (wid : String) (supply : Supply) : List Session :=
  (db.listSessions wid).map fun row =>
    sessionJSON (supply.getCwd row.id) row

theorem map_sent (db : Database) (wid : String) (supply : Supply) :
    (sent db wid supply).map (·.id) = tabsOf db wid := by
  rw [sent, List.map_map]
  rfl

theorem Recalls.pollActive
    {desk next : Desk}
    {rounds : List (List Supply)}
    (recalls : desk.Recalls)
    (concluded : desk.conclude (desk.app.start .pollActive) rounds =
      some next) :
    next.record.Recalls := by
  simp only [App.start] at concluded
  split at concluded
  · next truth =>
      obtain ⟨wid, active, _⟩ := truthy_iff.mp truth
      rw [active] at concluded
      obtain ⟨supply, outcome, rest, fresh, resumed, concluded⟩ :=
        conclude_awaits concluded
      obtain ⟨listed, tab⟩ := recalls.active wid active
      have chosen := recalls.chosen wid listed
      have stored : (desk.served supply (.listSessions wid)).Stored :=
        recalls.stored.served fresh recalls.stored.keyed
      have outcomes : outcome = desk.app.finishPollActive wid
          (.ok ((sent desk.db wid supply).map .ok)) :=
        (Option.some.inj resumed).symm
      rw [App.finishPollActive] at outcomes
      split at outcomes
      · rw [outcomes] at concluded
        cases conclude_returns concluded
        exact recalls.onActive active (stored.withApp _) recalls.mirrors rfl
          rfl active tab chosen fun _ _ => ⟨rfl, rfl⟩
      · rw [outcomes, App.finishFetchSessions] at concluded
        cases conclude_returns concluded
        apply recalls.onActive active (stored.withApp _)
        · refine recalls.mirrors.setTabs (sent desk.db wid supply) rfl rfl rfl
            ?_ fun _ _ => rfl
          intro id
          rw [map_sent]
          exact Iff.rfl
        · rfl
        · rfl
        · exact active
        · exact tab
        · exact chosen
        · exact fun _ _ => ⟨rfl, rfl⟩
  · cases conclude_returns concluded
    exact recalls.record

/-- A workspace without a remembered tab lists no sessions. -/
theorem Recalls.rows_eq_nil
    {desk : Desk}
    {wid : String}
    {rows : List Session}
    (recalls : desk.Recalls)
    (listed : wid ∈ ids (·.id) desk.app.state.workspaces)
    (tabs : ∀ id, id ∈ rows.map (·.id) ↔ id ∈ tabsOf desk.db wid)
    (tab : desk.app.state.remembered wid = none) :
    rows = [] := by
  have chosen := recalls.chosen wid listed
  rw [tab] at chosen
  have empty : tabsOf desk.db wid = [] := chosen
  apply List.map_eq_nil_iff.mp
  apply List.eq_nil_iff_forall_not_mem.mpr
  intro id member
  rw [tabs, empty] at member
  cases member

/-- What a switch to a listed workspace resolves to. -/
theorem Recalls.switches
    {desk : Desk}
    {wid : String}
    (recalls : desk.Recalls)
    (listed : wid ∈ ids (·.id) desk.app.state.workspaces) :
    ∃ app, desk.app.start (.setActiveWorkspace wid) = .returns app ∧
      app.state.workspaces = desk.app.state.workspaces ∧
      app.state.sessions = desk.app.state.sessions ∧
      app.state.activeWorkspaceId = some wid ∧
      app.state.activeSessionId = desk.app.state.remembered wid ∧
      ∀ other, app.state.remembered other =
        desk.app.state.remembered other := by
  obtain ⟨rows, held, tabs⟩ := recalls.mirrors.held listed
  have same : desk.app.state.sessions.set wid (.ok (rows.map .ok)) =
      desk.app.state.sessions := (Table.set_eq_self_iff _ _ _).mpr held
  simp only [App.start, held, App.finishSetActiveWorkspace, same]
  cases tab : desk.app.state.remembered wid with
  | none =>
      have none := recalls.rows_eq_nil listed tabs tab
      subst none
      exact ⟨_, rfl, rfl, rfl, rfl, rfl, fun _ => rfl⟩
  | some id =>
      have chosen := recalls.chosen wid listed
      rw [tab] at chosen
      have named : id ≠ "" := recalls.stored.tab_ne chosen
      have truth : truthy (some id) = true := truthy_iff.mpr ⟨id, rfl, named⟩
      have stillExists : (rows.map Body.ok).any (·.field (·.id) = some id) =
          true := by
        obtain ⟨row, member, rfl⟩ := List.mem_map.mp ((tabs id).mpr chosen)
        rw [List.any_eq_true]
        exact ⟨.ok row, List.mem_map_of_mem member, by simp⟩
      simp only [truth, if_true, stillExists, if_neg named]
      refine ⟨_, rfl, rfl, rfl, rfl, rfl, fun other => ?_⟩
      refine (remembered_set _ _ _ _).trans ?_
      split
      · next here =>
          subst here
          exact tab.symm
      · rfl

theorem Recalls.setActiveWorkspace
    {desk next : Desk}
    {wid : String}
    {rounds : List (List Supply)}
    (recalls : desk.Recalls)
    (listed : wid ∈ ids (·.id) desk.app.state.workspaces)
    (concluded : desk.conclude (desk.app.start (.setActiveWorkspace wid))
      rounds = some next) :
    next.record.Recalls := by
  obtain ⟨app, started, workspaces, sessions, active, tab, remembered⟩ :=
    recalls.switches listed
  rw [started] at concluded
  cases conclude_returns concluded
  have mirrors : Mirrors app.state desk.db := by
    obtain ⟨isOk, rows, typed, stocked, tabs⟩ := recalls.mirrors
    rw [← workspaces] at isOk rows stocked tabs
    rw [← sessions] at typed stocked tabs
    exact ⟨isOk, rows, typed, stocked, tabs⟩
  apply (recalls.stored.withApp app).record mirrors
  · intro other here
    cases active.symm.trans here
    rw [workspaces, remembered]
    exact ⟨listed, tab, recalls.chosen wid listed⟩
  · intro other present elsewhere
    rw [workspaces] at present
    exact recalls.undisturbed present rfl (remembered other) rfl

theorem Recalls.createWorkspace
    {desk next : Desk}
    {name : String}
    {rounds : List (List Supply)}
    (recalls : desk.Recalls)
    (named : name ≠ "")
    (concluded : desk.conclude (desk.app.start (.createWorkspace name))
      rounds = some next) :
    next.record.Recalls := by
  obtain ⟨middle, row, unused, middleDb, middleStored, middleApp,
    middleHistory, _, rest, resumed, concluded⟩ :=
      recalls.stored.goesOn_createWorkspace named concluded
  cases resumed
  have present : ∃ workspace ∈ middle.db.workspaces,
      workspace.id = row.id := by
    rw [middleDb]
    exact ⟨row, by simp, rfl⟩
  obtain ⟨after, session, here, db, stored, -, history, outcome, rest,
    resumed, concluded⟩ := middleStored.goesOn_createSession present concluded
  rw [middleDb] at db
  rw [middleHistory] at history
  have isOk := recalls.mirrors.workspaces
  cases held : desk.app.state.workspaces with
  | error message =>
      rw [held] at isOk
      exact absurd isOk (Body.not_isOk_error message)
  | ok list =>
      rw [middleApp] at resumed
      simp only [App.resume, App.finishCreateWorkspace, held,
        Option.some.injEq] at resumed
      subst resumed
      cases conclude_returns concluded
      have empty : tabsOf desk.db row.id = [] :=
        tabsOf_eq_nil recalls.stored.keyed unused.1
      have others : ∀ other, other ≠ row.id →
          tabsOf after.db other = tabsOf desk.db other := by
        intro other different
        rw [db]
        exact tabsOf_createSession_of_ne (here ▸ Ne.symm different)
      have tabs : ∀ id, id ∈ tabsOf after.db row.id ↔ session.id = id := by
        intro id
        have same : tabsOf { desk.db with
            workspaces := desk.db.workspaces ++ [row] } row.id =
              tabsOf desk.db row.id := tabsOf_congr rfl
        rw [db, ← here]
        exact mem_tabsOf_createSession_of_nil (here ▸ same.trans empty)
      apply (stored.withApp _).record
      · apply recalls.mirrors.addWorkspace held rfl ?_ rfl tabs others
        rw [db]
      · rintro _ ⟨⟩
        refine ⟨?_, ?_, ?_⟩
        · change row.id ∈ ids Workspace.id
            (.ok (list ++ [.ok (workspaceJSON row)]))
          rw [ids_append]
          simp [workspaceJSON]
        · simp [AppState.remembered, workspaceJSON, key, request, writeJSON]
        · simp only [AppState.remembered, request, writeJSON, workspaceJSON,
            sessionJSON, key, Body.field_ok, Option.getD_some, Table.get?_set,
            if_true]
          exact (tabs session.id).mpr rfl
      · intro wid present inactive
        have different : wid ≠ row.id := fun same =>
          inactive (congrArg some same.symm)
        have listed : wid ∈ ids (·.id) desk.app.state.workspaces := by
          change wid ∈ ids Workspace.id
            (.ok (list ++ [.ok (workspaceJSON row)])) at present
          rw [ids_append, List.mem_append] at present
          rw [held]
          refine present.resolve_right fun last => different ?_
          exact List.mem_singleton.mp last
        refine recalls.undisturbed listed ?_ ?_ ?_
        · exact history
        · exact (remembered_set _ _ _ _).trans (if_neg (Ne.symm different))
        · exact others wid different

/-- The workspace that follows a deleted one shows its remembered tab. -/
theorem Recalls.successor_eq
    {desk : Desk}
    {wid : String}
    (recalls : desk.Recalls)
    (listed : wid ∈ ids (·.id) desk.app.state.workspaces) :
    (desk.app.state.remembered wid).or
        ((desk.app.state.sessions.get? wid).bind (firstId Session.id)) =
      desk.app.state.remembered wid := by
  obtain ⟨rows, held, tabs⟩ := recalls.mirrors.held listed
  cases tab : desk.app.state.remembered wid with
  | some id => rfl
  | none =>
      rw [held, recalls.rows_eq_nil listed tabs tab]
      rfl

theorem Recalls.deleteWorkspace
    {desk next : Desk}
    {id : String}
    {rounds : List (List Supply)}
    (recalls : desk.Recalls)
    (concluded : desk.conclude (desk.app.start (.deleteWorkspace id))
      rounds = some next) :
    next.record.Recalls := by
  obtain ⟨supply, outcome, rest, fresh, resumed, concluded⟩ :=
    conclude_awaits concluded
  have stored : (desk.served supply (.deleteWorkspace id)).Stored :=
    recalls.stored.served fresh (recalls.stored.keyed.deleteWorkspace id)
  have outcomes : outcome = desk.app.finishDeleteWorkspace id :=
    (Option.some.inj resumed).symm
  have mirrors := recalls.mirrors
  have isOk := mirrors.workspaces
  cases held : desk.app.state.workspaces with
  | error message =>
      rw [held] at isOk
      exact absurd isOk (Body.not_isOk_error message)
  | ok list =>
      obtain ⟨app, returned⟩ := mirrors.deleteWorkspace_returns held id
      rw [outcomes, returned] at concluded
      cases conclude_returns concluded
      obtain ⟨_, _, loses, active⟩ := finishDeleteWorkspace_returns returned
      have named : "" ∉ ids (·.id) desk.app.state.workspaces :=
        fun empty => recalls.workspace_ne empty rfl
      rw [AppState.nextActive_eq_successor held named] at active
      have others : desk.app.state.otherWorkspaces id =
          list.filter (·.field (·.id) ≠ some id) := by
        rw [AppState.otherWorkspaces, held]
      have listed (wid : String) : wid ∈ ids (·.id) app.state.workspaces ↔
          wid ≠ id ∧ wid ∈ ids (·.id) desk.app.state.workspaces := by
        rw [loses.workspaces, others, held, mem_ids_filter]
      have remembered (wid : String) (different : wid ≠ id) :
          app.state.remembered wid = desk.app.state.remembered wid := by
        rw [AppState.remembered, loses.remembered, if_neg different]
        rfl
      have tabs (wid : String) (different : wid ≠ id) :
          tabsOf (desk.db.deleteWorkspace id) wid = tabsOf desk.db wid :=
        tabsOf_deleteWorkspace_of_ne (Ne.symm different)
      apply (stored.withApp app).record
      · exact mirrors.deleteWorkspace loses listed
      · intro wid here
        have first : (desk.app.state.successor id).1 = some wid :=
          (congrArg Prod.fst active).symm.trans here
        have session : app.state.activeSessionId =
            (desk.app.state.successor id).2 := congrArg Prod.snd active
        obtain ⟨left, shows⟩ := AppState.successor_cases first
        rw [others, mem_ids_filter, ← held] at left
        obtain ⟨different, old⟩ := left
        have own : (tabsOf (desk.db.deleteWorkspace id) wid) =
            tabsOf desk.db wid := tabs wid different
        change _ ∧ _ ∧ Chosen _ (tabsOf (desk.db.deleteWorkspace id) wid)
        rw [listed, remembered wid different, own, session, shows,
          recalls.successor_eq old]
        exact ⟨⟨different, old⟩, rfl, recalls.chosen wid old⟩
      · intro wid present inactive
        obtain ⟨different, old⟩ := (listed wid).mp present
        exact recalls.undisturbed old rfl (remembered wid different)
          (tabs wid different)

end Desk
end Client
end LociTerm
