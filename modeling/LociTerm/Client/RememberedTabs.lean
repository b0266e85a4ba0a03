import LociTerm.Client.DeskOperations

/-!
# Remembered tabs

`init` remembers the first session of every workspace.  From then on, a switch
to a workspace shows the session that was active there last.
-/

namespace LociTerm
namespace Client

open Store Api

namespace Desk

/-! ## `init` -/

/-- What the tables of `init` hold. -/
theorem get?_tabulate
    {pairs : List (Workspace × List Session)}
    (nodup : (pairs.map (·.1.id)).Nodup)
    (sessions : Table String (Records Session))
    (tabs : Table String (Option String)) :
    let tables := App.tabulate
      (pairs.map fun pair => (.ok pair.1, .ok (pair.2.map .ok)))
      (sessions, tabs)
    (∀ pair ∈ pairs,
      tables.1.get? pair.1.id = some (.ok (pair.2.map .ok)) ∧
        tables.2.get? pair.1.id =
          (pair.2.head?.map fun first => some first.id).or
            (tabs.get? pair.1.id)) ∧
      ∀ wid, wid ∉ pairs.map (·.1.id) →
        tables.1.get? wid = sessions.get? wid ∧
          tables.2.get? wid = tabs.get? wid := by
  induction pairs generalizing sessions tabs with
  | nil => exact ⟨nofun, fun _ _ => ⟨rfl, rfl⟩⟩
  | cons pair pairs inductionHypothesis =>
      obtain ⟨workspace, rows⟩ := pair
      obtain ⟨single, nodup⟩ := List.nodup_cons.mp nodup
      let later : Table String (Option String) :=
        match rows with
        | [] => tabs
        | first :: _ => tabs.set workspace.id (some first.id)
      have noted (wid : String) : later.get? wid =
          if workspace.id = wid then
            (rows.head?.map fun first => some first.id).or (tabs.get? wid)
          else tabs.get? wid := by
        cases rows with
        | nil => simp [later]
        | cons first others => simp [later, Table.get?_set]
      have unfolded : App.tabulate
          (((workspace, rows) :: pairs).map
            fun pair => (.ok pair.1, .ok (pair.2.map .ok))) (sessions, tabs) =
          App.tabulate (pairs.map
            fun pair => (.ok pair.1, .ok (pair.2.map .ok)))
            (sessions.set workspace.id (.ok (rows.map .ok)), later) := by
        cases rows <;> rfl
      obtain ⟨inside, outside⟩ := inductionHypothesis nodup
        (sessions.set workspace.id (.ok (rows.map .ok))) later
      simp only [unfolded]
      constructor
      · intro pair member
        rcases List.mem_cons.mp member with rfl | member
        · obtain ⟨list, tab⟩ := outside workspace.id single
          refine ⟨list.trans (by simp), tab.trans ?_⟩
          exact (noted workspace.id).trans (if_pos rfl)
        · obtain ⟨list, tab⟩ := inside pair member
          refine ⟨list, tab.trans ?_⟩
          have different : workspace.id ≠ pair.1.id := by
            intro same
            exact single (List.mem_map.mpr ⟨pair, member, same.symm⟩)
          rw [noted, if_neg different]
      · intro wid absent
        rw [List.map_cons, List.mem_cons, not_or] at absent
        obtain ⟨list, tab⟩ := outside wid absent.2
        rw [list, tab, noted, if_neg (Ne.symm absent.1),
          Table.get?_set_of_ne _ _ (Ne.symm absent.1)]
        exact ⟨rfl, rfl⟩

/-- The lists of all workspaces are served. -/
theorem Stored.serveAll_lists
    {desk next : Desk}
    {wids : List String}
    {supplies : List Supply}
    {replies : List Reply}
    (stored : desk.Stored)
    (served : desk.serveAll (wids.map .listSessions) supplies =
      some (next, replies)) :
    next.Stored ∧ next.app = desk.app ∧ next.history = desk.history ∧
      next.db = desk.db ∧
      ∃ lists : List (List Session),
        replies.mapM App.sessionList =
          some (lists.map fun rows => .ok (rows.map .ok)) ∧
        List.Forall₂ (fun wid rows => rows.map (·.id) = tabsOf desk.db wid)
          wids lists := by
  induction wids generalizing desk supplies replies with
  | nil =>
      cases supplies with
      | nil =>
          cases served
          exact ⟨stored, rfl, rfl, rfl, [], rfl, .nil⟩
      | cons _ _ => cases served
  | cons wid wids inductionHypothesis =>
      cases supplies with
      | nil => cases served
      | cons supply supplies =>
          simp only [List.map_cons, serveAll] at served
          split at served
          · cases served
          · next fresh =>
              obtain ⟨⟨after, others⟩, rest, joined⟩ :=
                Option.map_eq_some_iff.mp served
              cases joined
              have still : (desk.served supply (.listSessions wid)).Stored :=
                stored.served fresh stored.keyed
              obtain ⟨kept, app, history, db, lists, mapped, tabs⟩ :=
                inductionHypothesis still rest
              refine ⟨kept, app, history, db,
                sent desk.db wid supply :: lists, ?_,
                .cons (map_sent desk.db wid supply) tabs⟩
              rw [List.mapM_cons, mapped]
              rfl

/-- Every workspace has its list, and remembers its first session. -/
theorem get?_tabulate_of_lists
    {rows : List Workspace}
    {lists : List (List Session)}
    {db : Database}
    (nodup : (rows.map (·.id)).Nodup)
    (tabs : List.Forall₂ (fun wid list => list.map (·.id) = tabsOf db wid)
      (rows.map (·.id)) lists) :
    let tables := App.tabulate
      ((rows.map Body.ok).zip (lists.map fun list => .ok (list.map .ok)))
      (Table.empty, Table.empty)
    (∀ wid ∈ rows.map (·.id), ∃ list : List Session,
      tables.1.get? wid = some (.ok (list.map .ok)) ∧
        list.map (·.id) = tabsOf db wid ∧
        (tables.2.get? wid).join = (tabsOf db wid).head?) ∧
      ∀ wid, wid ∉ rows.map (·.id) → tables.1.get? wid = none := by
  rw [List.forall₂_map_left_iff, List.forall₂_iff_zip] at tabs
  obtain ⟨lengths, tabs⟩ := tabs
  have firsts : (rows.zip lists).map (·.1.id) = rows.map (·.id) :=
    calc (rows.zip lists).map (·.1.id)
        = ((rows.zip lists).map Prod.fst).map (·.id) := by
          rw [List.map_map]
          rfl
      _ = rows.map (·.id) := by
          rw [List.map_fst_zip (Nat.le_of_eq lengths)]
  have zipped : (rows.map Body.ok).zip
      (lists.map fun list => (.ok (list.map .ok) : Records Session)) =
        (rows.zip lists).map
          fun pair => (.ok pair.1, .ok (pair.2.map .ok)) := by
    rw [List.zip_map]
    rfl
  obtain ⟨inside, outside⟩ :=
    get?_tabulate (firsts ▸ nodup) Table.empty Table.empty
  rw [firsts] at outside
  simp only [zipped]
  constructor
  · intro wid member
    rw [← firsts] at member
    obtain ⟨pair, zip, rfl⟩ := List.mem_map.mp member
    obtain ⟨list, tab⟩ := inside pair zip
    refine ⟨pair.2, list, tabs zip, ?_⟩
    rw [tab, ← tabs zip, List.head?_map, Table.get?_empty, Option.or_none]
    cases pair.2.head? <;> rfl
  · intro wid absent
    exact (outside wid absent).1.trans (Table.get?_empty wid)

theorem chosen_head (tabs : List String) : Chosen tabs.head? tabs := by
  cases tabs with
  | nil => rfl
  | cons tab tabs => exact List.mem_cons_self

/-- The last part of `init`. -/
theorem Stored.finishInit
    {desk next : Desk}
    {app : App}
    {first : Workspace}
    {others : List Workspace}
    {sessions : Table String (Records Session)}
    {tabs : Table String (Option String)}
    {rounds : List (List Supply)}
    (stored : desk.Stored)
    (history : desk.history = [])
    (mirrors : Mirrors
      { app.state with
        workspaces := .ok ((first :: others).map .ok)
        sessions := sessions } desk.db)
    (chosen : Chosen (tabs.get? first.id).join (tabsOf desk.db first.id))
    (remembered : ∀ wid ∈ (first :: others).map (·.id), wid ≠ first.id →
      (tabs.get? wid).join = (tabsOf desk.db wid).head?)
    (concluded : desk.conclude
      (app.finishInit ((first :: others).map .ok) sessions tabs
        (some first.id)) rounds = some next) :
    next.record.Recalls := by
  cases conclude_returns concluded
  apply (stored.withApp _).record
  · obtain ⟨isOk, listed, typed, stocked, lists⟩ := mirrors
    exact ⟨isOk, listed, typed, stocked, lists⟩
  · rintro _ ⟨⟩
    exact ⟨mem_ids_ok.mpr ⟨.ok first, List.mem_cons_self, rfl⟩, rfl, chosen⟩
  · intro wid present inactive
    have different : wid ≠ first.id := fun same =>
      inactive (congrArg some same.symm)
    rw [ids_map_ok] at present
    have head := remembered wid present different
    simp only [AppState.remembered, lastActive, history, head]
    exact ⟨chosen_head _, rfl⟩

/-- The page that has loaded the list of every workspace. -/
theorem mirrors_of_lists
    {s : AppState}
    {db : Database}
    {workspaces : List Workspace}
    (shown : s.workspaces = .ok (workspaces.map .ok))
    (listed : ∀ wid, wid ∈ workspaces.map (·.id) ↔
      ∃ row ∈ db.workspaces, row.id = wid)
    (inside : ∀ wid ∈ workspaces.map (·.id), ∃ rows : List Session,
      s.sessions.get? wid = some (.ok (rows.map .ok)) ∧
        rows.map (·.id) = tabsOf db wid)
    (outside : ∀ wid, wid ∉ workspaces.map (·.id) →
      s.sessions.get? wid = none) :
    Mirrors s db := by
  constructor
  · rw [shown]
    trivial
  · intro wid
    rw [shown, ids_map_ok]
    exact listed wid
  · intro wid list entry
    by_cases present : wid ∈ workspaces.map (·.id)
    · obtain ⟨rows, held, -⟩ := inside wid present
      cases held.symm.trans entry
      exact ⟨rows, rfl⟩
    · cases (outside wid present).symm.trans entry
  · intro wid present
    rw [shown, ids_map_ok] at present
    obtain ⟨rows, held, -⟩ := inside wid present
    rw [held]
    rfl
  · intro wid present id
    rw [shown, ids_map_ok] at present
    obtain ⟨rows, held, same⟩ := inside wid present
    rw [sessionIds_of_get? held, ids_map_ok, same]

/-- `init` from the session lists on. -/
theorem Stored.initSessions
    {desk next : Desk}
    {app : App}
    {first : Workspace}
    {others : List Workspace}
    {lists : List (List Session)}
    {rounds : List (List Supply)}
    (stored : desk.Stored)
    (history : desk.history = [])
    (nodup : ((first :: others).map (·.id)).Nodup)
    (listed : ∀ wid, wid ∈ (first :: others).map (·.id) ↔
      ∃ row ∈ desk.db.workspaces, row.id = wid)
    (tabs : List.Forall₂
      (fun wid list => list.map (·.id) = tabsOf desk.db wid)
      ((first :: others).map (·.id)) lists)
    (concluded : desk.conclude
      (app.initSessions ((first :: others).map .ok)
        (lists.map fun list => .ok (list.map .ok))) rounds = some next) :
    next.record.Recalls := by
  obtain ⟨inside, outside⟩ := get?_tabulate_of_lists nodup tabs
  unfold App.initSessions at concluded
  generalize App.tabulate _ _ = tables at *
  obtain ⟨sessions, remembered⟩ := tables
  have mirrors : Mirrors
      { app.state with
        workspaces := .ok ((first :: others).map .ok)
        sessions := sessions } desk.db := by
    apply mirrors_of_lists rfl listed _ outside
    intro wid present
    obtain ⟨rows, held, same, -⟩ := inside wid present
    exact ⟨rows, held, same⟩
  obtain ⟨rows, held, same, tab⟩ := inside first.id List.mem_cons_self
  have wid : firstId Workspace.id (.ok ((first :: others).map .ok)) =
      some first.id := rfl
  simp only [wid, key, Option.getD_some, held] at concluded
  cases rows with
  | cons row rows =>
      apply stored.finishInit history ?_ ?_ ?_ concluded
      · exact mirrors
      · rw [tab]
        exact chosen_head _
      · intro wid present _
        obtain ⟨_, _, _, tab⟩ := inside wid present
        exact tab
  | nil =>
      have present := (listed first.id).mp List.mem_cons_self
      obtain ⟨after, row, here, db, kept, -, still, outcome, rest, resumed,
        concluded⟩ := stored.goesOn_createSession present concluded
      cases resumed
      have tabsHere (id : String) : id ∈ tabsOf after.db first.id ↔
          row.id = id := by
        rw [db, ← here]
        exact mem_tabsOf_createSession_of_nil (here ▸ same.symm)
      have tabsOthers (wid : String) (different : wid ≠ first.id) :
          tabsOf after.db wid = tabsOf desk.db wid := by
        rw [db]
        exact tabsOf_createSession_of_ne (here ▸ Ne.symm different)
      apply kept.finishInit (still.trans history) ?_ ?_ ?_ concluded
      · refine mirrors.setTabs [sessionJSON "" row] ?_ ?_ ?_ ?_ tabsOthers
        · rfl
        · rw [db]
        · rfl
        · intro id
          rw [tabsHere, List.map_singleton, List.mem_singleton, eq_comm]
          rfl
      · rw [Table.get?_set]
        simp only [key, Option.getD_some, if_true]
        exact (tabsHere row.id).mpr rfl
      · intro wid present different
        obtain ⟨_, _, _, tab⟩ := inside wid present
        rw [tabsOthers wid different, Table.get?_set_of_ne]
        · exact tab
        · exact Ne.symm different

/-- `init` from the workspaces on. -/
theorem Stored.loads
    {desk next : Desk}
    {rounds : List (List Supply)}
    (stored : desk.Stored)
    (history : desk.history = [])
    (first : Workspace)
    (others : List Workspace)
    (nodup : ((first :: others).map (·.id)).Nodup)
    (listed : ∀ wid, wid ∈ (first :: others).map (·.id) ↔
      ∃ row ∈ desk.db.workspaces, row.id = wid)
    (concluded : desk.conclude (App.listAll ((first :: others).map .ok))
      rounds = some next) :
    next.record.Recalls := by
  cases rounds with
  | nil => cases concluded
  | cons supplies rounds =>
      simp only [App.listAll, conclude] at concluded
      split at concluded
      · next served replies found =>
          have calls : ((first :: others).map Body.ok).map
              (fun w => Call.listSessions (key (w.field (·.id)))) =
                ((first :: others).map (·.id)).map .listSessions := by
            simp [Function.comp_def, key]
          rw [calls] at found
          obtain ⟨kept, app, same, db, lists, mapped, tabs⟩ :=
            stored.serveAll_lists found
          obtain ⟨outcome, resumed, concluded⟩ :=
            Option.bind_eq_some_iff.mp concluded
          have lengths : lists.length = (first :: others).length := by
            simpa using tabs.length_eq.symm
          simp only [App.resume, mapped, List.length_map, lengths, if_true,
            Option.some.injEq] at resumed
          rw [← db] at tabs listed
          exact kept.initSessions (same.trans history) nodup listed tabs
            (resumed ▸ concluded)
      · cases concluded

theorem Stored.opened
    {db : Database}
    (keyed : db.Keyed)
    (named : db.Unused "") :
    (opened db).Stored := by
  constructor
  · exact keyed
  · intro id absent
    simp only [Desk.opened, List.mem_cons, List.mem_append, List.mem_map,
      not_or, not_exists, not_and] at absent
    exact ⟨absent.2.1, absent.2.2⟩
  · exact named
  · exact List.mem_cons_self

theorem Stored.init
    {desk next : Desk}
    {rounds : List (List Supply)}
    (stored : desk.Stored)
    (history : desk.history = [])
    (concluded : desk.conclude (desk.app.start .init) rounds = some next) :
    next.record.Recalls := by
  obtain ⟨supply, outcome, rest, fresh, resumed, concluded⟩ :=
    conclude_awaits concluded
  have served : (desk.served supply .listWorkspaces).Stored :=
    stored.served fresh stored.keyed
  have names : (desk.db.listWorkspaces.map workspaceJSON).map (·.id) =
      desk.db.listWorkspaces.map (·.id) := by
    rw [List.map_map]
    rfl
  have perm : desk.db.listWorkspaces.Perm desk.db.workspaces :=
    List.perm_insertionSort _ _
  have nodup : ((desk.db.listWorkspaces.map workspaceJSON).map
      (·.id)).Nodup := by
    rw [names]
    exact (perm.map _).nodup_iff.mpr stored.keyed.workspaceIds
  have response : listWorkspaces desk.db =
      writeJSON 200 ⟨desk.db.listWorkspaces.map workspaceJSON, nodup⟩ :=
    dif_pos nodup
  obtain ⟨_, sameReply, continues⟩ := App.resume_continues resumed
  cases sameReply
  rw [response] at continues
  rcases continues with ⟨⟨_, wrong⟩, _⟩ | ⟨⟨_, none⟩, rfl⟩ |
    ⟨list, sent, nonempty, rfl⟩
  · cases wrong
  · -- The database is empty.
    have empty : desk.db.workspaces = [] := by
      have rows := congrArg WorkspaceList.rows (Body.ok.inj none)
      have nil : desk.db.listWorkspaces = [] := List.map_eq_nil_iff.mp rows
      rw [nil] at perm
      exact perm.nil_eq.symm
    obtain ⟨after, row, unused, db, kept, -, still, _, rest, resumed,
      concluded⟩ := served.goesOn_createWorkspace (by decide) concluded
    cases resumed
    apply kept.loads (still.trans history) (workspaceJSON row) [] ?_ ?_
      concluded
    · simp
    · intro wid
      rw [db]
      simp [Desk.served, answer, empty, workspaceJSON, eq_comm]
  · have rows : list.rows = desk.db.listWorkspaces.map workspaceJSON :=
      (congrArg WorkspaceList.rows (Body.ok.inj sent)).symm
    rw [rows] at concluded nonempty
    have listed (wid : String) :
        wid ∈ (desk.db.listWorkspaces.map workspaceJSON).map (·.id) ↔
          ∃ row ∈ desk.db.workspaces, row.id = wid := by
      rw [names, (perm.map _).mem_iff, List.mem_map]
    cases all : desk.db.listWorkspaces.map workspaceJSON with
    | nil => exact absurd all nonempty
    | cons first others =>
        rw [all] at concluded nodup listed
        exact served.loads history first others nodup listed concluded

/-! ## Whole runs -/

theorem Recalls.step
    {desk next : Desk}
    {turn : Turn}
    (recalls : desk.Recalls)
    (loaded : desk.history ≠ [])
    (stepped : desk.step turn = some next) :
    next.Recalls := by
  obtain ⟨operation, rounds⟩ := turn
  simp only [Desk.step] at stepped
  split at stepped
  · next permitted =>
      obtain ⟨after, concluded, rfl⟩ := Option.map_eq_some_iff.mp stepped
      cases operation with
      | init => exact absurd permitted loaded
      | createWorkspace name =>
          exact recalls.createWorkspace permitted.2 concluded
      | deleteWorkspace id => exact recalls.deleteWorkspace concluded
      | setActiveWorkspace id =>
          exact recalls.setActiveWorkspace permitted.2 concluded
      | pollActive => exact recalls.pollActive concluded
      | createSession wid title =>
          exact recalls.createSession permitted.2 concluded
      | deleteSession id => exact recalls.deleteSession permitted.2 concluded
      | setActiveSession id =>
          exact recalls.setActiveSession permitted.2 concluded
      | fetchWorkspaces | renameWorkspace | fetchSessions | renameSession =>
          exact permitted.elim
  · cases stepped

/-- What the calls bring along in the run below. -/
def supply (fresh : String) : Supply := ⟨fresh, 0, fun _ => ""⟩

end Desk
end Client
end LociTerm
