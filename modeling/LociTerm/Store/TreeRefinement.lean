import LociTerm.Store.Tree

/-!
# The tables refine the tree

Every call keeps the rows in the order of their sort orders, and does to the
tree that the tables hold what the call on the tree does.
-/

namespace LociTerm
namespace Store
namespace Database

variable {db next : Database}

/-! ## What the calls do to the tree -/

/-- No session refers to a workspace that is absent. -/
theorem Ordered.filter_eq_nil
    {id : String}
    (ordered : db.Ordered)
    (absent : ∀ row ∈ db.workspaces, row.id ≠ id) :
    db.sessions.filter (·.workspaceID = id) = [] := by
  rw [List.filter_eq_nil_iff]
  intro row member here
  obtain ⟨workspace, there, same⟩ := ordered.references row member
  simp only [decide_eq_true_eq] at here
  exact absent workspace there (same.trans here)

theorem Ordered.createWorkspace
    {id name : String}
    {now : Nat}
    (ordered : db.Ordered)
    (created : db.createWorkspace id name now = some next) :
    next.Ordered ∧ next.tree = db.tree.createWorkspace id name now := by
  unfold Database.createWorkspace at created
  split at created
  · cases created
  · rename_i unused
    cases created
    have absent : ∀ row ∈ db.workspaces, row.id ≠ id := by
      simpa using unused
    constructor
    · exact
        { workspaceIds := by
            rw [List.map_append, List.nodup_append]
            refine ⟨ordered.workspaceIds, List.nodup_singleton _, ?_⟩
            rintro _ member _ last rfl
            obtain ⟨row, there, same⟩ := List.mem_map.mp member
            exact absent row there (same.trans (List.mem_singleton.mp last))
          workspaceOrder := by
            rw [List.pairwise_append]
            refine ⟨ordered.workspaceOrder, List.pairwise_singleton _ _, ?_⟩
            intro row member other last
            rw [List.mem_singleton.mp last]
            exact lt_maxOrder_add_one (List.mem_map_of_mem member)
          sessionIds := ordered.sessionIds
          sessionOrder := ordered.sessionOrder
          references := fun row member =>
            (ordered.references row member).imp fun workspace there =>
              ⟨List.mem_append_left _ there.1, there.2⟩ }
    · simp only [tree, Tree.createWorkspace, List.map_append, List.map_singleton,
        node, ordered.filter_eq_nil absent, List.map_nil]
      rfl

theorem Ordered.updateWorkspace
    (ordered : db.Ordered)
    (id name : String)
    (now : Nat) :
    (db.updateWorkspace id name now).1.Ordered ∧
      (db.updateWorkspace id name now).1.tree =
        db.tree.updateWorkspace id name now := by
  have kept : ∀ row : Workspace,
      (if row.id = id then { row with name := name, updatedAt := now } else row).id =
        row.id := by
    intro row
    split <;> rfl
  have order : ∀ row : Workspace,
      (if row.id = id then { row with name := name, updatedAt := now }
        else row).sortOrder = row.sortOrder := by
    intro row
    split <;> rfl
  constructor
  · exact
      { workspaceIds := by
          simpa [Database.updateWorkspace, List.map_map, Function.comp_def, kept]
            using ordered.workspaceIds
        workspaceOrder := by
          simpa [Database.updateWorkspace, List.pairwise_map, order]
            using ordered.workspaceOrder
        sessionIds := ordered.sessionIds
        sessionOrder := ordered.sessionOrder
        references := by
          intro row member
          obtain ⟨workspace, there, same⟩ := ordered.references row member
          exact ⟨_, List.mem_map_of_mem there, (kept workspace).trans same⟩ }
  · simp only [tree, Tree.updateWorkspace, Database.updateWorkspace, List.map_map]
    refine List.map_congr_left fun row _ => ?_
    by_cases named : row.id = id
    · simp [node, named]
    · simp [node, named]

theorem Ordered.deleteWorkspace (ordered : db.Ordered) (id : String) :
    (db.deleteWorkspace id).Ordered ∧
      (db.deleteWorkspace id).tree = db.tree.deleteWorkspace id := by
  constructor
  · exact
      { workspaceIds := ordered.workspaceIds.sublist (List.filter_sublist.map _)
        workspaceOrder := ordered.workspaceOrder.sublist List.filter_sublist
        sessionIds := ordered.sessionIds.sublist (List.filter_sublist.map _)
        sessionOrder := ordered.sessionOrder.sublist List.filter_sublist
        references := by
          intro row member
          obtain ⟨before, other⟩ := List.mem_filter.mp member
          obtain ⟨workspace, there, same⟩ := ordered.references row before
          refine ⟨workspace, List.mem_filter.mpr ⟨there, ?_⟩, same⟩
          rw [same]
          exact other }
  · simp only [tree, Tree.deleteWorkspace, Database.deleteWorkspace, List.filter_map]
    refine (List.map_congr_left fun row member => ?_).trans rfl
    have other : row.id ≠ id := by simpa using (List.mem_filter.mp member).2
    simp only [node, List.filter_filter, WorkspaceNode.mk.injEq, true_and]
    refine congrArg _ (List.filter_congr fun session _ => ?_)
    by_cases here : session.workspaceID = row.id
    · simp [here, other]
    · simp [here]

theorem Ordered.createSession
    {id workspaceID title : String}
    {now : Nat}
    (ordered : db.Ordered)
    (created : db.createSession id workspaceID title now = some next) :
    next.Ordered ∧ next.tree = db.tree.createSession id workspaceID
      (if title = "" then "Terminal" else title) now := by
  unfold Database.createSession at created
  split at created
  · cases created
  · rename_i works
    cases created
    simp only [Bool.or_eq_true, List.any_eq_true, beq_iff_eq, Bool.not_eq_true',
      not_or, not_exists, not_and, Bool.not_eq_false] at works
    obtain ⟨absent, workspace, there, same⟩ := works
    constructor
    · exact
        { workspaceIds := ordered.workspaceIds
          workspaceOrder := ordered.workspaceOrder
          sessionIds := by
            rw [List.map_append, List.nodup_append]
            refine ⟨ordered.sessionIds, List.nodup_singleton _, ?_⟩
            rintro _ member _ last rfl
            obtain ⟨row, listed, named⟩ := List.mem_map.mp member
            exact absent row listed (named.trans (List.mem_singleton.mp last))
          sessionOrder := by
            rw [List.pairwise_append]
            refine ⟨ordered.sessionOrder, List.pairwise_singleton _ _, ?_⟩
            intro row member other last sibling
            rw [List.mem_singleton.mp last] at sibling ⊢
            refine lt_maxOrder_add_one (List.mem_map_of_mem
              (List.mem_filter.mpr ⟨member, ?_⟩))
            simpa using sibling
          references := by
            intro row member
            rcases List.mem_append.mp member with before | last
            · exact ordered.references row before
            · rw [List.mem_singleton.mp last]
              exact ⟨workspace, there, same⟩ }
    · simp only [tree, Tree.createSession, List.map_map]
      refine List.map_congr_left fun row _ => ?_
      simp only [Function.comp_apply, node, List.filter_append, List.map_append]
      by_cases here : row.id = workspaceID
      · simp [here, Session.node]
      · simp [here, Ne.symm here]

theorem Ordered.updateSession
    (ordered : db.Ordered)
    (id title : String)
    (now : Nat) :
    (db.updateSession id title now).1.Ordered ∧
      (db.updateSession id title now).1.tree =
        db.tree.updateSession id title now := by
  have kept : ∀ row : Session,
      (if row.id = id then { row with title := title, updatedAt := now } else row).id =
        row.id := by
    intro row
    split <;> rfl
  have order : ∀ row : Session,
      (if row.id = id then { row with title := title, updatedAt := now }
        else row).sortOrder = row.sortOrder := by
    intro row
    split <;> rfl
  have parent : ∀ row : Session,
      (if row.id = id then { row with title := title, updatedAt := now }
        else row).workspaceID = row.workspaceID := by
    intro row
    split <;> rfl
  constructor
  · exact
      { workspaceIds := ordered.workspaceIds
        workspaceOrder := ordered.workspaceOrder
        sessionIds := by
          simpa [Database.updateSession, List.map_map, Function.comp_def, kept]
            using ordered.sessionIds
        sessionOrder := by
          simpa [Database.updateSession, List.pairwise_map, order, parent]
            using ordered.sessionOrder
        references := by
          intro row member
          obtain ⟨old, before, -, same⟩ := mem_updateSession member
          rw [← same]
          exact ordered.references old before }
  · simp only [tree, Tree.updateSession, Database.updateSession, List.map_map]
    refine List.map_congr_left fun row _ => ?_
    simp only [Function.comp_apply, node, List.filter_map, List.map_map,
      WorkspaceNode.mk.injEq, true_and, Function.comp_def, parent]
    refine List.map_congr_left fun session _ => ?_
    by_cases named : session.id = id
    · simp [Session.node, named]
    · simp [Session.node, named]

theorem Ordered.deleteSession (ordered : db.Ordered) (id : String) :
    (db.deleteSession id).Ordered ∧
      (db.deleteSession id).tree = db.tree.deleteSession id := by
  constructor
  · exact
      { workspaceIds := ordered.workspaceIds
        workspaceOrder := ordered.workspaceOrder
        sessionIds := ordered.sessionIds.sublist (List.filter_sublist.map _)
        sessionOrder := ordered.sessionOrder.sublist List.filter_sublist
        references := fun row member =>
          ordered.references row (List.mem_filter.mp member).1 }
  · simp only [tree, Tree.deleteSession, Database.deleteSession, List.map_map]
    refine List.map_congr_left fun row _ => ?_
    simp only [Function.comp_apply, node, List.filter_filter, List.filter_map,
      Function.comp_def, WorkspaceNode.mk.injEq, true_and]
    refine congrArg _ (List.filter_congr fun session _ => ?_)
    rw [Bool.and_comm]
    rfl

/-! ## The answers -/

/-- No row of either table has this id. -/
def Unused (db : Database) (id : String) : Prop :=
  (∀ row ∈ db.workspaces, row.id ≠ id) ∧ ∀ row ∈ db.sessions, row.id ≠ id

/-- The ids that the calls draw are fresh. -/
def Fresh (db : Database) (calls : List StoreCall) : Prop :=
  (calls.filterMap StoreCall.drawn).Nodup ∧
    ∀ id ∈ calls.filterMap StoreCall.drawn, db.Unused id

theorem fresh_empty
    {calls : List StoreCall}
    (distinct : (calls.filterMap StoreCall.drawn).Nodup) :
    empty.Fresh calls :=
  ⟨distinct, fun _ _ => ⟨nofun, nofun⟩⟩

/-- A call leaves the ids unused that it does not draw. -/
theorem unused_serve
    {call : StoreCall}
    {id : String}
    (unused : db.Unused id)
    (other : call.drawn ≠ some id) :
    (db.serve call).1.Unused id := by
  obtain ⟨noWorkspace, noSession⟩ := unused
  cases call with
  | listWorkspaces | getWorkspace | listSessions | getSession =>
      exact ⟨noWorkspace, noSession⟩
  | createWorkspace fresh name now =>
      have different : fresh ≠ id := fun same => other (congrArg some same)
      simp only [serve, Database.createWorkspace]
      split
      · exact ⟨noWorkspace, noSession⟩
      · rename_i next created
        split at created <;> cases created
        refine ⟨fun row member => ?_, noSession⟩
        rcases List.mem_append.mp member with before | last
        · exact noWorkspace row before
        · rw [List.mem_singleton.mp last]
          exact different
  | updateWorkspace target name now =>
      refine ⟨fun row member => ?_, noSession⟩
      obtain ⟨old, before, rfl⟩ := List.mem_map.mp member
      have absent := noWorkspace old before
      split <;> exact absent
  | deleteWorkspace target =>
      exact ⟨fun row member => noWorkspace row (List.mem_filter.mp member).1,
        fun row member => noSession row (List.mem_filter.mp member).1⟩
  | createSession fresh workspaceID title now =>
      have different : fresh ≠ id := fun same => other (congrArg some same)
      simp only [serve]
      split
      · exact ⟨noWorkspace, noSession⟩
      · rename_i next created
        obtain ⟨-, sameWorkspaces, -, row, named, -, sessions⟩ :=
          createSession_eq_some created
        refine ⟨sameWorkspaces ▸ noWorkspace, fun session member => ?_⟩
        rw [sessions] at member
        rcases List.mem_append.mp member with before | last
        · exact noSession session before
        · rw [List.mem_singleton.mp last, named]
          exact different
  | updateSession target title now =>
      refine ⟨noWorkspace, fun row member => ?_⟩
      obtain ⟨old, before, same, -⟩ := mem_updateSession member
      rw [← same]
      exact noSession old before
  | deleteSession target =>
      exact ⟨noWorkspace, fun row member =>
        noSession row (List.mem_filter.mp member).1⟩

/-- What an update by a key makes of the row with that key. -/
theorem find?_map_update
    {Row : Type}
    (key : Row → String)
    (change : Row → Row)
    (keeps : ∀ row, key (change row) = key row)
    (rows : List Row)
    (id : String) :
    (rows.map fun row => if key row = id then change row else row).find?
        (key · = id) =
      (rows.find? (key · = id)).map change := by
  induction rows with
  | nil => rfl
  | cons row rows inductionHypothesis =>
      by_cases named : key row = id
      · simp [named, keeps]
      · simpa [named] using inductionHypothesis

/-- The updated workspace is the old one with the new name. -/
theorem getWorkspace_updateWorkspace
    (db : Database)
    (id name : String)
    (now : Nat) :
    (db.updateWorkspace id name now).2 =
      (db.getWorkspace id).map fun old =>
        { old with name := name, updatedAt := now } :=
  find?_map_update Workspace.id
    (fun old => { old with name := name, updatedAt := now }) (fun _ => rfl)
    db.workspaces id

/-- The updated session is the old one with the new title. -/
theorem getSession_updateSession
    (db : Database)
    (id title : String)
    (now : Nat) :
    (db.updateSession id title now).2 =
      (db.getSession id).map fun old =>
        { old with title := title, updatedAt := now } :=
  find?_map_update Session.id
    (fun old => { old with title := title, updatedAt := now }) (fun _ => rfl)
    db.sessions id

/-- An update of an absent workspace changes nothing. -/
theorem Tree.updateWorkspace_of_absent
    {tree : Tree}
    {id : String}
    (absent : tree.getWorkspace id = none)
    (name : String)
    (now : Nat) :
    tree.updateWorkspace id name now = tree := by
  rw [Tree.getWorkspace, List.find?_eq_none] at absent
  refine (List.map_congr_left fun node member => ?_).trans (List.map_id tree)
  have different := absent node.info (List.mem_map_of_mem member)
  exact if_neg fun same => different (decide_eq_true same)

/-- An update of an absent session changes nothing. -/
theorem Tree.updateSession_of_absent
    {tree : Tree}
    {id : String}
    (absent : tree.getSession id = none)
    (title : String)
    (now : Nat) :
    tree.updateSession id title now = tree := by
  rw [Tree.getSession, List.find?_eq_none] at absent
  refine (List.map_congr_left fun node member => ?_).trans (List.map_id tree)
  have same : (node.sessions.map fun session =>
      if session.id = id then { session with title := title, updatedAt := now }
      else session) = node.sessions := by
    refine (List.map_congr_left fun session listed => ?_).trans
      (List.map_id node.sessions)
    have different := absent (session.info node.id)
      (List.mem_flatMap.mpr ⟨node, member, List.mem_map_of_mem listed⟩)
    exact if_neg fun same => different (decide_eq_true same)
  rw [same]
  rfl

/-- Every call on ordered tables answers as the call on their tree does. -/
theorem serve_simulates
    {call : StoreCall}
    (ordered : db.Ordered)
    (fresh : ∀ id, call.drawn = some id → db.Unused id) :
    (db.serve call).2 = (Tree.serve db.tree call).2 ∧
      (db.serve call).1.tree = (Tree.serve db.tree call).1 ∧
      (db.serve call).1.Ordered := by
  cases call with
  | listWorkspaces =>
      refine ⟨?_, rfl, ordered⟩
      rw [serve, Tree.serve, ordered.listWorkspaces, listWorkspaces_tree]
  | getWorkspace id =>
      refine ⟨?_, rfl, ordered⟩
      rw [serve, Tree.serve, getWorkspace_tree]
  | createWorkspace id name now =>
      obtain ⟨unused, -⟩ := fresh id rfl
      have works : ∃ next, db.createWorkspace id name now = some next := by
        rw [Database.createWorkspace, if_neg (by simpa using unused)]
        exact ⟨_, rfl⟩
      obtain ⟨next, created⟩ := works
      obtain ⟨onward, same⟩ := ordered.createWorkspace created
      simp only [serve, created]
      exact ⟨rfl, same, onward⟩
  | updateWorkspace id name now =>
      obtain ⟨onward, same⟩ := ordered.updateWorkspace id name now
      have answer := getWorkspace_updateWorkspace db id name now
      have before := getWorkspace_tree db id
      cases found : db.getWorkspace id with
      | none =>
          rw [found] at before answer
          simp only [serve, Tree.serve, before, answer, Option.map_none]
          exact ⟨trivial, same.trans (Tree.updateWorkspace_of_absent before name now),
            onward⟩
      | some old =>
          rw [found] at before answer
          simp only [serve, Tree.serve, before, answer, Option.map_some]
          exact ⟨rfl, same, onward⟩
  | deleteWorkspace id =>
      obtain ⟨onward, same⟩ := ordered.deleteWorkspace id
      exact ⟨rfl, same, onward⟩
  | listSessions workspaceID =>
      refine ⟨?_, rfl, ordered⟩
      rw [serve, Tree.serve, ordered.listSessions_tree]
  | getSession id =>
      refine ⟨?_, rfl, ordered⟩
      rw [serve, Tree.serve, ordered.getSession_tree]
  | createSession id workspaceID title now =>
      obtain ⟨-, unused⟩ := fresh id rfl
      have before := getWorkspace_tree db workspaceID
      cases found : db.getWorkspace workspaceID with
      | none =>
          rw [found] at before
          rw [Database.getWorkspace, List.find?_eq_none] at found
          have refused : db.createSession id workspaceID title now = none := by
            rw [Database.createSession, if_pos]
            simpa using Or.inr found
          simp only [serve, Tree.serve, before, refused, Option.map_none]
          exact ⟨trivial, trivial, ordered⟩
      | some row =>
          rw [found] at before
          have member := List.mem_of_find?_eq_some found
          have named : row.id = workspaceID := by simpa using List.find?_some found
          have works : ∃ next,
              db.createSession id workspaceID title now = some next := by
            rw [Database.createSession, if_neg]
            · exact ⟨_, rfl⟩
            · simpa using ⟨unused, row, member, named⟩
          obtain ⟨next, created⟩ := works
          obtain ⟨onward, same⟩ := ordered.createSession created
          simp only [serve, Tree.serve, before, created, Option.map_some]
          exact ⟨trivial, same, onward⟩
  | updateSession id title now =>
      obtain ⟨onward, same⟩ := ordered.updateSession id title now
      have answer := getSession_updateSession db id title now
      have before := ordered.getSession_tree id
      cases found : db.getSession id with
      | none =>
          rw [found] at before answer
          simp only [serve, Tree.serve, before, answer, Option.map_none]
          exact ⟨trivial, same.trans (Tree.updateSession_of_absent before title now),
            onward⟩
      | some old =>
          rw [found] at before answer
          simp only [serve, Tree.serve, before, answer, Option.map_some]
          exact ⟨rfl, same, onward⟩
  | deleteSession id =>
      obtain ⟨onward, same⟩ := ordered.deleteSession id
      exact ⟨rfl, same, onward⟩

theorem Fresh.cons
    {call : StoreCall}
    {calls : List StoreCall}
    (fresh : db.Fresh (call :: calls)) :
    (∀ id, call.drawn = some id → db.Unused id) ∧
      (db.serve call).1.Fresh calls := by
  obtain ⟨distinct, unused⟩ := fresh
  have others : ∀ id ∈ calls.filterMap StoreCall.drawn, call.drawn ≠ some id := by
    intro id member drawn
    rw [List.filterMap_cons_some drawn, List.nodup_cons] at distinct
    exact distinct.1 member
  have rest : (calls.filterMap StoreCall.drawn).Nodup :=
    distinct.sublist ((List.sublist_cons_self call calls).filterMap _)
  refine ⟨fun id drawn => unused id ?_, rest, fun id member => ?_⟩
  · exact List.mem_filterMap.mpr ⟨call, by simp, drawn⟩
  · refine unused_serve (unused id ?_) (others id member)
    exact ((List.sublist_cons_self call calls).filterMap _).subset member

theorem perform_step
    (db : Database)
    (model : Tree)
    (call : StoreCall)
    (calls : List StoreCall)
    (fresh : db.Fresh (call :: calls))
    (related : db.Ordered ∧ db.tree = model) :
    (db.serve call).2 = (Tree.serve model call).2 ∧
      ((db.serve call).1.Ordered ∧
        (db.serve call).1.tree = (Tree.serve model call).1) ∧
      (db.serve call).1.Fresh calls := by
  obtain ⟨ordered, rfl⟩ := related
  obtain ⟨unused, later⟩ := fresh.cons
  obtain ⟨answer, same, onward⟩ := serve_simulates ordered unused
  exact ⟨answer, ⟨onward, same⟩, later⟩

/-- From the empty database on, every sequence of calls with fresh ids is
answered as by the ordered tree, and the tables hold that tree. -/
theorem perform_eq_tree
    {calls : List StoreCall}
    (distinct : (calls.filterMap StoreCall.drawn).Nodup) :
    (perform serve empty calls).2 = (perform Tree.serve [] calls).2 ∧
      (perform serve empty calls).1.tree = (perform Tree.serve [] calls).1 := by
  obtain ⟨answers, -, final⟩ := perform_simulates perform_step
    (fresh_empty distinct) ⟨ordered_empty, rfl⟩
  exact ⟨answers, final⟩

/-- Two workspaces and a session; the first workspace is deleted, and a session
is refused in it. -/
def someCalls : List StoreCall :=
  [.createWorkspace "a" "A" 1, .createWorkspace "b" "B" 2,
    .createSession "c" "b" "" 3, .deleteWorkspace "a",
    .createSession "d" "a" "" 4, .listWorkspaces, .listSessions "b"]

theorem perform_eq_tree_someCalls :
    (perform serve empty someCalls).2 = (perform Tree.serve [] someCalls).2 ∧
      (perform serve empty someCalls).1.tree =
        (perform Tree.serve [] someCalls).1 :=
  perform_eq_tree (by decide)

end Database
end Store
end LociTerm
