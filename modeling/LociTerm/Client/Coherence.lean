import LociTerm.Client.Browser
import LociTerm.Client.Listing
import LociTerm.Library.Run

/-!
# The references of the app store

The active ids and the remembered tabs refer to workspaces and sessions that
the store lists.  This holds as long as a new session arrives while its
workspace is active, a polled list still has the tabs that the store remembers,
and a session is activated only in the active workspace.
-/

namespace LociTerm
namespace Client

/-- Every remembered tab is listed in its workspace. -/
def Remembers
    (sessions : Table String (Records Session))
    (activeSessionByWorkspace : Table String (Option String)) : Prop :=
  ∀ wid entry, activeSessionByWorkspace.get? wid = some entry →
    ∃ id ∈ sessionIds sessions wid, entry = some id

/-- The references of the state. -/
structure AppState.Coherent (s : AppState) : Prop where
  activeWorkspace : ∀ wid, s.activeWorkspaceId = some wid →
    wid ∈ ids (·.id) s.workspaces
  activeSession : ∀ id, s.activeSessionId = some id →
    ∃ wid, s.activeWorkspaceId = some wid ∧ id ∈ sessionIds s.sessions wid
  remembered : Remembers s.sessions s.activeSessionByWorkspace

/-- A coherent state with a session list for every listed workspace. -/
structure AppState.Sound (s : AppState) : Prop extends s.Coherent where
  stocked : ∀ wid ∈ ids (·.id) s.workspaces, (s.sessions.get? wid).isSome

/-- What an operation under way has found out so far. -/
def Pending.Sound : Pending → Prop
  | .initSessions workspaces =>
      ∃ rows : List Workspace, workspaces = rows.map .ok ∧
        (rows.map (·.id)).Nodup
  | .initSession workspaces sessions activeSessionByWorkspace wid =>
      Remembers sessions activeSessionByWorkspace ∧
        (∀ id ∈ ids (·.id) (.ok workspaces), (sessions.get? id).isSome) ∧
        ∃ id ∈ ids (·.id) (.ok workspaces), wid = some id
  | .createWorkspaceSession ws => ws.IsOk
  | .fetchWorkspaces | .renameWorkspace _ | .setActiveWorkspace _
  | .fetchSessions _ | .renameSession _ => False
  | .initWorkspaces | .initDefault | .createWorkspace | .deleteWorkspace _
  | .pollActive _ | .createSession _ | .deleteSession _ => True

/-- Where an operation comes to. -/
def Outcome.Sound : Outcome → Prop
  | .awaits flight => flight.pending.Sound
  | .returns app => app.state.Sound
  | .throws app => app.state.Sound

/-! ## Remembered tabs -/

theorem Remembers.empty : Remembers Table.empty Table.empty := by
  intro wid entry found
  cases found

/-- Assigning a list keeps the tab of its workspace if the list has it. -/
theorem Remembers.set
    {sessions : Table String (Records Session)}
    {tabs : Table String (Option String)}
    {wid : String}
    {list : Records Session}
    (remembers : Remembers sessions tabs)
    (kept : ∀ entry, tabs.get? wid = some entry →
      ∃ id ∈ ids (·.id) list, entry = some id) :
    Remembers (sessions.set wid list) tabs := by
  intro other entry found
  rw [sessionIds_set]
  split
  · next same =>
      subst same
      exact kept entry found
  · exact remembers other entry found

/-- Assigning a list and one of its ids as the tab. -/
theorem Remembers.setBoth
    {sessions : Table String (Records Session)}
    {tabs : Table String (Option String)}
    {wid id : String}
    {list : Records Session}
    (remembers : Remembers sessions tabs)
    (member : id ∈ ids (·.id) list) :
    Remembers (sessions.set wid list) (tabs.set wid (some id)) := by
  intro other entry found
  rw [Table.get?_set] at found
  rw [sessionIds_set]
  split at found
  · next same =>
      cases found
      rw [if_pos same]
      exact ⟨id, member, rfl⟩
  · next different =>
      rw [if_neg different]
      exact remembers other entry found

/-- Assigning a list and forgetting its tab. -/
theorem Remembers.setErase
    {sessions : Table String (Records Session)}
    {tabs : Table String (Option String)}
    {wid : String}
    {list : Records Session}
    (remembers : Remembers sessions tabs) :
    Remembers (sessions.set wid list) (tabs.erase wid) := by
  intro other entry found
  rw [Table.get?_erase] at found
  rw [sessionIds_set]
  split at found
  · cases found
  · next different =>
      rw [if_neg different]
      exact remembers other entry found

theorem Remembers.erase
    {sessions : Table String (Records Session)}
    {tabs : Table String (Option String)}
    (remembers : Remembers sessions tabs)
    (wid : String) :
    Remembers (sessions.erase wid) (tabs.erase wid) := by
  intro other entry found
  rw [Table.get?_erase] at found
  rw [sessionIds_erase]
  split at found
  · cases found
  · next different =>
      rw [if_neg different]
      exact remembers other entry found

/-- The remembered tab of a workspace is listed. -/
theorem Remembers.mem
    {sessions : Table String (Records Session)}
    {tabs : Table String (Option String)}
    {wid id : String}
    (remembers : Remembers sessions tabs)
    (found : (tabs.get? wid).join = some id) :
    id ∈ sessionIds sessions wid := by
  rw [Option.join_eq_some_iff] at found
  obtain ⟨other, member, equal⟩ := remembers wid (some id) found
  cases equal
  exact member

/-! ## `init` -/

/-- Every record of the list is one. -/
def Typed {α : Type} (list : Records α) : Prop :=
  ∀ records, list = .ok records → ∀ record ∈ records, record.IsOk

/-- The tables that `init` builds remember what they list. -/
theorem tabulate_remembers
    {pairs : List (Body Workspace × Records Session)}
    {sessions : Table String (Records Session)}
    {tabs : Table String (Option String)}
    (nodup : (pairs.map fun pair => key (pair.1.field (·.id))).Nodup)
    (fresh : ∀ pair ∈ pairs, tabs.get? (key (pair.1.field (·.id))) = none)
    (typed : ∀ pair ∈ pairs, Typed pair.2)
    (remembers : Remembers sessions tabs) :
    Remembers (App.tabulate pairs (sessions, tabs)).1
      (App.tabulate pairs (sessions, tabs)).2 := by
  induction pairs generalizing sessions tabs with
  | nil => exact remembers
  | cons pair rest inductionHypothesis =>
      obtain ⟨w, list⟩ := pair
      obtain ⟨unrepeated, nodup⟩ := List.nodup_cons.mp nodup
      have absent := fresh (w, list) List.mem_cons_self
      have others (other : Body Workspace × Records Session)
          (member : other ∈ rest) :
          key (w.field (·.id)) ≠ key (other.1.field (·.id)) := by
        intro same
        exact unrepeated (List.mem_map.mpr ⟨other, member, same.symm⟩)
      unfold App.tabulate
      apply inductionHypothesis nodup
      · intro other member
        have later := fresh other (List.mem_cons_of_mem _ member)
        split
        · rw [Table.get?_set_of_ne _ _ (others other member)]
          exact later
        · exact later
      · exact fun other member => typed other (List.mem_cons_of_mem _ member)
      · split
        · next first records =>
            have recorded := typed (w, _) List.mem_cons_self _ rfl first
              List.mem_cons_self
            cases first with
            | error message => exact absurd recorded (by simp)
            | ok session =>
                exact remembers.setBoth
                  (mem_ids_ok.mpr ⟨_, List.mem_cons_self, rfl⟩)
        · apply remembers.set
          intro entry found
          rw [absent] at found
          cases found

/-- Every workspace gets its list. -/
theorem tabulate_stocked
    {pairs : List (Body Workspace × Records Session)}
    {sessions : Table String (Records Session)}
    {tabs : Table String (Option String)}
    {wid : String}
    (present : (sessions.get? wid).isSome ∨
      wid ∈ pairs.map fun pair => key (pair.1.field (·.id))) :
    ((App.tabulate pairs (sessions, tabs)).1.get? wid).isSome := by
  induction pairs generalizing sessions tabs with
  | nil => simpa [App.tabulate] using present
  | cons pair rest inductionHypothesis =>
      obtain ⟨w, list⟩ := pair
      unfold App.tabulate
      apply inductionHypothesis
      rw [Table.get?_set]
      rcases present with present | present
      · split
        · exact Or.inl rfl
        · exact Or.inl present
      · rcases List.mem_cons.mp present with rfl | present
        · exact Or.inl (by simp)
        · exact Or.inr present

theorem finishInit_sound
    {app : App}
    {workspaces : List (Body Workspace)}
    {sessions : Table String (Records Session)}
    {tabs : Table String (Option String)}
    {wid : Option String}
    (remembers : Remembers sessions tabs)
    (stocked : ∀ id ∈ ids (·.id) (.ok workspaces),
      (sessions.get? id).isSome)
    (first : ∃ id ∈ ids (·.id) (.ok workspaces), wid = some id) :
    (app.finishInit workspaces sessions tabs wid).Sound := by
  obtain ⟨id, member, rfl⟩ := first
  refine ⟨⟨?_, ?_, remembers⟩, stocked⟩
  · rintro _ ⟨⟩
    exact member
  · intro session active
    exact ⟨id, rfl, remembers.mem active⟩

theorem initSessions_sound
    {app : App}
    {rows : List Workspace}
    {lists : List (Records Session)}
    (sound : app.state.Sound)
    (nodup : (rows.map (·.id)).Nodup)
    (typed : ∀ list ∈ lists, Typed list)
    (lengths : lists.length = rows.length) :
    (app.initSessions (rows.map .ok) lists).Sound := by
  let pairs := (rows.map Body.ok).zip lists
  have keys : pairs.map (fun pair => key (pair.1.field (·.id))) =
      rows.map (·.id) := by
    rw [keys_zip (by simp [lengths]), List.map_map]
    rfl
  have remembers :
      Remembers (App.tabulate pairs (Table.empty, Table.empty)).1
        (App.tabulate pairs (Table.empty, Table.empty)).2 := by
    apply tabulate_remembers
    · rwa [keys]
    · exact fun _ _ => Table.get?_empty _
    · exact fun pair member => typed _ (List.of_mem_zip member).2
    · exact Remembers.empty
  have stocked : ∀ id ∈ ids (·.id) (.ok (rows.map .ok)),
      ((App.tabulate pairs (Table.empty, Table.empty)).1.get? id).isSome := by
    intro id member
    apply tabulate_stocked
    rw [keys, ← ids_map_ok]
    exact Or.inr member
  unfold App.initSessions
  cases rows with
  | nil => exact sound
  | cons row rest =>
      have first : ∃ id ∈ ids (·.id) (.ok ((row :: rest).map .ok)),
          firstId Workspace.id (.ok ((row :: rest).map .ok)) = some id :=
        ⟨row.id, mem_ids_ok.mpr ⟨.ok row, List.mem_cons_self, rfl⟩, rfl⟩
      simp only
      split
      · exact sound
      · exact ⟨remembers, stocked, first⟩
      · exact finishInit_sound remembers stocked first

/-! ## The operations -/

theorem finishCreateWorkspace_sound
    {app : App}
    {ws : Body Workspace}
    {sess : Body Session}
    (sound : app.state.Sound)
    (wsOk : ws.IsOk)
    (sessOk : sess.IsOk) :
    (app.finishCreateWorkspace ws sess).Sound := by
  cases ws with
  | error message => exact absurd wsOk (by simp)
  | ok workspace =>
      cases sess with
      | error message => exact absurd sessOk (by simp)
      | ok session =>
          unfold App.finishCreateWorkspace
          simp only
          split
          · exact sound
          · next workspaces listed =>
              refine ⟨⟨?_, ?_, ?_⟩, ?_⟩
              · rintro _ ⟨⟩
                rw [ids_append]
                simp
              · rintro _ ⟨⟩
                exact ⟨workspace.id, rfl, by simp [sessionIds_set, key]⟩
              · exact sound.remembered.setBoth (by simp)
              · intro wid member
                rw [ids_append, List.mem_append, ids_singleton] at member
                rw [Table.get?_set]
                split
                · rfl
                · next different =>
                    rcases member with member | member
                    · exact sound.stocked wid (by rwa [listed])
                    · exact absurd (List.mem_singleton.mp member).symm different

/-- What is active after a deletion is listed. -/
theorem nextActive_listed
    {workspaces : List (Body Workspace)}
    {sessions : Table String (Records Session)}
    {tabs : Table String (Option String)}
    {id : String}
    (remembers : Remembers sessions tabs)
    (active : (AppState.nextActive workspaces sessions tabs).2 = some id) :
    ∃ wid, (AppState.nextActive workspaces sessions tabs).1 = some wid ∧
      id ∈ sessionIds sessions wid := by
  unfold AppState.nextActive at active ⊢
  simp only at active ⊢
  split at active
  · next present =>
      obtain ⟨wid, first, _⟩ := truthy_iff.mp present
      rw [first] at active ⊢
      refine ⟨wid, rfl, ?_⟩
      rcases Option.or_eq_some_iff.mp active with tab | ⟨_, other⟩
      · exact remembers.mem tab
      · obtain ⟨list, entry, head⟩ := Option.bind_eq_some_iff.mp other
        have held : sessionIds sessions wid = ids Session.id list :=
          sessionIds_of_get? entry
        rw [held]
        exact firstId_mem head
  · cases active

theorem finishDeleteWorkspace_sound
    {app : App}
    {id : String}
    (sound : app.state.Sound) :
    (app.finishDeleteWorkspace id).Sound := by
  unfold App.finishDeleteWorkspace
  simp only
  split
  · next workspaces removed listed _ =>
      have remembers := sound.remembered.erase id
      refine ⟨⟨?_, ?_, remembers⟩, ?_⟩
      · intro wid active
        exact firstId_mem active
      · intro session active
        exact nextActive_listed remembers active
      · intro wid member
        obtain ⟨different, member⟩ := mem_ids_filter.mp member
        rw [Table.get?_erase_of_ne _ different.symm]
        exact sound.stocked wid (by rwa [listed])
  · exact sound

/-- Switching to a workspace whose list is in the store. -/
theorem finishSetActiveWorkspace_sound
    {app : App}
    {id : String}
    {sessions : Records Session}
    (sound : app.state.Sound)
    (listed : id ∈ ids (·.id) app.state.workspaces)
    (entry : app.state.sessions.get? id = some sessions) :
    (app.finishSetActiveWorkspace id sessions).Sound := by
  have same : app.state.sessions.set id sessions = app.state.sessions :=
    (Table.set_eq_self_iff _ _ _).mpr entry
  have held : sessionIds app.state.sessions id = ids (·.id) sessions :=
    sessionIds_of_get? entry
  unfold App.finishSetActiveWorkspace
  simp only [same]
  split
  · exact sound
  · next stillExists decided =>
      -- The tab that is chosen is in the list.
      have chosen (next : String)
          (active : (if stillExists then app.state.remembered id
            else firstId Session.id sessions) = some next) :
          next ∈ sessionIds app.state.sessions id := by
        split at active
        · exact sound.remembered.mem active
        · rw [held]
          exact firstId_mem active
      have placed (session : String)
          (active : (if stillExists then app.state.remembered id
            else firstId Session.id sessions) = some session) :
          ∃ wid, some id = some wid ∧
            session ∈ sessionIds app.state.sessions wid :=
        ⟨id, rfl, chosen session active⟩
      have workspace (wid : String) (active : some id = some wid) :
          wid ∈ ids (·.id) app.state.workspaces := by
        cases active
        exact listed
      split
      · exact ⟨⟨workspace, placed, sound.remembered⟩, sound.stocked⟩
      · next next active =>
          split
          · exact ⟨⟨workspace, placed, sound.remembered⟩, sound.stocked⟩
          · refine ⟨⟨workspace, placed, ?_⟩, sound.stocked⟩
            have member : next ∈ ids (·.id) sessions := by
              rw [← held]
              exact chosen next active
            have remembers :
                Remembers (app.state.sessions.set id sessions)
                  (app.state.activeSessionByWorkspace.set id (some next)) :=
              sound.remembered.setBoth member
            rwa [same] at remembers

/-- A list that still has the tabs which the store remembers. -/
theorem finishPollActive_sound
    {app : App}
    {wid : String}
    {sessions : Records Session}
    (sound : app.state.Sound)
    (tab : ∀ id, app.state.remembered wid = some id →
      id ∈ ids (·.id) sessions)
    (active : app.state.activeWorkspaceId = some wid →
      ∀ id, app.state.activeSessionId = some id → id ∈ ids (·.id) sessions) :
    (app.finishPollActive wid sessions).Sound := by
  unfold App.finishPollActive
  split
  · exact sound
  · refine ⟨⟨sound.activeWorkspace, ?_, ?_⟩, ?_⟩
    · intro id selected
      obtain ⟨other, workspace, member⟩ := sound.activeSession id selected
      refine ⟨other, workspace, ?_⟩
      rw [sessionIds_set]
      split
      · next same =>
          subst same
          exact active workspace id selected
      · exact member
    · apply sound.remembered.set
      intro entry found
      obtain ⟨id, _, rfl⟩ := sound.remembered wid entry found
      refine ⟨id, tab id ?_, rfl⟩
      rw [AppState.remembered, found]
      rfl
    · intro other member
      rw [Table.get?_set]
      split
      · rfl
      · exact sound.stocked other member

/-- A new session in the active workspace. -/
theorem finishCreateSession_sound
    {app : App}
    {wid : String}
    {sess : Body Session}
    (sound : app.state.Sound)
    (sessOk : sess.IsOk)
    (active : app.state.activeWorkspaceId = some wid) :
    (app.finishCreateSession wid sess).Sound := by
  cases sess with
  | error message => exact absurd sessOk (by simp)
  | ok session =>
      unfold App.finishCreateSession
      simp only
      split
      · exact sound
      · next list _ =>
          have member : session.id ∈ ids Session.id
              (.ok (list ++ [.ok session])) := by
            rw [ids_append]
            simp
          refine ⟨⟨sound.activeWorkspace, ?_, ?_⟩, ?_⟩
          · rintro _ ⟨⟩
            refine ⟨wid, active, ?_⟩
            rw [sessionIds_set, if_pos rfl]
            exact member
          · exact sound.remembered.setBoth member
          · intro other listed
            rw [Table.get?_set]
            split
            · rfl
            · exact sound.stocked other listed

/-- Deleting a session of the active workspace. -/
theorem withoutSession_sound
    {s : AppState}
    {wid id : String}
    {list : List (Body Session)}
    (sound : s.Sound)
    (active : s.activeWorkspaceId = some wid)
    (held : s.sessionsOf wid = .ok list) :
    (s.withoutSession wid id list).Sound := by
  have listed : sessionIds s.sessions wid = ids (·.id) (.ok list) := by
    rw [← ids_sessionsOf, held]
  let left : Records Session := .ok (list.filter (·.field (·.id) ≠ some id))
  -- The session that is active next is still in the list.
  have chosen : ∀ next, (s.withoutSession wid id list).activeSessionId =
      some next → next ∈ ids Session.id left := by
    intro next selected
    simp only [AppState.withoutSession] at selected
    split at selected
    · exact firstId_mem selected
    · next different =>
        obtain ⟨other, workspace, member⟩ := sound.activeSession next selected
        rw [active] at workspace
        cases workspace
        rw [listed] at member
        refine mem_ids_filter.mpr ⟨?_, member⟩
        rintro rfl
        exact different selected
  refine ⟨⟨sound.activeWorkspace, ?_, ?_⟩, ?_⟩
  · intro next selected
    refine ⟨wid, active, ?_⟩
    simp only [AppState.withoutSession, sessionIds_set, if_true]
    exact chosen next selected
  · change Remembers (s.sessions.set wid left)
      (if s.remembered wid = some id then
        if truthy (s.withoutSession wid id list).activeSessionId then
          s.activeSessionByWorkspace.set wid
            (s.withoutSession wid id list).activeSessionId
        else s.activeSessionByWorkspace.erase wid
      else s.activeSessionByWorkspace)
    split
    · split
      · next present =>
          obtain ⟨next, selected, _⟩ := truthy_iff.mp present
          rw [selected]
          exact sound.remembered.setBoth (chosen next selected)
      · exact sound.remembered.setErase
    · next kept =>
        apply sound.remembered.set
        intro entry found
        obtain ⟨tab, member, rfl⟩ := sound.remembered wid entry found
        rw [listed] at member
        refine ⟨tab, mem_ids_filter.mpr ⟨?_, member⟩, rfl⟩
        rintro rfl
        apply kept
        rw [AppState.remembered, found]
        rfl
  · intro other member
    simp only [AppState.withoutSession, Table.get?_set]
    split
    · rfl
    · exact sound.stocked other member

theorem finishDeleteSession_sound
    {app : App}
    {id : String}
    (sound : app.state.Sound) :
    (app.finishDeleteSession id).Sound := by
  unfold App.finishDeleteSession
  simp only
  split
  · next present =>
      obtain ⟨wid, active, _⟩ := truthy_iff.mp present
      split
      · exact sound
      · next list held =>
          rw [active] at held
          simp only [active]
          exact withoutSession_sound sound active held
  · exact sound

/-- Activating a session that the active workspace lists. -/
theorem setActiveSession_sound
    {app : App}
    {id wid : String}
    (sound : app.state.Sound)
    (active : app.state.activeWorkspaceId = some wid)
    (listed : id ∈ sessionIds app.state.sessions wid) :
    (app.setActiveSession id).Sound := by
  refine ⟨⟨sound.activeWorkspace, ?_, ?_⟩, sound.stocked⟩
  · rintro _ ⟨⟩
    exact ⟨wid, active, listed⟩
  · simp only [App.cancelIdleTracking, active]
    split
    · intro other entry found
      rw [Table.get?_set] at found
      split at found
      · next same =>
          cases found
          rw [← same]
          exact ⟨id, listed, rfl⟩
      · exact sound.remembered other entry found
    · exact sound.remembered

/-! ## Runs -/

/-- The operations and the ids that the browser calls them with. -/
def Browser.Called (browser : Browser) : BrowserAction → Prop
  | .call _ (.setActiveWorkspace id) =>
      id ∈ ids (·.id) browser.app.state.workspaces
  | .call _ .fetchWorkspaces | .call _ (.renameWorkspace _ _)
  | .call _ (.fetchSessions _) | .call _ (.renameSession _ _) => False
  | _ => True

/-- The reply is not an error object. -/
def Reply.IsOk : Reply → Prop
  | .workspaceList response => (request response).IsOk
  | .workspace response => (request response).IsOk
  | .sessionList response => (request response).IsOk
  | .session response => (request response).IsOk
  | .done response => (request response).IsOk

/-- The sessions that the reply lists. -/
def Reply.listed : Reply → List String
  | .sessionList response => ids Session.id (request response).records
  | _ => []

/-- The replies that keep the references of the state: a workspace or a
session is not refused, a session arrives while its workspace is active, and a
polled list has the tabs that the store remembers. -/
def Pending.Keeps (s : AppState) (replies : List Reply) : Pending → Prop
  | .initDefault | .initSession _ _ _ _ | .createWorkspace
  | .createWorkspaceSession _ => ∀ reply ∈ replies, reply.IsOk
  | .createSession wid =>
      (∀ reply ∈ replies, reply.IsOk) ∧ s.activeWorkspaceId = some wid
  | .pollActive wid =>
      ∀ reply ∈ replies, (∀ id ∈ s.remembered wid, id ∈ reply.listed) ∧
        (s.activeWorkspaceId = some wid →
          ∀ id ∈ s.activeSessionId, id ∈ reply.listed)
  | .initWorkspaces | .initSessions _ | .fetchWorkspaces | .deleteWorkspace _
  | .renameWorkspace _ | .setActiveWorkspace _ | .fetchSessions _
  | .deleteSession _ | .renameSession _ => True

/-- A step that keeps the references of the state. -/
def Browser.Keeps (browser : Browser) : BrowserAction → Prop
  | .call _ (.setActiveSession id) =>
      ∃ wid ∈ browser.app.state.activeWorkspaceId,
        id ∈ sessionIds browser.app.state.sessions wid
  | .reply id replies =>
      ∀ flight ∈ browser.flights.get? id,
        flight.pending.Keeps browser.app.state replies
  | .call _ _ | .reject _ => True

theorem typed_records {α : Type} (body : Body (List α)) :
    Typed body.records := by
  intro records equal record member
  cases body with
  | error message => cases equal
  | ok list =>
      cases equal
      obtain ⟨value, _, rfl⟩ := List.mem_map.mp member
      exact Body.isOk_ok value

/-- The lists of the replies hold records. -/
theorem typed_of_mapM
    {replies : List Reply}
    {lists : List (Records Session)}
    (listed : replies.mapM App.sessionList = some lists) :
    ∀ list ∈ lists, Typed list := by
  intro list member
  obtain ⟨reply, _, found⟩ := (mem_mapM listed).2 list member
  cases reply <;> cases found
  exact typed_records _

theorem listAll_sound
    {rows : List Workspace}
    (nodup : (rows.map (·.id)).Nodup) :
    (App.listAll (rows.map .ok)).Sound :=
  ⟨rows, rfl, nodup⟩

/-- An operation up to its first `await`. -/
theorem start_sound
    {browser : Browser}
    {id : Nat}
    {operation : Operation}
    (sound : browser.app.state.Sound)
    (called : browser.Called (.call id operation))
    (keeps : browser.Keeps (.call id operation)) :
    (browser.app.start operation).Sound := by
  cases operation with
  | fetchWorkspaces | renameWorkspace | fetchSessions | renameSession =>
      exact called.elim
  | init | createWorkspace | deleteWorkspace | createSession | deleteSession =>
      trivial
  | setActiveWorkspace wid =>
      obtain ⟨sessions, entry⟩ := Option.isSome_iff_exists.mp
        (sound.stocked wid called)
      simp only [App.start, entry]
      exact finishSetActiveWorkspace_sound sound called entry
  | pollActive =>
      simp only [App.start]
      split
      · trivial
      · exact sound
  | setActiveSession session =>
      obtain ⟨wid, active, listed⟩ := keeps
      exact setActiveSession_sound sound active listed

/-- An operation from one `await` to the next. -/
theorem resume_sound
    {app : App}
    {pending : Pending}
    {replies : List Reply}
    {outcome : Outcome}
    (sound : app.state.Sound)
    (accurate : pending.Sound)
    (keeps : pending.Keeps app.state replies)
    (continues : app.Continues replies outcome pending) :
    outcome.Sound := by
  cases pending with
  | fetchWorkspaces | renameWorkspace | setActiveWorkspace | fetchSessions
  | renameSession => exact accurate.elim
  | initWorkspaces =>
      obtain ⟨response, _, ⟨_, rfl⟩ | ⟨_, rfl⟩ | ⟨list, _, _, rfl⟩⟩ := continues
      · exact sound
      · trivial
      · exact listAll_sound list.nodup
  | initDefault =>
      obtain ⟨response, rfl, rfl⟩ := continues
      have granted : (request response).IsOk := keeps _ List.mem_cons_self
      cases body : request response with
      | error message => exact absurd granted (by simp [body])
      | ok workspace =>
          have listed : (App.listAll ([workspace].map .ok)).Sound :=
            listAll_sound (by simp)
          exact listed
  | initSessions workspaces =>
      obtain ⟨rows, rfl, nodup⟩ := accurate
      obtain ⟨lists, listed, lengths, rfl⟩ := continues
      rw [List.length_map] at lengths
      exact initSessions_sound sound nodup (typed_of_mapM listed) lengths
  | initSession workspaces sessions tabs wid =>
      obtain ⟨remembers, stocked, id, member, rfl⟩ := accurate
      obtain ⟨response, rfl, rfl⟩ := continues
      have granted : (request response).IsOk := keeps _ List.mem_cons_self
      cases body : request response with
      | error message => exact absurd granted (by simp [body])
      | ok session =>
          apply finishInit_sound
          · exact remembers.setBoth (by simp)
          · intro other listed
            rw [Table.get?_set]
            split
            · rfl
            · exact stocked other listed
          · exact ⟨id, member, rfl⟩
  | createWorkspace =>
      obtain ⟨response, rfl, rfl⟩ := continues
      exact keeps _ List.mem_cons_self
  | createWorkspaceSession ws =>
      obtain ⟨response, rfl, rfl⟩ := continues
      exact finishCreateWorkspace_sound sound accurate
        (keeps _ List.mem_cons_self)
  | deleteWorkspace id =>
      obtain ⟨response, rfl, rfl⟩ := continues
      exact finishDeleteWorkspace_sound sound
  | pollActive wid =>
      obtain ⟨response, rfl, rfl⟩ := continues
      obtain ⟨tab, active⟩ := keeps _ List.mem_cons_self
      exact finishPollActive_sound sound tab active
  | createSession wid =>
      obtain ⟨response, rfl, rfl⟩ := continues
      exact finishCreateSession_sound sound
        (keeps.1 _ List.mem_cons_self) keeps.2
  | deleteSession id =>
      obtain ⟨response, rfl, rfl⟩ := continues
      exact finishDeleteSession_sound sound

/-- A sound state, and sound operations under way. -/
structure Browser.Sound (browser : Browser) : Prop where
  state : browser.app.state.Sound
  flights : ∀ id flight, browser.flights.get? id = some flight →
    flight.pending.Sound

theorem Browser.Sound.initial : Browser.initial.Sound where
  state := by
    refine ⟨⟨?_, ?_, Remembers.empty⟩, ?_⟩ <;>
      simp [Browser.initial, App.initial, AppState.initial]
  flights := by simp [Browser.initial]

theorem Browser.Sound.settle
    {browser : Browser}
    {outcome : Outcome}
    (sound : browser.Sound)
    (id : Nat)
    (accurate : outcome.Sound) :
    (browser.settle id outcome).Sound := by
  have landed (other : Nat) (flight : Flight)
      (found : (browser.flights.erase id).get? other = some flight) :
      flight.pending.Sound := by
    rw [Table.get?_erase] at found
    split at found
    · cases found
    · exact sound.flights other flight found
  cases outcome with
  | returns app => exact ⟨accurate, landed⟩
  | throws app => exact ⟨accurate, landed⟩
  | awaits flight =>
      refine ⟨sound.state, fun other otherFlight found => ?_⟩
      simp only [Browser.settle, Table.get?_set] at found
      split at found
      · cases found
        exact accurate
      · exact sound.flights other otherFlight found

theorem Browser.Sound.step
    {browser next : Browser}
    {action : BrowserAction}
    (sound : browser.Sound)
    (called : browser.Called action)
    (keeps : browser.Keeps action)
    (stepped : browser.step action = some next) :
    next.Sound := by
  obtain ⟨id, operation, rfl, _, rfl⟩ |
    ⟨id, replies, flight, outcome, rfl, found, continues, rfl⟩ |
    ⟨id, rfl, rfl⟩ := Browser.step_cases stepped
  · exact sound.settle id (start_sound sound.state called keeps)
  · exact sound.settle id
      (resume_sound sound.state (sound.flights id flight found)
        (keeps flight found) continues)
  · have landed : (browser.settle id (.returns browser.app)).Sound :=
      sound.settle id sound.state
    exact landed

instance (browser : Browser) : ∀ action, Decidable (browser.Called action)
  | .call _ (.setActiveWorkspace _) => inferInstanceAs (Decidable (_ ∈ _))
  | .call _ .fetchWorkspaces | .call _ (.renameWorkspace _ _)
  | .call _ (.fetchSessions _) | .call _ (.renameSession _ _) => isFalse id
  | .call _ .init | .call _ (.createWorkspace _) | .call _ (.deleteWorkspace _)
  | .call _ .pollActive | .call _ (.createSession _ _)
  | .call _ (.deleteSession _) | .call _ (.setActiveSession _)
  | .reply _ _ | .reject _ => isTrue trivial

instance : DecidablePred Reply.IsOk
  | .workspaceList _ | .workspace _ | .sessionList _ | .session _
  | .done _ => inferInstanceAs (Decidable (Body.IsOk _))

instance (s : AppState) (replies : List Reply) :
    DecidablePred (Pending.Keeps s replies)
  | .initDefault | .initSession _ _ _ _ | .createWorkspace
  | .createWorkspaceSession _ =>
      inferInstanceAs (Decidable (∀ reply ∈ replies, reply.IsOk))
  | .createSession _ => inferInstanceAs (Decidable (_ ∧ _))
  | .pollActive _ =>
      inferInstanceAs (Decidable (∀ reply ∈ replies, _ ∧ (_ → _)))
  | .initWorkspaces | .initSessions _ | .fetchWorkspaces | .deleteWorkspace _
  | .renameWorkspace _ | .setActiveWorkspace _ | .fetchSessions _
  | .deleteSession _ | .renameSession _ => isTrue trivial

instance (browser : Browser) : ∀ action, Decidable (browser.Keeps action)
  | .call _ (.setActiveSession _) =>
      inferInstanceAs (Decidable (∃ wid ∈ _, _))
  | .reply _ _ => inferInstanceAs (Decidable (∀ flight ∈ _, _))
  | .call _ .init | .call _ .fetchWorkspaces | .call _ (.createWorkspace _)
  | .call _ (.deleteWorkspace _) | .call _ (.renameWorkspace _ _)
  | .call _ (.setActiveWorkspace _) | .call _ (.fetchSessions _)
  | .call _ .pollActive | .call _ (.createSession _ _)
  | .call _ (.deleteSession _) | .call _ (.renameSession _ _)
  | .reject _ => isTrue trivial

theorem Browser.Sound.run
    {actions : List BrowserAction}
    {browser : Browser}
    (called : Follows Browser.step Browser.Called Browser.initial actions)
    (keeps : Follows Browser.step Browser.Keeps Browser.initial actions)
    (ran : LociTerm.run Browser.step Browser.initial actions = some browser) :
    browser.Sound := by
  have preserved : ∀ (browser : Browser) action next, browser.Sound →
      browser.Called action ∧ browser.Keeps action →
      browser.step action = some next → next.Sound :=
    fun _ _ _ sound permitted stepped =>
      sound.step permitted.1 permitted.2 stepped
  exact invariant_of_run preserved Browser.Sound.initial (called.and keeps) ran

/-- The references of the state hold in every run whose steps keep them. -/
theorem coherent_of_keeps
    {actions : List BrowserAction}
    {browser : Browser}
    (called : Follows Browser.step Browser.Called Browser.initial actions)
    (keeps : Follows Browser.step Browser.Keeps Browser.initial actions)
    (ran : run Browser.step Browser.initial actions = some browser) :
    browser.app.state.Coherent :=
  (Browser.Sound.run called keeps ran).state.toCoherent

/-- A tab is opened and closed while polls are under way. -/
def tabsRun : List BrowserAction :=
  loadRun ++
    [.call 1 (.createSession "v" none), .call 2 .pollActive,
      .reply 1 [.session (writeJSON 201 (sessionRow "c" "v"))],
      .call 3 (.setActiveWorkspace "w"),
      .reply 2 [.sessionList (writeJSON 200
        [sessionRow "a" "v", sessionRow "c" "v"])],
      .call 4 (.setActiveWorkspace "v"), .call 5 (.setActiveSession "a"),
      .call 6 (.deleteSession "a"), .call 7 (.deleteWorkspace "w"),
      .reply 7 [.done (writeJSON 200 ())], .reply 6 [.done (writeJSON 200 ())]]

theorem coherent_tabsRun :
    ((run Browser.step Browser.initial tabsRun).get
      (by decide)).app.state.Coherent :=
  coherent_of_keeps (by decide) (by decide) (Option.some_get _).symm

/-- The user switches the workspace while a new session is under way. -/
def switchRun : List BrowserAction :=
  loadRun ++
    [.call 1 (.createSession "v" none), .call 2 (.setActiveWorkspace "w"),
      .reply 1 [.session (writeJSON 201 (sessionRow "c" "v"))]]

/-- The active session is not one of the active workspace. -/
theorem not_coherent_switchRun :
    ∃ actions browser,
      Follows Browser.step Browser.Called Browser.initial actions ∧
        run Browser.step Browser.initial actions = some browser ∧
        ¬browser.app.state.Coherent := by
  refine ⟨switchRun,
    (run Browser.step Browser.initial switchRun).get (by decide), by decide,
    (Option.some_get _).symm, fun coherent => ?_⟩
  obtain ⟨wid, active, listed⟩ := coherent.activeSession "c" (by decide)
  have switched : ((run Browser.step Browser.initial switchRun).get
      (by decide)).app.state.activeWorkspaceId = some "w" := by
    decide
  rw [switched] at active
  cases active
  exact absurd listed (by decide)

end Client
end LociTerm
