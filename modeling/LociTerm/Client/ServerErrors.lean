import LociTerm.Client.Browser
import LociTerm.Client.Listing
import LociTerm.Library.Run

/-!
# Server errors in the app store

`request` ignores the status of a response, so that the error object of a
refused call goes on into the store.  For each operation that runs without
others in between, this module says exactly when the state survives it.
-/

namespace LociTerm
namespace Client

/-- The list is one of records. -/
def Listed {α : Type} (list : Records α) : Prop :=
  ∃ rows : List α, list = .ok (rows.map .ok)

/-- The lists of the state are lists of records. -/
structure AppState.WellFormed (s : AppState) : Prop where
  workspaces : Listed s.workspaces
  sessions : ∀ wid list, s.sessions.get? wid = some list → Listed list

/-- The part of the state that an operation changes. -/
structure AppState.Unchanged (before after : AppState) : Prop where
  workspaces : after.workspaces = before.workspaces
  sessions : after.sessions = before.sessions
  activeWorkspaceId : after.activeWorkspaceId = before.activeWorkspaceId
  activeSessionId : after.activeSessionId = before.activeSessionId
  activeSessionByWorkspace :
    after.activeSessionByWorkspace = before.activeSessionByWorkspace
  sessionActivity : after.sessionActivity = before.sessionActivity
  toasts : after.toasts = before.toasts

/-- Nothing has changed, and the lists are lists of records. -/
def AppState.Intact (before after : AppState) : Prop :=
  before.Unchanged after ∧ after.WellFormed

/-- The rest of an operation, with the replies to its calls as they come. -/
def App.perform (app : App) : Outcome → List (List Reply) → Option App
  | .returns done, [] => some done
  | .throws done, [] => some done
  | .awaits flight, replies :: answers =>
      match app.resume flight.pending replies with
      | some outcome => app.perform outcome answers
      | none => none
  | _, _ => none

/-- The state has nothing of the workspace, and what is active is what would
be chosen after its deletion. -/
def AppState.LacksWorkspace (s : AppState) (id : String) : Prop :=
  id ∉ ids (·.id) s.workspaces ∧ s.sessions.get? id = none ∧
    s.activeSessionByWorkspace.get? id = none ∧
    ∀ workspaces, s.workspaces = .ok workspaces →
      (s.activeWorkspaceId, s.activeSessionId) =
        AppState.nextActive workspaces s.sessions s.activeSessionByWorkspace

/-- The session list of the workspace is there, and the state has nothing of
the session. -/
def AppState.LacksSession (s : AppState) (wid id : String) : Prop :=
  (∃ list, s.sessions.get? wid = some list ∧ id ∉ ids (·.id) list) ∧
    s.activeSessionId ≠ some id ∧ s.remembered wid ≠ some id ∧
    s.sessionActivity.get? id = none ∧ ∀ t ∈ s.toasts, t.sessionId ≠ id

/-- When the state survives an operation that is answered with an error. -/
def Operation.Spared (s : AppState) (answers : List (List Reply)) :
    Operation → Prop
  | .init => ∃ replies ∈ answers.head?, ∃ reply ∈ replies, reply.Failed
  | .renameWorkspace id _ => id ∉ ids (·.id) s.workspaces
  | .deleteWorkspace id => s.LacksWorkspace id
  | .setActiveWorkspace id => truthy (s.remembered id) = true
  | .deleteSession id => truthy s.activeWorkspaceId = true →
      s.LacksSession (key s.activeWorkspaceId) id
  | .renameSession id _ => truthy s.activeWorkspaceId = true →
      ∃ list, s.sessions.get? (key s.activeWorkspaceId) = some list ∧
        id ∉ ids (·.id) list
  | .fetchWorkspaces | .createWorkspace _ | .fetchSessions _ | .pollActive
  | .createSession _ _ => False
  -- It makes no call.
  | .setActiveSession _ => True

/-! ## Lists of records -/

theorem not_listed_error {α : Type} {message : String} :
    ¬Listed (.error message : Records α) := by
  rintro ⟨rows, equal⟩
  cases equal

theorem Listed.isOk
    {α : Type}
    {list : List (Body α)}
    (listed : Listed (.ok list)) :
    ∀ record ∈ list, record.IsOk := by
  obtain ⟨rows, equal⟩ := listed
  cases equal
  simp

/-- A missing list counts as an empty one. -/
theorem AppState.WellFormed.sessionsOf
    {s : AppState}
    (wellFormed : s.WellFormed)
    (wid : String) :
    ∃ list, s.sessionsOf wid = .ok list ∧ Listed (.ok list) := by
  unfold AppState.sessionsOf
  cases found : s.sessions.get? wid with
  | none => exact ⟨[], rfl, [], rfl⟩
  | some list =>
      obtain ⟨rows, rfl⟩ := wellFormed.sessions wid list found
      exact ⟨rows.map .ok, rfl, rows, rfl⟩

/-- The records are lists of records as long as nothing has changed. -/
theorem AppState.WellFormed.intact_iff
    {before after : AppState}
    (wellFormed : before.WellFormed) :
    before.Intact after ↔ before.Unchanged after := by
  refine and_iff_left_of_imp fun unchanged => ⟨?_, ?_⟩
  · rw [unchanged.workspaces]
    exact wellFormed.workspaces
  · rw [unchanged.sessions]
    exact wellFormed.sessions

/-- An error object in the place of a list is a change. -/
theorem AppState.WellFormed.set_error_ne
    {s : AppState}
    (wellFormed : s.WellFormed)
    (wid message : String) :
    s.sessions.set wid (.error message) ≠ s.sessions := by
  intro same
  have entry := (Table.set_eq_self_iff _ _ _).mp same
  exact not_listed_error (wellFormed.sessions wid _ entry)

/-- A refused call hands an error object to the caller. -/
theorem Reply.Failed.error
    {reply : Reply}
    (failed : reply.Failed) :
    match reply with
    | .workspaceList response => ∃ message, request response = .error message
    | .workspace response => ∃ message, request response = .error message
    | .sessionList response => ∃ message, request response = .error message
    | .session response => ∃ message, request response = .error message
    | .done response => ∃ message, request response = .error message := by
  cases reply <;> exact request_of_failed failed

/-! ## Performing an operation -/

theorem perform_awaits
    {app final : App}
    {flight : Flight}
    {answers : List (List Reply)}
    (performed : app.perform (.awaits flight) answers = some final) :
    ∃ replies rest outcome, answers = replies :: rest ∧
      app.Continues replies outcome flight.pending ∧
      app.perform outcome rest = some final := by
  cases answers with
  | nil => cases performed
  | cons replies rest =>
      simp only [App.perform] at performed
      split at performed
      · next outcome resumed =>
          exact ⟨replies, rest, outcome, rfl, App.resume_continues resumed,
            performed⟩
      · cases performed

/-- The store when an operation has ended, one way or the other. -/
def Outcome.result : Outcome → Option App
  | .awaits _ => none
  | .returns done => some done
  | .throws done => some done

theorem perform_result
    {app final : App}
    {outcome : Outcome}
    {answers : List (List Reply)}
    (ends : outcome.result.isSome)
    (performed : app.perform outcome answers = some final) :
    answers = [] ∧ outcome.result = some final := by
  cases outcome with
  | awaits flight => cases ends
  | returns done | throws done =>
      cases answers <;> cases performed
      exact ⟨rfl, rfl⟩

theorem finishSetActiveWorkspace_result
    (app : App)
    (id : String)
    (sessions : Records Session) :
    (app.finishSetActiveWorkspace id sessions).result.isSome := by
  simp only [App.finishSetActiveWorkspace]
  repeat' split
  all_goals rfl

/-- No call follows the one at which the operation stands. -/
def Pending.Last : Pending → Prop
  | .initWorkspaces | .initDefault | .initSessions _ | .createWorkspace => False
  | .initSession _ _ _ _ | .fetchWorkspaces | .createWorkspaceSession _
  | .deleteWorkspace _ | .renameWorkspace _ | .setActiveWorkspace _
  | .fetchSessions _ | .pollActive _ | .createSession _ | .deleteSession _
  | .renameSession _ => True

/-- The last call has one reply, and with it the operation ends. -/
theorem App.Continues.last
    {app : App}
    {pending : Pending}
    {replies : List Reply}
    {outcome : Outcome}
    (continues : app.Continues replies outcome pending)
    (last : pending.Last) :
    (∃ reply, replies = [reply]) ∧ outcome.result.isSome := by
  cases pending with
  | initWorkspaces | initDefault | initSessions | createWorkspace =>
      exact last.elim
  | _ =>
      obtain ⟨response, rfl, rfl⟩ := continues
      refine ⟨⟨_, rfl⟩, ?_⟩
      simp only [finishInit, finishCreateWorkspace, finishDeleteWorkspace,
        finishRenameWorkspace, finishSetActiveWorkspace, finishFetchSessions,
        finishPollActive, finishCreateSession, finishDeleteSession,
        finishRenameSession]
      repeat' split
      all_goals rfl

/-- The one call of an operation is the refused one. -/
theorem perform_last
    {app final : App}
    {flight : Flight}
    {answers : List (List Reply)}
    (performed : app.perform (.awaits flight) answers = some final)
    (last : flight.pending.Last)
    (failed : ∃ replies ∈ answers, ∃ reply ∈ replies, reply.Failed) :
    ∃ reply outcome, reply.Failed ∧
      app.Continues [reply] outcome flight.pending ∧
      outcome.result = some final := by
  obtain ⟨replies, rest, outcome, rfl, continues, rested⟩ :=
    perform_awaits performed
  obtain ⟨⟨reply, rfl⟩, ends⟩ := continues.last last
  obtain ⟨rfl, result⟩ := perform_result ends rested
  exact ⟨reply, outcome, by simpa using failed, continues, result⟩

/-! ## One call -/

/-- The error object of a refused list call stands in the place of a list. -/
theorem finishFetchSessions_changes
    {app done : App}
    {wid message : String}
    (wellFormed : app.state.WellFormed)
    (ended : (app.finishFetchSessions wid (.error message)).result =
      some done) :
    ¬app.state.Unchanged done.state := by
  cases ended
  exact fun unchanged =>
    wellFormed.set_error_ne wid message unchanged.sessions

/-- A refused poll is never equal to the list in the store. -/
theorem finishPollActive_changes
    {app done : App}
    {wid message : String}
    (wellFormed : app.state.WellFormed)
    (ended : (app.finishPollActive wid (.error message)).result =
      some done) :
    ¬app.state.Unchanged done.state := by
  obtain ⟨list, held, _⟩ := wellFormed.sessionsOf wid
  have different : app.state.holds wid (.error message) = false := by
    rw [AppState.holds, held]
    rfl
  rw [App.finishPollActive, different] at ended
  exact finishFetchSessions_changes wellFormed ended

/-- One more record in a list is a change, whatever it is. -/
theorem finishCreateSession_changes
    {app done : App}
    {wid : String}
    {sess : Body Session}
    (wellFormed : app.state.WellFormed)
    (ended : (app.finishCreateSession wid sess).result = some done) :
    ¬app.state.Unchanged done.state := by
  obtain ⟨list, held, _⟩ := wellFormed.sessionsOf wid
  simp only [App.finishCreateSession, held] at ended
  cases ended
  intro unchanged
  have entry := (Table.set_eq_self_iff _ _ _).mp unchanged.sessions
  simp [AppState.sessionsOf, entry] at held

theorem finishCreateWorkspace_changes
    {app done : App}
    {ws : Body Workspace}
    {sess : Body Session}
    (wellFormed : app.state.WellFormed)
    (ended : (app.finishCreateWorkspace ws sess).result = some done) :
    ¬app.state.Unchanged done.state := by
  obtain ⟨rows, held⟩ := wellFormed.workspaces
  simp only [App.finishCreateWorkspace, held] at ended
  cases ended
  intro unchanged
  have same := unchanged.workspaces
  simp [held] at same

/-- Replacing records by an error object changes nothing when there is none to
replace. -/
theorem map_error_eq_self_iff
    {α : Type}
    (f : α → String)
    (id message : String)
    {list : List (Body α)}
    (listed : Listed (.ok list)) :
    (list.map fun record =>
        if record.field f = some id then .error message else record) = list ↔
      id ∉ ids f (.ok list) := by
  rw [map_replace_eq_self_iff, mem_ids_ok, not_exists]
  refine forall_congr' fun record => ?_
  rw [not_and]
  refine imp_congr_right fun member => imp_congr_right fun found => ?_
  refine iff_false_intro fun replaced => ?_
  have recorded := listed.isOk record member
  rw [replaced] at recorded
  exact recorded

theorem finishRenameWorkspace_unchanged_iff
    {app done : App}
    {id message : String}
    (wellFormed : app.state.WellFormed)
    (ended : (app.finishRenameWorkspace id (.error message)).result =
      some done) :
    app.state.Unchanged done.state ↔
      id ∉ ids (·.id) app.state.workspaces := by
  obtain ⟨rows, held⟩ := wellFormed.workspaces
  have listed : Listed (.ok (rows.map Body.ok) : Records Workspace) :=
    ⟨rows, rfl⟩
  simp only [App.finishRenameWorkspace, held] at ended
  cases ended
  rw [held, ← map_error_eq_self_iff Workspace.id id message listed]
  constructor
  · intro unchanged
    have same := unchanged.workspaces
    rw [held] at same
    exact Body.ok.inj same
  · intro same
    refine ⟨?_, rfl, rfl, rfl, rfl, rfl, rfl⟩
    rw [held]
    exact congrArg Body.ok same

/-- A list in the store that is replaced under its key. -/
theorem set_list_eq_self_iff
    {s : AppState}
    {wid : String}
    {list next : List (Body Session)}
    (held : s.sessionsOf wid = .ok list) :
    s.sessions.set wid (.ok next) = s.sessions ↔
      (s.sessions.get? wid).isSome ∧ next = list := by
  rw [Table.set_eq_self_iff]
  unfold AppState.sessionsOf at held
  cases found : s.sessions.get? wid with
  | none => simp
  | some current =>
      simp only [found, Option.getD_some] at held
      subst held
      simp [eq_comm]

theorem finishRenameSession_unchanged_iff
    {app done : App}
    {id message : String}
    (wellFormed : app.state.WellFormed)
    (ended : (app.finishRenameSession id (.error message)).result =
      some done) :
    app.state.Unchanged done.state ↔
      (truthy app.state.activeWorkspaceId = true →
        ∃ list, app.state.sessions.get? (key app.state.activeWorkspaceId) =
          some list ∧ id ∉ ids (·.id) list) := by
  unfold App.finishRenameSession at ended
  simp only at ended
  split at ended
  · next active =>
      obtain ⟨list, held, listed⟩ :=
        wellFormed.sessionsOf (key app.state.activeWorkspaceId)
      simp only [held] at ended
      cases ended
      have same := map_error_eq_self_iff Session.id id message listed
      simp only [active, forall_const]
      constructor
      · intro unchanged
        obtain ⟨present, kept⟩ :=
          (set_list_eq_self_iff held).mp unchanged.sessions
        obtain ⟨current, found⟩ := Option.isSome_iff_exists.mp present
        simp only [AppState.sessionsOf, found, Option.getD_some] at held
        subst held
        exact ⟨_, found, same.mp kept⟩
      · rintro ⟨current, found, absent⟩
        refine ⟨rfl, ?_, rfl, rfl, rfl, rfl, rfl⟩
        refine (set_list_eq_self_iff held).mpr ⟨by simp [found], ?_⟩
        simp only [AppState.sessionsOf, found, Option.getD_some] at held
        subst held
        exact same.mpr absent
  · next inactive =>
      cases ended
      refine iff_of_true ⟨rfl, rfl, rfl, rfl, rfl, rfl, rfl⟩ ?_
      exact fun active => absurd active inactive

/-- Removing toasts changes nothing when there is none to remove. -/
theorem toastsWithout_eq_self_iff {s : AppState} {removed : String → Bool} :
    s.toastsWithout removed = s.toasts ↔
      ∀ t ∈ s.toasts, removed t.sessionId = false := by
  unfold AppState.toastsWithout
  split
  · simp [List.filter_eq_self]
  · next none => simpa using none

theorem filter_eq_self_iff
    {α : Type}
    {f : α → String}
    {id : String}
    {list : List (Body α)} :
    list.filter (·.field f ≠ some id) = list ↔ id ∉ ids f (.ok list) := by
  simp [List.filter_eq_self, mem_ids_ok]

theorem withoutSession_unchanged_iff
    {s : AppState}
    {wid id : String}
    {list : List (Body Session)}
    (held : s.sessionsOf wid = .ok list) :
    s.Unchanged (s.withoutSession wid id list) ↔ s.LacksSession wid id := by
  have kept : s.sessions.set wid
      (.ok (list.filter (·.field (·.id) ≠ some id))) = s.sessions ↔
        (s.sessions.get? wid).isSome ∧ id ∉ ids (·.id) (.ok list) := by
    rw [set_list_eq_self_iff held, filter_eq_self_iff]
  constructor
  · intro unchanged
    obtain ⟨present, absent⟩ := kept.mp unchanged.sessions
    obtain ⟨current, found⟩ := Option.isSome_iff_exists.mp present
    have active : s.activeSessionId ≠ some id := by
      rw [← unchanged.activeSessionId]
      exact withoutSession_active_ne
    refine ⟨⟨current, found, ?_⟩, active, ?_, ?_, ?_⟩
    · simp only [AppState.sessionsOf, found, Option.getD_some] at held
      rwa [held]
    · intro tab
      have tabs := unchanged.activeSessionByWorkspace
      have entry := Option.join_eq_some_iff.mp tab
      simp only [AppState.withoutSession, if_pos tab, if_neg active] at tabs
      split at tabs
      · rw [Table.set_eq_self_iff, entry] at tabs
        exact active (Option.some.inj tabs).symm
      · rw [Table.erase_eq_self_iff, entry] at tabs
        cases tabs
    · exact (Table.erase_eq_self_iff _ _).mp unchanged.sessionActivity
    · have kept : s.toastsWithout (· = id) = s.toasts := unchanged.toasts
      simpa using toastsWithout_eq_self_iff.mp kept
  · rintro ⟨⟨current, found, absent⟩, active, tab, activity, toasts⟩
    refine ⟨rfl, ?_, rfl, ?_, ?_, ?_, ?_⟩
    · refine kept.mpr ⟨by simp [found], ?_⟩
      simp only [AppState.sessionsOf, found, Option.getD_some] at held
      rwa [held] at absent
    · simp [AppState.withoutSession, active]
    · simp [AppState.withoutSession, tab]
    · exact (Table.erase_eq_self_iff _ _).mpr activity
    · change s.toastsWithout (· = id) = s.toasts
      exact toastsWithout_eq_self_iff.mpr (by simpa using toasts)

theorem finishDeleteSession_unchanged_iff
    {app done : App}
    {id : String}
    (wellFormed : app.state.WellFormed)
    (ended : (app.finishDeleteSession id).result = some done) :
    app.state.Unchanged done.state ↔
      (truthy app.state.activeWorkspaceId = true →
        app.state.LacksSession (key app.state.activeWorkspaceId) id) := by
  simp only [App.finishDeleteSession, App.cancelIdleTracking] at ended
  by_cases active : truthy app.state.activeWorkspaceId = true
  · obtain ⟨list, held, _⟩ :=
      wellFormed.sessionsOf (key app.state.activeWorkspaceId)
    simp only [active, if_true, held] at ended
    cases ended
    simp only [active, forall_const]
    exact withoutSession_unchanged_iff held
  · simp only [active, Bool.false_eq_true, if_false] at ended
    cases ended
    refine iff_of_true ⟨rfl, rfl, rfl, rfl, rfl, rfl, rfl⟩ ?_
    exact fun holds => absurd holds active

theorem finishDeleteWorkspace_unchanged_iff
    {app done : App}
    {id : String}
    (wellFormed : app.state.WellFormed)
    (ended : (app.finishDeleteWorkspace id).result = some done) :
    app.state.Unchanged done.state ↔ app.state.LacksWorkspace id := by
  obtain ⟨rows, listed⟩ := wellFormed.workspaces
  obtain ⟨removed, held, _⟩ := wellFormed.sessionsOf id
  let workspaces : List (Body Workspace) := rows.map .ok
  let sessions := app.state.sessions.erase id
  let tabs := app.state.activeSessionByWorkspace.erase id
  simp only [App.finishDeleteWorkspace, listed, held] at ended
  cases ended
  constructor
  · intro unchanged
    have kept : workspaces.filter (·.field (·.id) ≠ some id) = workspaces :=
      Body.ok.inj (unchanged.workspaces.trans listed)
    have sameSessions : sessions = app.state.sessions := unchanged.sessions
    have sameTabs : tabs = app.state.activeSessionByWorkspace :=
      unchanged.activeSessionByWorkspace
    refine ⟨?_, (Table.erase_eq_self_iff _ _).mp sameSessions,
      (Table.erase_eq_self_iff _ _).mp sameTabs, ?_⟩
    · rw [listed]
      exact filter_eq_self_iff.mp kept
    · intro others equal
      cases listed.symm.trans equal
      have active : AppState.nextActive
          (workspaces.filter (·.field (·.id) ≠ some id)) sessions tabs =
            (app.state.activeWorkspaceId, app.state.activeSessionId) :=
        Prod.ext unchanged.activeWorkspaceId unchanged.activeSessionId
      rw [kept, sameSessions, sameTabs] at active
      exact active.symm
  · rintro ⟨absent, noSessions, noTab, chosen⟩
    have kept : workspaces.filter (·.field (·.id) ≠ some id) = workspaces := by
      rw [listed] at absent
      exact filter_eq_self_iff.mpr absent
    have sameSessions : sessions = app.state.sessions :=
      (Table.erase_eq_self_iff _ _).mpr noSessions
    have sameTabs : tabs = app.state.activeSessionByWorkspace :=
      (Table.erase_eq_self_iff _ _).mpr noTab
    have active : AppState.nextActive
        (workspaces.filter (·.field (·.id) ≠ some id)) sessions tabs =
          (app.state.activeWorkspaceId, app.state.activeSessionId) := by
      rw [kept, sameSessions, sameTabs]
      exact (chosen workspaces listed).symm
    have nothing : removed = [] := by
      simp only [AppState.sessionsOf, noSessions, Option.getD_none] at held
      exact (Body.ok.inj held).symm
    subst nothing
    refine ⟨?_, sameSessions, congrArg Prod.fst active,
      congrArg Prod.snd active, sameTabs, rfl, ?_⟩
    · rw [listed]
      exact congrArg Body.ok kept
    · simp [AppState.toastsWithout]

/-- Without a session list, a refused call throws in `sessions.some`, or its
error object is stored. -/
theorem finishSetActiveWorkspace_unchanged_iff
    {app done : App}
    {id message : String}
    (wellFormed : app.state.WellFormed)
    (ended : (app.finishSetActiveWorkspace id (.error message)).result =
      some done) :
    app.state.Unchanged done.state ↔
      truthy (app.state.remembered id) = true := by
  unfold App.finishSetActiveWorkspace at ended
  by_cases remembers : truthy (app.state.remembered id) = true
  · simp only [if_pos remembers] at ended
    cases ended
    exact iff_of_true ⟨rfl, rfl, rfl, rfl, rfl, rfl, rfl⟩ remembers
  · simp only [if_neg remembers, firstId] at ended
    cases ended
    refine iff_of_false (fun unchanged => ?_) remembers
    exact wellFormed.set_error_ne id message unchanged.sessions

/-! ## `init` -/

/-- Every workspace has its list in the table. -/
theorem get?_tabulate
    {pairs : List (Body Workspace × Records Session)}
    {sessions : Table String (Records Session)}
    {tabs : Table String (Option String)}
    (nodup : (pairs.map fun pair => key (pair.1.field (·.id))).Nodup) :
    (∀ pair ∈ pairs, (App.tabulate pairs (sessions, tabs)).1.get?
        (key (pair.1.field (·.id))) = some pair.2) ∧
      ∀ wid ∉ pairs.map fun pair => key (pair.1.field (·.id)),
        (App.tabulate pairs (sessions, tabs)).1.get? wid =
          sessions.get? wid := by
  induction pairs generalizing sessions tabs with
  | nil => simp [App.tabulate]
  | cons pair rest inductionHypothesis =>
      obtain ⟨w, list⟩ := pair
      obtain ⟨unrepeated, nodup⟩ := List.nodup_cons.mp nodup
      unfold App.tabulate
      obtain ⟨entries, others⟩ := inductionHypothesis nodup
      constructor
      · intro pair member
        rcases List.mem_cons.mp member with rfl | member
        · rw [others _ unrepeated]
          exact Table.get?_set_self _ _ _
        · exact entries pair member
      · intro wid absent
        rw [List.map_cons, List.mem_cons, not_or] at absent
        rw [others wid absent.2]
        exact Table.get?_set_of_ne _ _ (Ne.symm absent.1)

/-- When `init` ends in lists of records, no call from the session lists on has
been refused. -/
theorem initSessions_wellFormed
    {app final : App}
    {workspaces : List (Body Workspace)}
    {lists : List (Records Session)}
    {answers : List (List Reply)}
    (nodup : (workspaces.map fun w => key (w.field (·.id))).Nodup)
    (nonempty : workspaces ≠ [])
    (lengths : lists.length = workspaces.length)
    (performed : app.perform (app.initSessions workspaces lists) answers =
      some final)
    (wellFormed : final.state.WellFormed) :
    (∀ w ∈ workspaces, w.IsOk) ∧ (∀ list ∈ lists, Listed list) ∧
      ∀ replies ∈ answers, ∀ reply ∈ replies, ¬reply.Failed := by
  let pairs := workspaces.zip lists
  have entries : ∀ pair ∈ pairs,
      (App.tabulate pairs (Table.empty, Table.empty)).1.get?
        (key (pair.1.field (·.id))) = some pair.2 :=
    (get?_tabulate (by rwa [keys_zip lengths])).1
  -- Every list belongs to a workspace.
  have paired : ∀ list ∈ lists, ∃ w, (w, list) ∈ pairs := by
    intro list member
    have seconds : pairs.map Prod.snd = lists :=
      List.map_snd_zip (Nat.le_of_eq lengths)
    rw [← seconds] at member
    obtain ⟨⟨w, _⟩, found, rfl⟩ := List.mem_map.mp member
    exact ⟨w, found⟩
  unfold App.initSessions at performed
  simp only at performed
  split at performed
  · next absent =>
      -- The first workspace has a list.
      obtain ⟨w, rest, rfl⟩ := List.exists_cons_of_ne_nil nonempty
      obtain ⟨list, others, rfl⟩ :=
        List.exists_cons_of_length_pos (l := lists) (by simp [lengths])
      have entry := entries (w, list) List.mem_cons_self
      exact absurd (absent.symm.trans entry) (by simp)
  · next found =>
      obtain ⟨replies, rest, outcome, rfl, continues, performed⟩ :=
        perform_awaits performed
      obtain ⟨response, rfl, rfl⟩ := continues
      obtain ⟨rfl, ⟨⟩⟩ := perform_result rfl performed
      refine ⟨wellFormed.workspaces.isOk, ?_, ?_⟩
      · intro list member
        obtain ⟨w, paired⟩ := paired list member
        have entry := entries _ paired
        by_cases first : key (firstId Workspace.id (.ok workspaces)) =
            key (w.field (·.id))
        · rw [first] at found
          exact ⟨[], Option.some.inj (entry.symm.trans found)⟩
        · apply wellFormed.sessions (key (w.field (·.id)))
          exact (Table.get?_set_of_ne _ _ first).trans entry
      · have created := (wellFormed.sessions _ _
          (Table.get?_set_self _ _ _)).isOk _ List.mem_cons_self
        simp only [List.mem_singleton, forall_eq]
        intro failed
        obtain ⟨message, refused⟩ := failed.error
        rw [refused] at created
        exact created
  · next stored found _ =>
      obtain ⟨rfl, ⟨⟩⟩ := perform_result rfl performed
      refine ⟨wellFormed.workspaces.isOk, ?_, by simp⟩
      intro list member
      obtain ⟨w, paired⟩ := paired list member
      exact wellFormed.sessions _ _ (entries _ paired)

theorem listAll_wellFormed
    {app final : App}
    {workspaces : List (Body Workspace)}
    {answers : List (List Reply)}
    (nodup : (workspaces.map fun w => key (w.field (·.id))).Nodup)
    (nonempty : workspaces ≠ [])
    (performed : app.perform (App.listAll workspaces) answers = some final)
    (wellFormed : final.state.WellFormed) :
    (∀ w ∈ workspaces, w.IsOk) ∧
      ∀ replies ∈ answers, ∀ reply ∈ replies, ¬reply.Failed := by
  obtain ⟨replies, rest, outcome, rfl, continues, performed⟩ :=
    perform_awaits performed
  obtain ⟨lists, listed, lengths, rfl⟩ := continues
  obtain ⟨workspacesOk, listsOk, restOk⟩ :=
    initSessions_wellFormed nodup nonempty lengths performed wellFormed
  refine ⟨workspacesOk, List.forall_mem_cons.mpr ⟨?_, restOk⟩⟩
  intro reply member failed
  obtain ⟨list, held, found⟩ := (mem_mapM listed).1 reply member
  have records := listsOk list held
  cases reply <;> cases found
  obtain ⟨message, refused⟩ := failed.error
  rw [refused] at records
  exact not_listed_error records

/-- `init` survives a refused call exactly when it is the first. -/
theorem init_intact_iff
    {app final : App}
    {answers : List (List Reply)}
    (wellFormed : app.state.WellFormed)
    (performed : app.perform (app.start .init) answers = some final)
    (failed : ∃ replies ∈ answers, ∃ reply ∈ replies, reply.Failed) :
    app.state.Intact final.state ↔
      Operation.init.Spared app.state answers := by
  obtain ⟨replies, rest, outcome, rfl, continues, performed⟩ :=
    perform_awaits performed
  obtain ⟨response, rfl, continues⟩ := continues
  -- The first call is refused exactly when its body is an error object.
  have spared : Operation.init.Spared app.state
      ([.workspaceList response] :: rest) ↔
        (Reply.workspaceList response).Failed := by
    simp [Operation.Spared]
  rw [spared]
  rcases continues with ⟨_, rfl⟩ | ⟨⟨nodup, body⟩, rfl⟩ | ⟨list, body, more, rfl⟩
  · obtain ⟨rfl, ⟨⟩⟩ := perform_result rfl performed
    refine iff_of_true ?_ (by simpa using failed)
    exact ⟨⟨rfl, rfl, rfl, rfl, rfl, rfl, rfl⟩, wellFormed⟩
  · have granted : ¬(Reply.workspaceList response).Failed := by
      intro refused
      obtain ⟨message, equal⟩ := refused.error
      cases body.symm.trans equal
    refine iff_of_false (fun intact => ?_) granted
    obtain ⟨replies, later, outcome, rfl, continues, performed⟩ :=
      perform_awaits performed
    obtain ⟨created, rfl, rfl⟩ := continues
    obtain ⟨workspaceOk, laterOk⟩ := listAll_wellFormed (by simp) (by simp)
      performed intact.2
    have created : ¬(Reply.workspace created).Failed := by
      intro refused
      obtain ⟨message, equal⟩ := refused.error
      have recorded := workspaceOk _ List.mem_cons_self
      rw [equal] at recorded
      exact recorded
    obtain ⟨replies, member, reply, inside, refused⟩ := failed
    rcases List.mem_cons.mp member with rfl | member
    · cases List.mem_singleton.mp inside
      exact granted refused
    · rcases List.mem_cons.mp member with rfl | member
      · cases List.mem_singleton.mp inside
        exact created refused
      · exact laterOk replies member reply inside refused
  · have granted : ¬(Reply.workspaceList response).Failed := by
      intro refused
      obtain ⟨message, equal⟩ := refused.error
      cases body.symm.trans equal
    refine iff_of_false (fun intact => ?_) granted
    have keys : (list.rows.map Body.ok).map
        (fun w => key (w.field (·.id))) = list.rows.map (·.id) := by
      rw [List.map_map]
      rfl
    obtain ⟨_, restOk⟩ := listAll_wellFormed (by rw [keys]; exact list.nodup)
      (by simpa using more) performed intact.2
    obtain ⟨replies, member, reply, inside, refused⟩ := failed
    rcases List.mem_cons.mp member with rfl | member
    · cases List.mem_singleton.mp inside
      exact granted refused
    · exact restOk replies member reply inside refused

/-! ## Every operation -/

/-- A refused call leaves the state intact exactly under the condition that
belongs to the operation. -/
theorem intact_iff_spared
    {app final : App}
    {operation : Operation}
    {answers : List (List Reply)}
    (wellFormed : app.state.WellFormed)
    (performed : app.perform (app.start operation) answers = some final)
    (failed : ∃ replies ∈ answers, ∃ reply ∈ replies, reply.Failed) :
    app.state.Intact final.state ↔ operation.Spared app.state answers := by
  by_cases isInit : operation = .init
  · subst isInit
    exact init_intact_iff wellFormed performed failed
  rw [wellFormed.intact_iff]
  cases operation with
  | init => exact absurd rfl isInit
  | fetchWorkspaces =>
      obtain ⟨_, _, refused, ⟨response, ⟨⟩, rfl⟩, ended⟩ :=
        perform_last performed trivial failed
      obtain ⟨message, body⟩ := refused.error
      cases ended
      refine iff_of_false (fun unchanged => ?_) id
      have listed := wellFormed.workspaces
      rw [← unchanged.workspaces, body] at listed
      exact not_listed_error listed
  | createWorkspace name =>
      obtain ⟨_, _, _, rfl, ⟨response, rfl, rfl⟩, created⟩ :=
        perform_awaits performed
      obtain ⟨_, _, _, rfl, ⟨second, rfl, rfl⟩, rested⟩ :=
        perform_awaits created
      have continues : app.Continues [.session second]
          (app.finishCreateWorkspace (request response) (request second))
          (.createWorkspaceSession (request response)) := ⟨second, rfl, rfl⟩
      have ended := (perform_result (continues.last trivial).2 rested).2
      exact iff_of_false (finishCreateWorkspace_changes wellFormed ended) id
  | deleteWorkspace id =>
      obtain ⟨_, _, _, ⟨response, ⟨⟩, rfl⟩, ended⟩ :=
        perform_last performed trivial failed
      exact finishDeleteWorkspace_unchanged_iff wellFormed ended
  | renameWorkspace id name =>
      obtain ⟨_, _, refused, ⟨response, ⟨⟩, rfl⟩, ended⟩ :=
        perform_last performed trivial failed
      obtain ⟨message, body⟩ := refused.error
      rw [body] at ended
      exact finishRenameWorkspace_unchanged_iff wellFormed ended
  | setActiveWorkspace id =>
      simp only [App.start] at performed
      split at performed
      · next sessions _ =>
          obtain ⟨rfl, _⟩ := perform_result
            (finishSetActiveWorkspace_result app id sessions) performed
          simp at failed
      · obtain ⟨_, _, refused, ⟨response, ⟨⟩, rfl⟩, ended⟩ :=
          perform_last performed trivial failed
        obtain ⟨message, body⟩ := refused.error
        rw [body] at ended
        exact finishSetActiveWorkspace_unchanged_iff wellFormed ended
  | fetchSessions wid =>
      obtain ⟨_, _, refused, ⟨response, ⟨⟩, rfl⟩, ended⟩ :=
        perform_last performed trivial failed
      obtain ⟨message, body⟩ := refused.error
      rw [body] at ended
      exact iff_of_false (finishFetchSessions_changes wellFormed ended) id
  | pollActive =>
      simp only [App.start] at performed
      split at performed
      · obtain ⟨_, _, refused, ⟨response, ⟨⟩, rfl⟩, ended⟩ :=
          perform_last performed trivial failed
        obtain ⟨message, body⟩ := refused.error
        rw [body] at ended
        exact iff_of_false (finishPollActive_changes wellFormed ended) id
      · obtain ⟨rfl, _⟩ := perform_result rfl performed
        simp at failed
  | createSession wid title =>
      obtain ⟨_, _, _, ⟨response, ⟨⟩, rfl⟩, ended⟩ :=
        perform_last performed trivial failed
      exact iff_of_false (finishCreateSession_changes wellFormed ended) id
  | deleteSession id =>
      obtain ⟨_, _, _, ⟨response, ⟨⟩, rfl⟩, ended⟩ :=
        perform_last performed trivial failed
      exact finishDeleteSession_unchanged_iff wellFormed ended
  | renameSession id title =>
      obtain ⟨_, _, refused, ⟨response, ⟨⟩, rfl⟩, ended⟩ :=
        perform_last performed trivial failed
      obtain ⟨message, body⟩ := refused.error
      rw [body] at ended
      exact finishRenameSession_unchanged_iff wellFormed ended
  | setActiveSession id =>
      obtain ⟨rfl, _⟩ := perform_result rfl performed
      simp at failed

/-- A page with one workspace and one session. -/
def loaded : App :=
  { App.initial with
    state := { AppState.initial with
      workspaces := .ok [.ok ⟨"v", "Default", 0, "", ""⟩]
      sessions := Table.empty.set "v"
        (.ok [.ok ⟨"a", "v", "Terminal", none, none, 0, "", ""⟩])
      activeWorkspaceId := some "v"
      activeSessionId := some "a"
      activeSessionByWorkspace := Table.empty.set "v" (some "a")
      initialized := true } }

theorem loaded_wellFormed : loaded.state.WellFormed where
  workspaces := ⟨[⟨"v", "Default", 0, "", ""⟩], rfl⟩
  sessions := by
    intro wid list found
    simp only [loaded, Table.get?_set] at found
    split at found
    · cases found
      exact ⟨[⟨"a", "v", "Terminal", none, none, 0, "", ""⟩], rfl⟩
    · cases found

/-- Another browser has deleted the workspace that is renamed. -/
def renameRefused : List (List Reply) :=
  [[.workspace (writeError 404 "workspace not found")]]

theorem intact_renameRefused :
    loaded.state.Intact ((loaded.perform
        (loaded.start (.renameWorkspace "gone" "name")) renameRefused).get
          (by decide)).state ↔
      (Operation.renameWorkspace "gone" "name").Spared loaded.state
        renameRefused :=
  intact_iff_spared loaded_wellFormed (Option.some_get _).symm
    ⟨_, List.mem_cons_self, _, List.mem_cons_self, 404,
      "workspace not found", by decide, rfl⟩

/-- The session cookie has expired when the page polls. -/
def pollRefused : List (List Reply) :=
  [[.sessionList (writeError 401 "unauthorized")]]

/-- The error object takes the place of the session list. -/
theorem not_intact_pollRefused :
    ∃ (app : App) (operation : Operation) (answers : List (List Reply))
        (final : App),
      app.state.WellFormed ∧
        app.perform (app.start operation) answers = some final ∧
        (∃ replies ∈ answers, ∃ reply ∈ replies, reply.Failed) ∧
        ¬app.state.Intact final.state := by
  refine ⟨loaded, .pollActive, pollRefused,
    (loaded.perform (loaded.start .pollActive) pollRefused).get (by decide),
    loaded_wellFormed, (Option.some_get _).symm,
    ⟨_, List.mem_cons_self, _, List.mem_cons_self, 401, "unauthorized",
      by decide, rfl⟩, fun intact => ?_⟩
  have stored : ((loaded.perform (loaded.start .pollActive)
      pollRefused).get (by decide)).state.sessions.get? "v" =
        some (.error "unauthorized") := by
    decide
  exact not_listed_error (intact.2.sessions "v" _ stored)

end Client
end LociTerm
