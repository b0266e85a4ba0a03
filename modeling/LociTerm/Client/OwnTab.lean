import LociTerm.Client.Activity

/-!
# The workspace that owns a tab

`deleteSession` and `renameSession` look for the session in the workspace that
is active when the response arrives.  The user may have switched to another one
by then.
-/

namespace LociTerm
namespace Client

/-- The store has nothing left of the session. -/
structure App.Forgets (app : App) (id : String) : Prop where
  sessions : ∀ wid, id ∉ sessionIds app.state.sessions wid
  activeSession : app.state.activeSessionId ≠ some id
  remembered : ∀ wid,
    app.state.activeSessionByWorkspace.get? wid ≠ some (some id)
  sessionActivity : app.state.sessionActivity.get? id = none
  toasts : ∀ t ∈ app.state.toasts, t.sessionId ≠ id
  busyTrack : app.busyTrack.get? id = none
  idleTimers : app.idleTimers.get? id = none

namespace AppState

/-- No list of another workspace has changed. -/
def SparesOthers (before after : AppState) (wid : String) : Prop :=
  ∀ other ≠ wid, after.sessions.get? other = before.sessions.get? other

/-- The list of the workspace has the updated record for the session, and is
otherwise as before. -/
def Renames
    (before after : AppState)
    (wid id : String)
    (updated : Body Session) : Prop :=
  ∃ list, before.sessions.get? wid = some (.ok list) ∧
    after.sessions.get? wid = some (.ok (list.map fun sess =>
      if sess.field (·.id) = some id then updated else sess))

/-- Only the one workspace, which is active, refers to the session. -/
def OwnsAlone (s : AppState) (wid id : String) : Prop :=
  wid ≠ "" ∧ s.activeWorkspaceId = some wid ∧
    ∀ other ≠ wid, id ∉ sessionIds s.sessions other ∧
      s.activeSessionByWorkspace.get? other ≠ some (some id)

/-- The list of the workspace already has the updated record. -/
def UpToDate
    (s : AppState)
    (wid id : String)
    (updated : Body Session) : Prop :=
  ∃ list, s.sessions.get? wid = some (.ok list) ∧
    ∀ sess ∈ list, sess.field (·.id) = some id → sess = updated

/-- The workspace is active, or there is nothing to do in any workspace. -/
def UpdatesOwn
    (s : AppState)
    (wid id : String)
    (updated : Body Session) : Prop :=
  wid ≠ "" ∧ s.activeWorkspaceId = some wid ∨
    s.UpToDate wid id updated ∧
      ∀ active ≠ "", s.activeWorkspaceId = some active →
        s.UpToDate active id updated

end AppState

/-- The store after the promise of an operation has resolved with replies. -/
def Browser.resolve
    (browser : Browser)
    (id : Nat)
    (replies : List Reply) : Option App :=
  match browser.flights.get? id with
  | some flight =>
      match browser.app.resume flight.pending replies with
      | some (.returns app) => some app
      | _ => none
  | none => none

/-- The user switches workspaces and tabs, and the lists for it arrive. -/
def BrowserAction.Switches (under : Nat) : BrowserAction → Prop
  | .call _ (.setActiveWorkspace _) | .call _ (.setActiveSession _) => True
  | .reply id _ | .reject id => id ≠ under
  | .call _ _ => False

/-! ## Switching -/

/-- An operation is under way, and every list that the store had is there. -/
structure Browser.Holds
    (browser : Browser)
    (sessions : Table String (Records Session))
    (under : Nat)
    (flight : Flight) : Prop where
  waits : browser.flights.get? under = some flight
  kept : ∀ wid list, sessions.get? wid = some list →
    browser.app.state.sessions.get? wid = some list
  others : ∀ id other, id ≠ under → browser.flights.get? id = some other →
    ∃ wid, other.pending = .setActiveWorkspace wid ∧
      sessions.get? wid = none

namespace Browser
namespace Holds

variable {browser : Browser} {sessions : Table String (Records Session)}
  {under : Nat} {flight : Flight}

/-- Another operation has ended, and the lists are there. -/
theorem landed
    (holds : browser.Holds sessions under flight)
    {id : Nat}
    (different : id ≠ under)
    {after : App}
    (kept : ∀ wid list, sessions.get? wid = some list →
      after.state.sessions.get? wid = some list) :
    (⟨after, browser.flights.erase id⟩ : Browser).Holds
      sessions under flight where
  waits := by
    rw [Table.get?_erase_of_ne _ different]
    exact holds.waits
  kept := kept
  others := fun otherId other others found => by
    rw [Table.get?_erase] at found
    split at found
    · cases found
    · exact holds.others otherId other others found

/-- A list has arrived, for a workspace that had none, or the same again. -/
theorem switched
    (holds : browser.Holds sessions under flight)
    {id : Nat}
    (different : id ≠ under)
    {wid : String}
    {list : Records Session}
    (fresh : ∀ other, sessions.get? wid = some other → other = list) :
    (browser.settle id
      (browser.app.finishSetActiveWorkspace wid list)).Holds
        sessions under flight := by
  obtain ⟨after, ended, assigned⟩ :=
    finishSetActiveWorkspace_sessions browser.app wid list
  have kept (other : String) (old : Records Session)
      (found : sessions.get? other = some old) :
      after.state.sessions.get? other = some old := by
    have before := holds.kept other old found
    rcases assigned with same | assigned
    · rwa [same]
    · rw [assigned, Table.get?_set]
      split
      · next same =>
          subst same
          rw [fresh old found]
      · exact before
  rcases ended with ended | ended
  all_goals
    rw [ended]
    exact holds.landed different kept

/-- What the user does keeps the lists and the operation. -/
theorem step
    {next : Browser}
    {action : BrowserAction}
    (holds : browser.Holds sessions under flight)
    (switches : action.Switches under)
    (stepped : browser.step action = some next) :
    next.Holds sessions under flight := by
  obtain ⟨id, operation, rfl, free, rfl⟩ |
    ⟨id, replies, other, outcome, rfl, waiting, continues, rfl⟩ |
    ⟨id, rfl, rfl⟩ := Browser.step_cases stepped
  · have different : id ≠ under := by
      rintro rfl
      cases holds.waits.symm.trans free
    cases operation with
    | setActiveWorkspace wid =>
        simp only [App.start]
        split
        · next list cached =>
            refine holds.switched different fun other found => ?_
            have same := holds.kept wid other found
            exact Option.some.inj (same.symm.trans cached)
        · next missing =>
            refine ⟨?_, holds.kept, fun otherId other others found => ?_⟩
            · exact (Table.get?_set_of_ne _ _ different).trans holds.waits
            · simp only [settle, Table.get?_set] at found
              split at found
              · cases found
                refine ⟨wid, rfl, ?_⟩
                by_contra present
                obtain ⟨list, listed⟩ := Option.ne_none_iff_exists'.mp present
                rw [holds.kept wid list listed] at missing
                cases missing
              · exact holds.others otherId other others found
    | setActiveSession session => exact holds.landed different holds.kept
    | _ => exact switches.elim
  · obtain ⟨wid, pending, missing⟩ := holds.others id other switches waiting
    rw [pending] at continues
    obtain ⟨response, rfl, rfl⟩ := continues
    refine holds.switched switches fun list found => ?_
    rw [missing] at found
    cases found
  · exact holds.landed switches holds.kept

end Holds

/-- An operation is called and the user switches; the store still has its
lists when the operation is resolved. -/
theorem resolve_of_switches
    {app after : App}
    {operation : Operation}
    {flight : Flight}
    {under : Nat}
    {switches : List BrowserAction}
    {later : Browser}
    {replies : List Reply}
    (awaits : app.start operation = .awaits flight)
    (user : ∀ action ∈ switches, action.Switches under)
    (ran : run Browser.step ⟨app, Table.empty⟩
      (.call under operation :: switches) = some later)
    (resolved : later.resolve under replies = some after) :
    (∀ wid list, app.state.sessions.get? wid = some list →
      later.app.state.sessions.get? wid = some list) ∧
    later.app.Continues replies (.returns after) flight.pending := by
  obtain ⟨called, stepped, rested⟩ := (run_cons_eq_some _).mp ran
  have start : called.Holds app.state.sessions under flight := by
    simp only [Browser.step, Table.get?_empty, Option.isSome_none,
      Bool.false_eq_true, if_false, Option.some.injEq] at stepped
    subst stepped
    rw [awaits]
    refine ⟨Table.get?_set_self _ _ _, fun _ _ found => found,
      fun otherId other others found => ?_⟩
    simp only [settle] at found
    rw [Table.get?_set_of_ne _ _ others.symm] at found
    cases found
  have always : Follows Browser.step (fun _ _ => True) called switches :=
    Follows.of_forall (fun _ _ => trivial) called switches
  have holds := invariant_of_run
    (fun _ _ _ holds switches stepped => Holds.step holds switches.1 stepped)
    start (always.and_of_forall user) rested
  refine ⟨holds.kept, ?_⟩
  simp only [resolve, holds.waits] at resolved
  split at resolved
  · next resumed =>
      cases resolved
      exact App.resume_continues resumed
  · cases resolved

end Browser

/-! ## Deleting a tab -/

theorem withoutSession_tabs
    (s : AppState)
    (wid id : String)
    (list : List (Body Session)) :
    (s.withoutSession wid id list).activeSessionByWorkspace =
      if s.remembered wid = some id then
        if truthy (s.withoutSession wid id list).activeSessionId then
          s.activeSessionByWorkspace.set wid
            (s.withoutSession wid id list).activeSessionId
        else s.activeSessionByWorkspace.erase wid
      else s.activeSessionByWorkspace :=
  rfl

/-- The remembered tabs after a deletion. -/
theorem remembered_withoutSession
    {s : AppState}
    {wid id other : String}
    {list : List (Body Session)} :
    (s.withoutSession wid id list).activeSessionByWorkspace.get? other =
        some (some id) ↔
      other ≠ wid ∧
        s.activeSessionByWorkspace.get? other = some (some id) := by
  have active : (s.withoutSession wid id list).activeSessionId ≠ some id :=
    withoutSession_active_ne
  rw [withoutSession_tabs]
  split
  · split
    · rw [Table.get?_set]
      split
      · next same => simp [← same, active]
      · next different => simp [Ne.symm different]
    · rw [Table.get?_erase]
      split
      · next same => simp [same]
      · next different => simp [Ne.symm different]
  · next forgotten =>
      refine ⟨fun found => ⟨?_, found⟩, And.right⟩
      rintro rfl
      exact forgotten (by rw [AppState.remembered, found, Option.join_some])

/-- The lists after a deletion. -/
theorem sessionIds_withoutSession
    {s : AppState}
    {wid id other : String}
    {list : List (Body Session)} :
    id ∈ sessionIds (s.withoutSession wid id list).sessions other ↔
      other ≠ wid ∧ id ∈ sessionIds s.sessions other := by
  simp only [AppState.withoutSession, sessionIds_set]
  split
  · next same =>
      refine iff_of_false (fun member => ?_) fun others => others.1 same.symm
      exact (mem_ids_filter.mp member).1 rfl
  · next different => simp [Ne.symm different]

theorem forgets_withoutSession
    {app : App}
    {wid id : String}
    {list : List (Body Session)} :
    ({ app.cancelIdleTracking id with
        state := app.state.withoutSession wid id list } : App).Forgets id ↔
      ∀ other ≠ wid, id ∉ sessionIds app.state.sessions other ∧
        app.state.activeSessionByWorkspace.get? other ≠ some (some id) := by
  constructor
  · intro forgets other different
    refine ⟨fun member => ?_, fun found => ?_⟩
    · exact forgets.sessions other
        (sessionIds_withoutSession.mpr ⟨different, member⟩)
    · exact forgets.remembered other
        (remembered_withoutSession.mpr ⟨different, found⟩)
  · intro others
    refine
      { sessions := fun other member => ?_
        activeSession := withoutSession_active_ne
        remembered := fun other found => ?_
        sessionActivity := Table.get?_erase_self _ _
        toasts := fun t member => ?_
        busyTrack := Table.get?_erase_self _ _
        idleTimers := Table.get?_erase_self _ _ }
    · obtain ⟨different, member⟩ := sessionIds_withoutSession.mp member
      exact (others other different).1 member
    · obtain ⟨different, found⟩ := remembered_withoutSession.mp found
      exact (others other different).2 found
    · have kept : t ∈ app.state.toastsWithout (· = id) := member
      simpa using (AppState.mem_toastsWithout.mp kept).2

/-- A resolved deletion clears the session away exactly when its workspace is
active then, and no other refers to it. -/
theorem finishDeleteSession_forgets_iff
    {app after : App}
    {wid id : String}
    (member : id ∈ sessionIds app.state.sessions wid)
    (resolved : app.finishDeleteSession id = .returns after) :
    after.Forgets id ∧ app.state.SparesOthers after.state wid ↔
      app.state.OwnsAlone wid id := by
  obtain ⟨active, list, named, isActive, _, rfl⟩ | ⟨inactive, rfl⟩ :=
    finishDeleteSession_cases resolved
  · rw [forgets_withoutSession]
    constructor
    · rintro ⟨others, _⟩
      have own : active = wid := by
        by_contra different
        exact (others wid (Ne.symm different)).1 member
      subst own
      exact ⟨named, isActive, others⟩
    · rintro ⟨_, owns, others⟩
      cases isActive.symm.trans owns
      refine ⟨others, fun other different => ?_⟩
      exact Table.get?_set_of_ne _ _ (Ne.symm different)
  · refine iff_of_false (fun cleaned => ?_) (fun owns => ?_)
    · exact cleaned.1.sessions wid member
    · have active := truthy_iff.mpr ⟨wid, owns.2.1, owns.1⟩
      rw [inactive] at active
      cases active

/-! ## Renaming a tab -/

/-- A list that has not been assigned has the updated record exactly when it
had it before. -/
theorem renames_iff_upToDate
    {before after : AppState}
    {wid id : String}
    {updated : Body Session}
    (same : after.sessions.get? wid = before.sessions.get? wid) :
    before.Renames after wid id updated ↔ before.UpToDate wid id updated := by
  unfold AppState.Renames AppState.UpToDate
  rw [same]
  refine exists_congr fun list => and_congr_right fun found => ?_
  rw [found, Option.some.injEq, Body.ok.injEq, eq_comm,
    map_replace_eq_self_iff]

/-- Assigning the updated list changes nothing exactly when it was there. -/
theorem set_replaced_iff
    {s : AppState}
    {wid id : String}
    {updated : Body Session}
    {list : List (Body Session)}
    (held : s.sessionsOf wid = .ok list) :
    s.sessions.get? wid = some (.ok (list.map fun sess =>
        if sess.field (·.id) = some id then updated else sess)) ↔
      s.UpToDate wid id updated := by
  unfold AppState.sessionsOf at held
  unfold AppState.UpToDate
  cases found : s.sessions.get? wid with
  | none => simp
  | some current =>
      simp only [found, Option.getD_some] at held
      subst held
      simp only [Option.some.injEq, Body.ok.injEq, exists_eq_left']
      rw [eq_comm, map_replace_eq_self_iff]

/-- A resolved renaming updates its workspace and no other exactly when its
workspace is active then, or nothing is left to do. -/
theorem finishRenameSession_renames_iff
    {app after : App}
    {wid id : String}
    {updated : Body Session}
    (member : id ∈ sessionIds app.state.sessions wid)
    (resolved : app.finishRenameSession id updated = .returns after) :
    app.state.Renames after.state wid id updated ∧
        app.state.SparesOthers after.state wid ↔
      app.state.UpdatesOwn wid id updated := by
  obtain ⟨active, list, named, isActive, held, assigned⟩ | ⟨inactive, rfl⟩ :=
    finishRenameSession_cases resolved
  · by_cases own : active = wid
    · subst own
      refine iff_of_true ⟨⟨list, ?_, ?_⟩, ?_⟩ (Or.inl ⟨named, isActive⟩)
      · unfold AppState.sessionsOf at held
        cases found : app.state.sessions.get? active with
        | none => simp [sessionIds, found] at member
        | some current => simpa [found] using held
      · rw [assigned, Table.get?_set_self]
      · intro other different
        rw [assigned, Table.get?_set_of_ne _ _ (Ne.symm different)]
    · have renames : app.state.Renames after.state wid id updated ↔
          app.state.UpToDate wid id updated := by
        apply renames_iff_upToDate
        rw [assigned, Table.get?_set_of_ne _ _ own]
      have spares : app.state.SparesOthers after.state wid ↔
          app.state.UpToDate active id updated := by
        rw [← set_replaced_iff held]
        constructor
        · intro others
          rw [← others active own, assigned, Table.get?_set_self]
        · intro same other _
          rw [assigned, Table.get?_set]
          split
          · next this =>
              subst this
              exact same.symm
          · rfl
      rw [renames, spares]
      constructor
      · rintro ⟨upToDate, others⟩
        refine Or.inr ⟨upToDate, fun other _ same => ?_⟩
        cases isActive.symm.trans same
        exact others
      · rintro (⟨_, same⟩ | ⟨upToDate, others⟩)
        · exact absurd (Option.some.inj (isActive.symm.trans same)) own
        · exact ⟨upToDate, others active named isActive⟩
  · rw [renames_iff_upToDate rfl]
    have idle (other : String) (present : other ≠ "")
        (active : after.state.activeWorkspaceId = some other) : False := by
      rw [truthy_iff.mpr ⟨other, active, present⟩] at inactive
      cases inactive
    constructor
    · rintro ⟨upToDate, _⟩
      exact Or.inr ⟨upToDate, fun other present active =>
        (idle other present active).elim⟩
    · rintro (⟨present, active⟩ | ⟨upToDate, _⟩)
      · exact (idle wid present active).elim
      · exact ⟨upToDate, fun _ _ => rfl⟩

/-! ## With the user in between -/

/-- Whatever the user does before the response arrives, the two operations act
on the workspace that owns the tab exactly under these conditions. -/
theorem ownTab_iff
    {app : App}
    {wid id : String}
    {under : Nat}
    {switches : List BrowserAction}
    (member : id ∈ sessionIds app.state.sessions wid)
    (user : ∀ action ∈ switches, action.Switches under) :
    (∀ later after response,
      run Browser.step ⟨app, Table.empty⟩
        (.call under (.deleteSession id) :: switches) = some later →
      later.resolve under [.done response] = some after →
      (after.Forgets id ∧ later.app.state.SparesOthers after.state wid ↔
        later.app.state.OwnsAlone wid id)) ∧
    ∀ title later after response,
      run Browser.step ⟨app, Table.empty⟩
        (.call under (.renameSession id title) :: switches) = some later →
      later.resolve under [.session response] = some after →
      (later.app.state.Renames after.state wid id (request response) ∧
          later.app.state.SparesOthers after.state wid ↔
        later.app.state.UpdatesOwn wid id (request response)) := by
  have stays (later : Browser)
      (kept : ∀ wid list, app.state.sessions.get? wid = some list →
        later.app.state.sessions.get? wid = some list) :
      id ∈ sessionIds later.app.state.sessions wid := by
    cases found : app.state.sessions.get? wid with
    | none => simp [sessionIds, found] at member
    | some list =>
        rw [sessionIds_of_get? (kept wid list found)]
        rwa [sessionIds_of_get? found] at member
  constructor
  · intro later after response ran resolved
    obtain ⟨kept, continues⟩ :=
      Browser.resolve_of_switches rfl user ran resolved
    obtain ⟨_, _, ended⟩ := continues
    exact finishDeleteSession_forgets_iff (stays later kept) ended.symm
  · intro title later after response ran resolved
    obtain ⟨kept, continues⟩ :=
      Browser.resolve_of_switches rfl user ran resolved
    obtain ⟨_, same, ended⟩ := continues
    cases same
    exact finishRenameSession_renames_iff (stays later kept) ended.symm

/-- The page after it has loaded with two workspaces. -/
def loadedApp : App :=
  ((run Browser.step Browser.initial loadRun).get (by decide)).app

/-- The user goes to the other workspace. -/
def away : List BrowserAction := [.call 2 (.setActiveWorkspace "w")]

/-- The user looks at the other workspace and comes back. -/
def awayAndBack : List BrowserAction :=
  [.call 2 (.setActiveWorkspace "w"), .call 3 (.setActiveSession "b"),
    .call 4 (.setActiveWorkspace "v")]

/-- The operations on the tab, with the user's switches before the reply. -/
def deletedAfter (switches : List BrowserAction) : Option Browser :=
  run Browser.step ⟨loadedApp, Table.empty⟩
    (.call 1 (.deleteSession "a") :: switches)

/-- The same for a rename. -/
def renamedAfter (switches : List BrowserAction) : Option Browser :=
  run Browser.step ⟨loadedApp, Table.empty⟩
    (.call 1 (.renameSession "a" "new") :: switches)

/-- The record that the server answers with. -/
def renamedRow : Session := { sessionRow "a" "v" with title := "new" }

instance (under : Nat) : DecidablePred (BrowserAction.Switches under)
  | .call _ (.setActiveWorkspace _) | .call _ (.setActiveSession _) =>
      isTrue trivial
  | .reply _ _ | .reject _ => inferInstanceAs (Decidable (_ ≠ _))
  | .call _ .init | .call _ .fetchWorkspaces | .call _ (.createWorkspace _)
  | .call _ (.deleteWorkspace _) | .call _ (.renameWorkspace _ _)
  | .call _ (.fetchSessions _) | .call _ .pollActive
  | .call _ (.createSession _ _) | .call _ (.deleteSession _)
  | .call _ (.renameSession _ _) => isFalse id

theorem ownTab_awayAndBack :
    (∃ later after, deletedAfter awayAndBack = some later ∧
      later.resolve 1 [.done (writeJSON 200 ())] = some after ∧
      (after.Forgets "a" ∧ later.app.state.SparesOthers after.state "v" ↔
        later.app.state.OwnsAlone "v" "a")) ∧
    ∃ later after, renamedAfter awayAndBack = some later ∧
      later.resolve 1 [.session (writeJSON 200 renamedRow)] = some after ∧
      (later.app.state.Renames after.state "v" "a" (.ok renamedRow) ∧
          later.app.state.SparesOthers after.state "v" ↔
        later.app.state.UpdatesOwn "v" "a" (.ok renamedRow)) := by
  have listed : "a" ∈ sessionIds loadedApp.state.sessions "v" := by decide
  have user : ∀ action ∈ awayAndBack, action.Switches 1 := by decide
  have deleted := (Option.some_get
    (show (deletedAfter awayAndBack).isSome from by decide)).symm
  have renamed := (Option.some_get
    (show (renamedAfter awayAndBack).isSome from by decide)).symm
  constructor
  · have resolved := (Option.some_get
      (show (((deletedAfter awayAndBack).get (by decide)).resolve 1
        [.done (writeJSON 200 ())]).isSome from by decide)).symm
    exact ⟨_, _, deleted, resolved,
      (ownTab_iff listed user).1 _ _ _ deleted resolved⟩
  · have resolved := (Option.some_get
      (show (((renamedAfter awayAndBack).get (by decide)).resolve 1
        [.session (writeJSON 200 renamedRow)]).isSome from by decide)).symm
    exact ⟨_, _, renamed, resolved,
      (ownTab_iff listed user).2 _ _ _ _ renamed resolved⟩

/-- The user is in the other workspace when the responses arrive: the deleted
tab is still listed, and the renamed one has its old record. -/
theorem not_ownTab_away :
    "a" ∈ sessionIds loadedApp.state.sessions "v" ∧
    (∀ action ∈ away, action.Switches 1) ∧
    (∃ later after, deletedAfter away = some later ∧
      later.resolve 1 [.done (writeJSON 200 ())] = some after ∧
      ¬after.Forgets "a") ∧
    ∃ later after, renamedAfter away = some later ∧
      later.resolve 1 [.session (writeJSON 200 renamedRow)] = some after ∧
      ¬later.app.state.Renames after.state "v" "a" (.ok renamedRow) := by
  refine ⟨by decide, by decide, ?_, ?_⟩
  · refine ⟨_, _, (Option.some_get (by decide)).symm,
      (Option.some_get (by decide)).symm, fun forgets => ?_⟩
    exact absurd (forgets.sessions "v") (by decide)
  · refine ⟨_, _, (Option.some_get (by decide)).symm,
      (Option.some_get (by decide)).symm, ?_⟩
    rintro ⟨list, before, after⟩
    have listed : ((renamedAfter away).get (by decide)).app.state.sessions.get?
        "v" = some (.ok [.ok (sessionRow "a" "v")]) := by
      decide
    rw [listed] at before
    cases before
    exact absurd after (by decide)

end Client
end LociTerm
