import LociTerm.Client.Delivery

/-!
# Responses that arrive late

The store puts a list or a record of a response in place whatever has happened
since the server gave it.  So a list that was read before a mutation, and that
arrives after the mutation has resolved, takes the mutation back.
-/

namespace LociTerm
namespace Client

open Store

namespace Site

theorem mutationOf_moment
    {moment : Nat}
    {reply : Reply}
    {pending : Pending}
    {mutation : Mutation}
    (confirmed : mutation ∈ (mutationOf moment reply pending).toList) :
    mutation.moment = moment := by
  rw [Option.mem_toList] at confirmed
  unfold mutationOf at confirmed
  split at confirmed
  · obtain ⟨_, _, rfl⟩ := Option.map_eq_some_iff.mp confirmed
    rfl
  · obtain ⟨_, _, rfl⟩ := Option.map_eq_some_iff.mp confirmed
    rfl
  · cases confirmed
    rfl
  · cases confirmed

/-! ## Every step -/

/-- A call waits for one response, or leaves the lists as they are. -/
theorem start_cases
    (app : App)
    {operation : Operation}
    (onSessions : operation.onSessions = true) :
    (∃ call pending, app.start operation = .awaits ⟨[call], pending⟩ ∧
        Asks pending call) ∨
      ∃ after, (app.start operation = .returns after ∨
          app.start operation = .throws after) ∧
        ∀ wid, after.state.sessions.get? wid = app.state.sessions.get? wid := by
  cases operation with
  | setActiveWorkspace id =>
      cases found : app.state.sessions.get? id with
      | none =>
          exact .inl ⟨.listSessions id, .setActiveWorkspace id,
            by simp [App.start, found], rfl⟩
      | some list =>
          obtain ⟨after, ended, assigned⟩ :=
            finishSetActiveWorkspace_sessions app id list
          refine .inr ⟨after, by simpa [App.start, found] using ended, ?_⟩
          intro wid
          rcases assigned with same | assigned
          · rw [same]
          · rw [assigned, Table.get?_set]
            split
            · rename_i same
              rw [← same, found]
            · rfl
  | pollActive =>
      by_cases active : truthy app.state.activeWorkspaceId = true
      · let wid := key app.state.activeWorkspaceId
        exact .inl ⟨.listSessions wid, .pollActive wid,
          by simp [App.start, active, wid], rfl⟩
      · exact .inr ⟨app, .inl (by simp [App.start, active]), fun _ => rfl⟩
  | fetchSessions wid | createSession wid title | deleteSession id
  | renameSession id title | deleteWorkspace id =>
      exact .inl ⟨_, _, rfl, rfl⟩
  | setActiveSession id => exact .inr ⟨_, .inl rfl, fun _ => rfl⟩
  | init | fetchWorkspaces | createWorkspace name | renameWorkspace id name =>
      cases onSessions

namespace Sound

variable {site next : Site}

/-- A request has ended. -/
theorem land
    {id : Nat}
    {after : App}
    {resolved : List Mutation}
    {removed : List String}
    (sound : site.Sound)
    (sourced : Sourced site.moments after.state.sessions)
    (past : ∀ mutation ∈ resolved, mutation.moment < site.moments.length) :
    (site.land id after resolved removed).Sound where
  consistent := sound.consistent
  resolved mutation member := by
    rcases List.mem_append.mp member with new | old
    · exact past mutation new
    · exact sound.resolved mutation old
  sourced := sourced
  asks other request found := by
    simp only [Site.land, Table.get?_erase] at found
    split at found
    · cases found
    · exact sound.asks other request found
  serves other request found := by
    simp only [Site.land, Table.get?_erase] at found
    split at found
    · cases found
    · exact sound.serves other request found

/-- A request is under way. -/
theorem send
    {id : Nat}
    {call : Call}
    {pending : Pending}
    (sound : site.Sound)
    (asks : Asks pending call) :
    ({ site with
        requests := site.requests.set id ⟨pending, call, none⟩ } : Site).Sound :=
  { sound with
    asks := fun other request found => by
      simp only [Table.get?_set] at found
      split at found
      · cases found
        exact asks
      · exact sound.asks other request found
    serves := fun other request found => by
      simp only [Table.get?_set] at found
      split at found
      · cases found
        rintro served ⟨⟩
      · exact sound.serves other request found }

/-- The server has served a request. -/
theorem serve
    {id : Nat}
    {call : Call}
    {pending : Pending}
    {db after : Database}
    {fresh : String}
    {now : Nat}
    {getCwd : String → String}
    {reply : Reply}
    (sound : site.Sound)
    (found : site.requests.get? id = some ⟨pending, call, none⟩)
    (last : site.moments.getLast? = some db)
    (new : fresh ∉ site.used)
    (served : Api.serve db fresh now getCwd call = some (after, reply)) :
    ({ site with
        requests := site.requests.set id
          ⟨pending, call, some (site.moments.length, reply)⟩
        moments := site.moments ++ [after]
        used := fresh :: (call.target ++ site.used) } : Site).Sound := by
  have advances := Api.serve_advances served
  have covers : ∀ other ∈ fresh :: site.used,
      other ∈ fresh :: (call.target ++ site.used) := by
    intro other member
    rcases List.mem_cons.mp member with same | old
    · simp [same]
    · simp [old]
  have longer : (site.moments ++ [after]).length = site.moments.length + 1 :=
    List.length_append
  have asks := sound.asks id _ found
  constructor
  · exact sound.consistent.append last new advances covers
  · intro mutation member
    exact (Nat.lt_succ_of_lt (sound.resolved mutation member)).trans_eq
      longer.symm
  · exact sound.sourced.append after
  · intro other request entry
    simp only [Table.get?_set] at entry
    split at entry
    · cases entry
      exact asks
    · exact sound.asks other request entry
  · intro other request entry
    simp only [Table.get?_set] at entry
    split at entry
    · cases entry
      rintro _ ⟨⟩
      exact ⟨(Nat.lt_succ_self _).trans_eq longer.symm,
        Serves.of_serve sound.consistent new asks served⟩
    · intro earlier found
      obtain ⟨past, serves⟩ := sound.serves other request entry earlier found
      exact ⟨(Nat.lt_succ_of_lt past).trans_eq longer.symm,
        serves.append past last new advances covers⟩

/-- Every step keeps what the lists rest on, and reflects what has resolved
exactly if a reply arrives in time. -/
theorem delivers_step
    {action : SiteAction}
    (sound : site.Sound)
    (stepped : site.step action = some next) :
    next.Sound ∧
      (site.Reflects → (next.Reflects ↔ site.InTime action)) := by
  cases action with
  | call id operation =>
      simp only [Site.step] at stepped
      split at stepped
      · cases stepped
      · rename_i allowed
        have onSessions : operation.onSessions = true := by
          simp at allowed
          exact allowed.2
        obtain ⟨call, pending, awaits, asks⟩ | ⟨after, ended, same⟩ :=
          start_cases site.app onSessions
        · rw [awaits] at stepped
          cases stepped
          exact ⟨sound.send asks, fun reflects => iff_of_true reflects trivial⟩
        · have changed : next = { site with app := after } := by
            rcases ended with ended | ended <;>
              · rw [ended] at stepped
                cases stepped
                rfl
          subst changed
          exact ⟨{ sound with sourced := sound.sourced.of_get? same },
            fun reflects => iff_of_true (Reflected.of_get? reflects same) trivial⟩
  | serve id fresh now getCwd =>
      simp only [Site.step] at stepped
      split at stepped
      · rename_i pending call db found last
        split at stepped
        · cases stepped
        · rename_i new
          obtain ⟨⟨after, reply⟩, served, rfl⟩ :=
            Option.map_eq_some_iff.mp stepped
          exact ⟨sound.serve found last new served,
            fun reflects => iff_of_true (Reflected.append reflects after) trivial⟩
      · cases stepped
  | reply id =>
      obtain ⟨pending, call, moment, reply, found, landed⟩ := reply_cases stepped
      obtain ⟨past, serves⟩ := sound.serves id _ found _ rfl
      have inTime : site.InTime (.reply id) ↔ site.Arrives moment reply pending := by
        simp [InTime, found]
      rw [inTime]
      rcases landed with ⟨after, continues, rfl⟩ | ⟨after, continues, rfl⟩
      · have delivers : site.Delivers (site.land id after _ _)
            (site.Arrives moment reply pending) :=
          sound.delivers_returns past serves continues
        refine ⟨sound.land delivers.sourced fun mutation member => ?_,
          delivers.reflects_iff⟩
        rw [mutationOf_moment member]
        exact past
      · obtain ⟨wid, rfl, rfl⟩ := sound.throws_cases serves continues
        have delivers : site.Delivers (site.land id site.app [] []) True :=
          sound.delivers_same rfl
        exact ⟨sound.land delivers.sourced (by simp), delivers.reflects_iff⟩
  | reject id =>
      simp only [Site.step] at stepped
      split at stepped
      · cases stepped
        have landed : (site.land id site.app [] []).Sound :=
          sound.land sound.sourced (by simp)
        exact ⟨landed, fun reflects => iff_of_true reflects trivial⟩
      · cases stepped

end Sound
end Site

/-! ## Whole runs -/

namespace LoadedPage

theorem sound_start (page : LoadedPage) : page.start.Sound where
  consistent := by
    refine ⟨fun db member other otherMember row stands twin twinStands same => ?_,
      fun db member row stands => ?_⟩
    · rw [List.mem_singleton.mp member] at stands
      rw [List.mem_singleton.mp otherMember] at twinStands
      rw [List.inj_on_of_nodup_map page.nodup stands twinStands same]
    · rw [List.mem_singleton.mp member] at stands
      exact List.mem_map_of_mem stands
  resolved mutation member := by cases member
  sourced := by
    refine ⟨page.lists, fun wid session member => ?_⟩
    exact ⟨page.db, List.mem_singleton_self _, page.rows wid session member⟩
  asks id request found := by cases found
  serves id request found := by cases found

theorem reflects_start (page : LoadedPage) : page.start.Reflects := by
  refine ⟨fun mutation member => ?_, fun wid member => ?_⟩
  · cases member
  · cases member

/-- Throughout a run the lists reflect the mutations that have resolved exactly
if every reply arrives in time. -/
theorem reflects_iff
    (page : LoadedPage)
    {actions : List SiteAction}
    {final : Site}
    (ran : run Site.step page.start actions = some final) :
    (∀ first middle, first <+: actions →
        run Site.step page.start first = some middle → middle.Reflects) ↔
      Follows Site.step Site.InTime page.start actions := by
  have preserved :
      ∀ state action next, Site.Sound state →
        Site.step state action = some next → Site.Sound next :=
    fun _ _ _ sound stepped => (sound.delivers_step stepped).1
  have exact :
      ∀ state action next, Site.Sound state → Site.Reflects state →
        Site.step state action = some next →
          (Site.Reflects next ↔ Site.InTime state action) :=
    fun _ _ _ sound reflects stepped =>
      (sound.delivers_step stepped).2 reflects
  exact Follows.iff_forall_states preserved exact page.sound_start
    page.reflects_start ran

/-- A page that shows the one session of the one workspace. -/
def oneSession : LoadedPage where
  app :=
    { App.initial with
      state := { AppState.initial with
        workspaces := .ok [.ok ⟨"w", "Default", 0, "0", "0"⟩]
        sessions := Table.empty.set "w"
          (.ok [.ok ⟨"a", "w", "Terminal", none, none, 0, "0", "0"⟩])
        activeWorkspaceId := some "w"
        activeSessionId := some "a"
        activeSessionByWorkspace := Table.empty.set "w" (some "a")
        initialized := true } }
  db := ⟨[⟨"w", "Default", 0, 0, 0⟩], [⟨"a", "w", "Terminal", "", 0, 0, 0⟩], none⟩
  nodup := by decide
  lists wid list found := by
    rw [Table.get?_set] at found
    split at found
    · cases found
      trivial
    · cases found
  rows wid session member := by
    rw [cached_set] at member
    split at member
    · rename_i same
      subst same
      rw [mem_values, List.mem_singleton] at member
      cases member
      decide
    · cases member

/-- The list of a poll is read before a session is created, and arrives while
the creation is under way. -/
def pollFirst : List SiteAction :=
  [.call 0 .pollActive, .call 1 (.createSession "w" none),
    .serve 0 "" 1 id, .serve 1 "b" 1 id, .reply 0, .reply 1,
    .call 0 (.renameSession "b" "build"), .call 1 (.fetchSessions "w"),
    .serve 0 "c" 2 id, .serve 1 "d" 3 id, .reply 1, .reply 0]

theorem reflects_pollFirst :
    ((run Site.step oneSession.start pollFirst).get (by decide)).Reflects :=
  (oneSession.reflects_iff (Option.some_get (by decide)).symm).mpr (by decide)
    pollFirst _ List.prefix_rfl (Option.some_get _).symm

/-- The list of a poll is read before a session is created, and arrives after
the creation has resolved. -/
def pollLast : List SiteAction :=
  [.call 0 .pollActive, .serve 0 "" 1 id, .call 1 (.createSession "w" none),
    .serve 1 "b" 1 id, .reply 1, .reply 0]

/-- The list does not have the created session. -/
theorem not_reflects_pollLast :
    ¬ ∀ (page : LoadedPage) actions final,
      run Site.step page.start actions = some final → final.Reflects := by
  intro always
  have reflects := always oneSession pollLast _
    (Option.some_get (by decide)).symm
  have shown := reflects.lists ⟨"b", 2⟩ (by decide) "w"
  exact absurd shown (by decide)

end LoadedPage
end Client
end LociTerm
