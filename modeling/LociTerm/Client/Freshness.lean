import LociTerm.Client.Site
import LociTerm.Library.Run

/-!
# What the lists show and what the server knows

A list shows the sessions of its records.  What a reply says stays true of the
moment at which the server has given it, and what is gone stays gone.
-/

namespace LociTerm
namespace Client

open Store

/-! ## The sessions of a list -/

@[simp] theorem values_ok_map (sessions : List Session) :
    values (.ok (sessions.map .ok)) = sessions := by
  simp [values, List.filterMap_map]

theorem values_append (list : List (Body Session)) (record : Body Session) :
    values (.ok (list ++ [record])) =
      values (.ok list) ++ values (.ok [record]) := by
  simp [values]

theorem mem_values {list : List (Body Session)} {session : Session} :
    session ∈ values (.ok list) ↔ .ok session ∈ list := by
  simp only [values, List.mem_filterMap]
  constructor
  · rintro ⟨record, member, found⟩
    cases record with
    | ok value =>
        cases found
        exact member
    | error message => cases found
  · intro member
    exact ⟨.ok session, member, rfl⟩

/-- A deletion keeps the sessions with other ids. -/
theorem mem_values_filter
    {list : List (Body Session)}
    {id : String}
    {session : Session} :
    session ∈ values (.ok (list.filter (·.field (·.id) ≠ some id))) ↔
      session ∈ values (.ok list) ∧ session.id ≠ id := by
  simp [mem_values, List.mem_filter]

/-- A rename replaces the sessions with the id. -/
theorem mem_values_replace
    {list : List (Body Session)}
    {id : String}
    {updated : Body Session}
    {session : Session} :
    session ∈ values (.ok (list.map fun sess =>
        if sess.field (·.id) = some id then updated else sess)) ↔
      (session ∈ values (.ok list) ∧ session.id ≠ id) ∨
        (updated = .ok session ∧ ∃ old ∈ values (.ok list), old.id = id) := by
  simp only [mem_values, List.mem_map]
  constructor
  · rintro ⟨record, member, replaced⟩
    split at replaced
    · rename_i found
      cases record with
      | ok old =>
          exact .inr ⟨replaced, old, member, by simpa using found⟩
      | error message => cases found
    · rename_i other
      subst replaced
      exact .inl ⟨member, by simpa using other⟩
  · rintro (⟨member, other⟩ | ⟨rfl, old, member, found⟩)
    · exact ⟨.ok session, member, by simp [other]⟩
    · exact ⟨.ok old, member, by simp [found]⟩

@[simp] theorem cached_set
    (sessions : Table String (Records Session))
    (wid other : String)
    (list : Records Session) :
    cached (sessions.set wid list) other =
      if wid = other then values list else cached sessions other := by
  unfold cached
  rw [Table.get?_set]
  split <;> rfl

@[simp] theorem cached_erase
    (sessions : Table String (Records Session))
    (wid other : String) :
    cached (sessions.erase wid) other =
      if wid = other then [] else cached sessions other := by
  unfold cached
  rw [Table.get?_erase]
  split <;> rfl

/-- What is cached stands in a list that is there. -/
theorem mem_keys_of_mem_cached
    {sessions : Table String (Records Session)}
    {wid : String}
    {session : Session}
    (member : session ∈ cached sessions wid) :
    wid ∈ sessions.keys := by
  rw [Table.mem_keys_iff]
  unfold cached at member
  cases found : sessions.get? wid with
  | none => simp [found] at member
  | some list => rfl

theorem values_sessionsOf (s : AppState) (wid : String) :
    values (s.sessionsOf wid) = cached s.sessions wid := by
  unfold AppState.sessionsOf cached
  cases s.sessions.get? wid <;> rfl

/-! ## What a list shows of a mutation -/

namespace Mutation

variable {mutation : Mutation} {moments : List Database} {wid : String}
  {sessions : List Session}

theorem ShownBy.append
    (shown : mutation.ShownBy moments wid sessions)
    (db : Database) :
    mutation.ShownBy (moments ++ [db]) wid sessions :=
  ⟨fun session member same => (shown.1 session member same).append db,
    fun absent => (shown.2 absent).append db⟩

/-- A list that lacks the session is right if the server has lacked it. -/
theorem shownBy_of_absent
    (absent : ∀ session ∈ sessions, session.id ≠ mutation.id)
    (lacked : SomeSince moments mutation.moment (·.Lacks wid mutation.id)) :
    mutation.ShownBy moments wid sessions :=
  ⟨fun session member same => absurd same (absent session member),
    fun _ => lacked⟩

/-- A record that is added has to be in time for the mutations of its
session. -/
theorem shownBy_append_iff
    (shown : mutation.ShownBy moments wid sessions)
    (session : Session) :
    mutation.ShownBy moments wid (sessions ++ [session]) ↔
      (session.id = mutation.id →
        SomeSince moments mutation.moment
          (·.HasTitle wid mutation.id session.title)) := by
  constructor
  · intro after
    exact after.1 session (by simp)
  · intro inTime
    refine ⟨fun other member same => ?_, fun absent => ?_⟩
    · rcases List.mem_append.mp member with old | new
      · exact shown.1 other old same
      · rw [List.mem_singleton.mp new] at same ⊢
        exact inTime same
    · exact shown.2 fun other member => absent other (by simp [member])

/-- A list that the server has read shows what stood in the database. -/
theorem shownBy_list_iff (db : Database) (getCwd : String → String) :
    mutation.ShownBy moments wid
        ((db.listSessions wid).map fun row =>
          Api.sessionJSON (getCwd row.id) row) ↔
      (∀ row ∈ db.sessions, row.workspaceID = wid → row.id = mutation.id →
          SomeSince moments mutation.moment
            (·.HasTitle wid mutation.id row.title)) ∧
        (db.Lacks wid mutation.id →
          SomeSince moments mutation.moment (·.Lacks wid mutation.id)) := by
  unfold ShownBy
  refine and_congr ?_ (imp_congr_left ?_)
  · simp only [List.forall_mem_map, Database.mem_listSessions, and_imp]
    rfl
  · simp only [List.forall_mem_map, Database.mem_listSessions, and_imp]
    rfl

end Mutation
namespace Reflected

variable {moments : List Database} {resolved : List Mutation}
  {removed : List String} {sessions : Table String (Records Session)}

theorem append
    (reflected : Reflected moments resolved removed sessions)
    (db : Database) :
    Reflected (moments ++ [db]) resolved removed sessions :=
  ⟨fun mutation member wid => (reflected.lists mutation member wid).append db,
    reflected.removed⟩

/-- Only the lookups in the table matter. -/
theorem of_get?
    {after : Table String (Records Session)}
    (reflected : Reflected moments resolved removed sessions)
    (same : ∀ wid, after.get? wid = sessions.get? wid) :
    Reflected moments resolved removed after where
  lists mutation member wid := by
    have equal : cached after wid = cached sessions wid := by
      unfold cached
      rw [same]
    rw [equal]
    exact reflected.lists mutation member wid
  removed wid member := (same wid).trans (reflected.removed wid member)

/-- A list that is put in place has to show every mutation. -/
theorem set_iff
    (reflected : Reflected moments resolved removed sessions)
    (wid : String)
    (list : Records Session) :
    Reflected moments resolved removed (sessions.set wid list) ↔
      wid ∉ removed ∧
        ∀ mutation ∈ resolved, mutation.ShownBy moments wid (values list) := by
  constructor
  · intro after
    refine ⟨fun member => ?_, fun mutation member => ?_⟩
    · have missing := after.removed wid member
      rw [Table.get?_set_self] at missing
      cases missing
    · have shown := after.lists mutation member wid
      rwa [cached_set, if_pos rfl] at shown
  · rintro ⟨kept, shown⟩
    refine ⟨fun mutation member other => ?_, fun other member => ?_⟩
    · rw [cached_set]
      split
      · rename_i same
        subst same
        exact shown mutation member
      · exact reflected.lists mutation member other
    · have different : wid ≠ other := by
        rintro rfl
        exact kept member
      rw [Table.get?_set_of_ne _ _ different]
      exact reflected.removed other member

/-- A mutation that resolves has to be shown by every list. -/
theorem cons_iff {mutation : Mutation} :
    Reflected moments (mutation :: resolved) removed sessions ↔
      (∀ wid, mutation.ShownBy moments wid (cached sessions wid)) ∧
        Reflected moments resolved removed sessions := by
  constructor
  · intro after
    exact ⟨after.lists mutation (by simp),
      fun other member => after.lists other (by simp [member]), after.removed⟩
  · rintro ⟨shown, before⟩
    refine ⟨fun other member => ?_, before.removed⟩
    rcases List.mem_cons.mp member with rfl | old
    · exact shown
    · exact before.lists other old

end Reflected

/-! ## What the server knows -/

/-- The session is in no workspace. -/
def Gone (id : String) (db : Database) : Prop := ∀ wid, db.Lacks wid id

/-- The workspace is gone with its sessions. -/
def Emptied (wid : String) (db : Database) : Prop :=
  (∀ workspace ∈ db.workspaces, workspace.id ≠ wid) ∧ ∀ id, db.Lacks wid id

/-- A session never changes its workspace, and the server has met all ids. -/
structure Consistent (moments : List Database) (used : List String) : Prop where
  stable : ∀ db ∈ moments, ∀ other ∈ moments, ∀ row ∈ db.sessions,
    ∀ twin ∈ other.sessions, row.id = twin.id →
      row.workspaceID = twin.workspaceID
  used : ∀ db ∈ moments, ∀ row ∈ db.sessions, row.id ∈ used

/-- What holds of a request that was served at a moment. -/
def Serves
    (moments : List Database)
    (used : List String)
    (moment : Nat)
    (reply : Reply) : Pending → Prop
  | .setActiveWorkspace wid | .fetchSessions wid | .pollActive wid =>
      ∃ db getCwd, moments[moment]? = some db ∧
        reply = .sessionList (Api.list db wid getCwd)
  | .createSession wid => ∃ response, reply = .session response ∧
      ((∃ status message, response = writeError status message) ∨
        ∃ session, response = writeJSON 201 session ∧
          (∃ db, moments[moment]? = some db ∧
            db.HasTitle wid session.id session.title) ∧
          ∀ earlier < moment, ∀ db, moments[earlier]? = some db →
            Gone session.id db)
  | .renameSession id => ∃ response, reply = .session response ∧
      ((∃ status message, response = writeError status message) ∧
          id ∈ used ∧ AlwaysSince moments moment (Gone id) ∨
        ∃ session, response = writeJSON 200 session ∧ session.id = id ∧
          ∃ db, moments[moment]? = some db ∧
            db.HasTitle session.workspaceId id session.title)
  | .deleteSession id => reply = .done (writeJSON 200 ()) ∧ id ∈ used ∧
      AlwaysSince moments moment (Gone id)
  | .deleteWorkspace wid => reply = .done (writeJSON 200 ()) ∧
      AlwaysSince moments moment (Emptied wid)
  | _ => False

section Growth

variable {moments : List Database} {used more : List String} {db next : Database}
  {fresh : String}

/-- The server never meets a session again that is gone. -/
theorem Gone.advances
    {id : String}
    (gone : Gone id db)
    (met : id ∈ used)
    (new : fresh ∉ used)
    (advances : Api.Advances db next fresh) :
    Gone id next := by
  intro wid row member there here
  obtain ⟨place, rows⟩ := advances.rows
  rcases rows row member with ⟨old, before, same, stays⟩ | ⟨same, _⟩
  · exact gone wid old before (stays.trans there) (same.trans here)
  · rw [here] at same
    exact new (same ▸ met)

/-- Nothing is created in a workspace that is gone. -/
theorem Emptied.advances
    {wid : String}
    (emptied : Emptied wid db)
    (advances : Api.Advances db next fresh) :
    Emptied wid next := by
  refine ⟨fun workspace member => ?_, fun id row member there here => ?_⟩
  · exact emptied.1 workspace (advances.workspaces workspace member)
  · obtain ⟨place, rows⟩ := advances.rows
    rcases rows row member with ⟨old, before, same, stays⟩ |
      ⟨_, stands, workspace, known, found⟩
    · exact emptied.2 id old before (stays.trans there) (same.trans here)
    · refine emptied.1 workspace known ?_
      rw [found, ← stands, there]

theorem Consistent.append
    (consistent : Consistent moments used)
    (last : moments.getLast? = some db)
    (new : fresh ∉ used)
    (advances : Api.Advances db next fresh)
    (covers : ∀ id ∈ fresh :: used, id ∈ more) :
    Consistent (moments ++ [next]) more := by
  have current : db ∈ moments := List.mem_of_getLast? last
  obtain ⟨place, rows⟩ := advances.rows
  -- A row is an old one or the one that has just been created.
  have origin (state : Database) (member : state ∈ moments ++ [next])
      (row : Store.Session) (stands : row ∈ state.sessions) :
      (∃ before ∈ moments, ∃ old ∈ before.sessions, old.id = row.id ∧
          old.workspaceID = row.workspaceID) ∨
        (row.id = fresh ∧ row.workspaceID = place) := by
    rcases List.mem_append.mp member with before | final
    · exact .inl ⟨state, before, row, stands, rfl, rfl⟩
    · rw [List.mem_singleton.mp final] at stands
      rcases rows row stands with ⟨old, before, same⟩ | ⟨same, there, _⟩
      · exact .inl ⟨db, current, old, before, same⟩
      · exact .inr ⟨same, there⟩
  constructor
  · intro first firstMember second secondMember row stands twin twinStands same
    rcases origin first firstMember row stands with
      ⟨_, past, old, before, here, there⟩ | ⟨here, there⟩
    · rcases origin second secondMember twin twinStands with
        ⟨_, other, same', before', here', there'⟩ | ⟨here', _⟩
      · rw [← there, ← there']
        exact consistent.stable _ past _ other old before same' before'
          (here.trans (same.trans here'.symm))
      · refine absurd ?_ new
        rw [← here', ← same, ← here]
        exact consistent.used _ past old before
    · rcases origin second secondMember twin twinStands with
        ⟨_, other, same', before', here', _⟩ | ⟨_, there'⟩
      · refine absurd ?_ new
        rw [← here, same, ← here']
        exact consistent.used _ other same' before'
      · rw [there, there']
  · intro state member row stands
    rcases origin state member row stands with ⟨_, past, old, before, here, _⟩ |
      ⟨here, _⟩
    · rw [← here]
      exact covers old.id (by simp [consistent.used _ past old before])
    · rw [here]
      exact covers fresh (by simp)

/-- What is always so since a moment goes on being so. -/
theorem alwaysSince_append
    {property : Database → Prop}
    {moment : Nat}
    (always : AlwaysSince moments moment property)
    (past : moment < moments.length)
    (last : moments.getLast? = some db)
    (goesOn : property db → property next) :
    AlwaysSince (moments ++ [next]) moment property := by
  have final : moments[moments.length - 1]? = some db := by
    rw [← List.getLast?_eq_getElem?]
    exact last
  exact always.append (goesOn (always.of_getElem? final (by omega)))

/-- What the server has replied stays true. -/
theorem Serves.append
    {moment : Nat}
    {reply : Reply}
    {pending : Pending}
    (serves : Serves moments used moment reply pending)
    (past : moment < moments.length)
    (last : moments.getLast? = some db)
    (new : fresh ∉ used)
    (advances : Api.Advances db next fresh)
    (covers : ∀ id ∈ fresh :: used, id ∈ more) :
    Serves (moments ++ [next]) more moment reply pending := by
  have keeps (place : Nat) (before : place < moments.length) :
      (moments ++ [next])[place]? = moments[place]? :=
    List.getElem?_append_left before
  have met (id : String) (known : id ∈ used) : id ∈ more :=
    covers id (by simp [known])
  cases pending with
  | setActiveWorkspace wid | fetchSessions wid | pollActive wid =>
      obtain ⟨state, getCwd, found, reads⟩ := serves
      exact ⟨state, getCwd, (keeps moment past).trans found, reads⟩
  | createSession wid =>
      obtain ⟨response, reads, fails | ⟨session, works, title, fresh⟩⟩ := serves
      · exact ⟨response, reads, .inl fails⟩
      · obtain ⟨state, found, title⟩ := title
        refine ⟨response, reads, .inr ⟨session, works,
          ⟨state, (keeps moment past).trans found, title⟩, ?_⟩⟩
        intro earlier before state found
        rw [keeps earlier (before.trans past)] at found
        exact fresh earlier before state found
  | renameSession id =>
      obtain ⟨response, reads, ⟨fails, known, gone⟩ |
        ⟨session, works, same, state, found, title⟩⟩ := serves
      · exact ⟨response, reads, .inl ⟨fails, met id known,
          alwaysSince_append gone past last
            fun gone => gone.advances known new advances⟩⟩
      · exact ⟨response, reads, .inr ⟨session, works, same, state,
          (keeps moment past).trans found, title⟩⟩
  | deleteSession id =>
      obtain ⟨reads, known, gone⟩ := serves
      exact ⟨reads, met id known, alwaysSince_append gone past last
        fun gone => gone.advances known new advances⟩
  | deleteWorkspace wid =>
      obtain ⟨reads, emptied⟩ := serves
      exact ⟨reads, alwaysSince_append emptied past last
        fun emptied => emptied.advances advances⟩
  | initWorkspaces | initDefault | initSessions workspaces
  | initSession workspaces sessions tabs wid | fetchWorkspaces
  | createWorkspace | createWorkspaceSession ws | renameWorkspace id =>
      exact serves.elim

/-- The call that an operation awaits. -/
def Asks : Pending → Call → Prop
  | .setActiveWorkspace wid, .listSessions asked
  | .fetchSessions wid, .listSessions asked
  | .pollActive wid, .listSessions asked
  | .createSession wid, .createSession asked _
  | .deleteWorkspace wid, .deleteWorkspace asked => asked = wid
  | .deleteSession id, .deleteSession asked
  | .renameSession id, .updateSession asked _ => asked = id
  | _, _ => False

/-- A fresh id is that of no session so far. -/
theorem Consistent.gone
    (consistent : Consistent moments used)
    (new : fresh ∉ used)
    {state : Database}
    (member : state ∈ moments) :
    Gone fresh state := by
  intro wid row stands _ same
  exact new (same ▸ consistent.used state member row stands)

/-- The server serves a request. -/
theorem Serves.of_serve
    {pending : Pending}
    {call : Call}
    {now : Nat}
    {getCwd : String → String}
    {reply : Reply}
    (consistent : Consistent moments used)
    (new : fresh ∉ used)
    (asks : Asks pending call)
    (served : Api.serve db fresh now getCwd call = some (next, reply)) :
    Serves (moments ++ [next]) (fresh :: (call.target ++ used)) moments.length
      reply pending := by
  have final : (moments ++ [next])[moments.length]? = some next :=
    List.getElem?_concat_length ..
  unfold Asks at asks
  split at asks
  · subst asks
    cases served
    exact ⟨_, getCwd, final, rfl⟩
  · subst asks
    cases served
    exact ⟨_, getCwd, final, rfl⟩
  · subst asks
    cases served
    exact ⟨_, getCwd, final, rfl⟩
  · rename_i wid asked title
    subst asks
    obtain ⟨rfl, rfl⟩ :
        (Api.create db asked title fresh now).1 = next ∧
          .session (Api.create db asked title fresh now).2 = reply := by
      simpa [Api.serve] using served
    rcases Api.create_cases db asked title fresh now with
      ⟨_, fails⟩ | ⟨session, works, same, _, title, _⟩
    · exact ⟨_, rfl, .inl fails⟩
    · refine ⟨_, rfl, .inr ⟨session, works, ⟨_, final, same ▸ title⟩, ?_⟩⟩
      intro earlier before state found
      rw [List.getElem?_append_left before] at found
      rw [same]
      exact consistent.gone new (List.mem_of_getElem? found)
  · subst asks
    cases served
    refine ⟨rfl, AlwaysSince.of_last ⟨fun workspace member => ?_,
      fun id row member => ?_⟩⟩
    · simpa using (List.mem_filter.mp member).2
    · exact fun there => absurd there (by simpa using (List.mem_filter.mp member).2)
  · subst asks
    cases served
    refine ⟨rfl, by simp [Call.target], AlwaysSince.of_last ?_⟩
    intro wid row member _
    simpa using (List.mem_filter.mp member).2
  · rename_i id asked title
    subst asks
    obtain ⟨rfl, rfl⟩ :
        (Api.update db asked title now).1 = next ∧
          .session (Api.update db asked title now).2 = reply := by
      simpa [Api.serve] using served
    obtain ⟨_, ⟨fails, missing⟩ | ⟨session, works, same, title⟩⟩ :=
      Api.update_cases db asked title fresh now
    · exact ⟨_, rfl, .inl ⟨fails, by simp [Call.target],
        AlwaysSince.of_last fun wid row member _ => missing row member⟩⟩
    · exact ⟨_, rfl, .inr ⟨session, works, same, _, final, title⟩⟩
  · exact asks.elim

end Growth

/-! ## Where the rows of the lists come from -/

/-- Every list is one of sessions that the server has had in the workspace. -/
structure Sourced
    (moments : List Database)
    (sessions : Table String (Records Session)) : Prop where
  lists : ∀ wid list, sessions.get? wid = some list → list.IsOk
  rows : ∀ wid, ∀ session ∈ cached sessions wid, ∃ db ∈ moments,
    db.HasTitle wid session.id session.title

namespace Sourced

variable {moments : List Database} {sessions : Table String (Records Session)}

theorem append
    (sourced : Sourced moments sessions)
    (db : Database) :
    Sourced (moments ++ [db]) sessions where
  lists := sourced.lists
  rows wid session member := by
    obtain ⟨old, past, held⟩ := sourced.rows wid session member
    exact ⟨old, List.mem_append_left _ past, held⟩

theorem of_get?
    {after : Table String (Records Session)}
    (sourced : Sourced moments sessions)
    (same : ∀ wid, after.get? wid = sessions.get? wid) :
    Sourced moments after where
  lists wid list found := sourced.lists wid list ((same wid).symm.trans found)
  rows wid session member := by
    unfold cached at member
    rw [same] at member
    exact sourced.rows wid session member

theorem set
    (sourced : Sourced moments sessions)
    {wid : String}
    {list : List (Body Session)}
    (rows : ∀ session ∈ values (.ok list), ∃ db ∈ moments,
      db.HasTitle wid session.id session.title) :
    Sourced moments (sessions.set wid (.ok list)) where
  lists other found entry := by
    rw [Table.get?_set] at entry
    split at entry
    · cases entry
      trivial
    · exact sourced.lists other found entry
  rows other session member := by
    rw [cached_set] at member
    split at member
    · rename_i same
      subst same
      exact rows session member
    · exact sourced.rows other session member

theorem erase
    (sourced : Sourced moments sessions)
    (wid : String) :
    Sourced moments (sessions.erase wid) where
  lists other list found := by
    rw [Table.get?_erase] at found
    split at found
    · cases found
    · exact sourced.lists other list found
  rows other session member := by
    rw [cached_erase] at member
    split at member
    · cases member
    · exact sourced.rows other session member

end Sourced

/-- A list of the store is an array, and holds what is cached. -/
theorem Sourced.sessionsOf
    {moments : List Database}
    {s : AppState}
    (sourced : Sourced moments s.sessions)
    (wid : String) :
    ∃ list, s.sessionsOf wid = .ok list ∧
      values (.ok list) = cached s.sessions wid := by
  have held := values_sessionsOf s wid
  cases found : s.sessions.get? wid with
  | none =>
      have empty : s.sessionsOf wid = .ok [] := by
        simp [AppState.sessionsOf, found]
      exact ⟨[], empty, empty ▸ held⟩
  | some list =>
      have same : s.sessionsOf wid = list := by
        simp [AppState.sessionsOf, found]
      have array := sourced.lists wid list found
      cases list with
      | ok records => exact ⟨records, same, same ▸ held⟩
      | error message => exact array.elim

/-! ## Sessions that are held and sessions that are gone -/

section Moments

variable {moments : List Database} {used : List String}
  {resolved : List Mutation} {removed : List String}
  {sessions : Table String (Records Session)} {wid id : String} {moment : Nat}

theorem Consistent.same_workspace
    (consistent : Consistent moments used)
    {first second : Database}
    {other title name : String}
    (here : first ∈ moments)
    (held : first.HasTitle wid id title)
    (there : second ∈ moments)
    (holds : second.HasTitle other id name) :
    wid = other := by
  obtain ⟨row, stands, place, same, _⟩ := held
  obtain ⟨twin, twinStands, twinPlace, twinSame, _⟩ := holds
  rw [← place, ← twinPlace]
  exact consistent.stable first here second there row stands twin twinStands
    (same.trans twinSame.symm)

/-- A session that one workspace has is in no list of another, and the server
has never had it there. -/
theorem Consistent.shownBy_elsewhere
    (consistent : Consistent moments used)
    (sourced : Sourced moments sessions)
    {db : Database}
    {title other : String}
    (found : moments[moment]? = some db)
    (held : db.HasTitle wid id title)
    (different : other ≠ wid) :
    Mutation.ShownBy ⟨id, moment⟩ moments other (cached sessions other) := by
  have member := List.mem_of_getElem? found
  refine Mutation.shownBy_of_absent (fun session shown same => ?_) ?_
  · obtain ⟨past, before, stood⟩ := sourced.rows other session shown
    rw [same] at stood
    exact different (consistent.same_workspace before stood member held)
  · refine .of_getElem? found (Nat.le_refl moment) ?_
    intro row stands place same
    exact different (consistent.same_workspace member
      ⟨row, stands, place, same, rfl⟩ member held)

/-- Only the workspace that has the session has to show it. -/
theorem Consistent.forall_shownBy_iff
    (consistent : Consistent moments used)
    (sourced : Sourced moments sessions)
    {db : Database}
    {title : String}
    (found : moments[moment]? = some db)
    (held : db.HasTitle wid id title) :
    (∀ other, Mutation.ShownBy ⟨id, moment⟩ moments other
        (cached sessions other)) ↔
      Mutation.ShownBy ⟨id, moment⟩ moments wid (cached sessions wid) := by
  refine ⟨fun shown => shown wid, fun shown other => ?_⟩
  by_cases own : other = wid
  · rw [own]
    exact shown
  · exact consistent.shownBy_elsewhere sourced found held own

/-- A list that lacks a session that is gone is right. -/
theorem Mutation.shownBy_of_gone
    {mutation : Mutation}
    {list : List Session}
    (gone : AlwaysSince moments moment (Gone mutation.id))
    (past : moment < moments.length)
    (resolvedPast : mutation.moment < moments.length)
    (absent : ∀ session ∈ list, session.id ≠ mutation.id) :
    mutation.ShownBy moments wid list :=
  Mutation.shownBy_of_absent absent <|
    (gone.someSince past resolvedPast).mono fun _ gone => gone wid

theorem Mutation.shownBy_gone_iff
    {list : List Session}
    (gone : AlwaysSince moments moment (Gone id))
    (past : moment < moments.length) :
    Mutation.ShownBy ⟨id, moment⟩ moments wid list ↔
      ∀ session ∈ list, session.id ≠ id := by
  constructor
  · intro shown session member same
    refine gone.not_someSince (fun db gone held => ?_)
      (shown.1 session member same)
    obtain ⟨row, stands, place, here, _⟩ := held
    exact gone wid row stands place here
  · intro absent
    exact Mutation.shownBy_of_gone gone past past absent

/-- Only the sessions with the id matter. -/
theorem Mutation.ShownBy.congr
    {mutation : Mutation}
    {list after : List Session}
    (shown : mutation.ShownBy moments wid list)
    (same : ∀ session, session.id = mutation.id →
      (session ∈ after ↔ session ∈ list)) :
    mutation.ShownBy moments wid after := by
  refine ⟨fun session member found => ?_, fun absent => ?_⟩
  · exact shown.1 session ((same session found).mp member) found
  · refine shown.2 fun session member found => ?_
    exact absent session ((same session found).mpr member) found

/-- The record of a renaming shows it. -/
theorem Mutation.shownBy_replaced
    {db : Database}
    {updated : Session}
    {list before : List Session}
    (found : moments[moment]? = some db)
    (title : db.HasTitle wid updated.id updated.title)
    (replaced : ∀ session, session ∈ list ↔
      session ∈ before ∧ session.id ≠ updated.id ∨ session = updated) :
    Mutation.ShownBy ⟨updated.id, moment⟩ moments wid list := by
  refine ⟨fun session member same => ?_, fun absent => ?_⟩
  · rcases (replaced session).mp member with ⟨_, other⟩ | rfl
    · exact absurd same other
    · exact .of_getElem? found (Nat.le_refl moment) title
  · exact absurd rfl (absent updated ((replaced updated).mpr (.inr rfl)))

/-! ## Lists that are put in place -/

namespace Reflected

/-- A list with the sessions that were cached says nothing new. -/
theorem set_same_iff
    (reflected : Reflected moments resolved removed sessions)
    {list : Records Session}
    (same : ∀ session, session ∈ values list ↔ session ∈ cached sessions wid) :
    Reflected moments resolved removed (sessions.set wid list) ↔
      wid ∉ removed := by
  rw [reflected.set_iff]
  refine and_iff_left fun mutation member => ?_
  exact (reflected.lists mutation member wid).congr fun session _ =>
    same session

/-- A list without a session that is gone says nothing new. -/
theorem set_without_iff
    (reflected : Reflected moments resolved removed sessions)
    (earlier : ∀ mutation ∈ resolved, mutation.moment < moments.length)
    (gone : AlwaysSince moments moment (Gone id))
    (past : moment < moments.length)
    {list : Records Session}
    (kept : ∀ session, session ∈ values list ↔
      session ∈ cached sessions wid ∧ session.id ≠ id) :
    Reflected moments resolved removed (sessions.set wid list) ↔
      wid ∉ removed := by
  rw [reflected.set_iff]
  refine and_iff_left fun mutation member => ?_
  by_cases own : mutation.id = id
  · subst own
    exact Mutation.shownBy_of_gone gone past (earlier mutation member)
      fun session listed => ((kept session).mp listed).2
  · refine (reflected.lists mutation member wid).congr fun session found => ?_
    rw [kept session, found]
    exact and_iff_left own

/-- A record that replaces the one of a session has to be in time. -/
theorem set_replaced_iff
    (reflected : Reflected moments resolved removed sessions)
    {updated : Session}
    {list : Records Session}
    (replaced : ∀ session, session ∈ values list ↔
      session ∈ cached sessions wid ∧ session.id ≠ updated.id ∨
        session = updated) :
    Reflected moments resolved removed (sessions.set wid list) ↔
      wid ∉ removed ∧ ∀ mutation ∈ resolved, updated.id = mutation.id →
        SomeSince moments mutation.moment
          (·.HasTitle wid mutation.id updated.title) := by
  rw [reflected.set_iff]
  refine and_congr_right fun _ => forall₂_congr fun mutation member => ?_
  by_cases own : updated.id = mutation.id
  · constructor
    · intro shown _
      exact shown.1 updated ((replaced updated).mpr (.inr rfl)) own
    · intro inTime
      refine ⟨fun session listed found => ?_, fun absent => ?_⟩
      · rcases (replaced session).mp listed with ⟨_, other⟩ | rfl
        · exact absurd (found.trans own.symm) other
        · exact inTime own
      · exact absurd own (absent updated ((replaced updated).mpr (.inr rfl)))
  · refine iff_of_true ?_ fun found => absurd found own
    refine (reflected.lists mutation member wid).congr fun session found => ?_
    have other : session.id ≠ updated.id :=
      fun same => own (same.symm.trans found)
    have different : session ≠ updated := by
      rintro rfl
      exact other rfl
    rw [replaced session]
    simp [other, different]

end Reflected
end Moments

end Client
end LociTerm
