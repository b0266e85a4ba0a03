import LociTerm.Client.Freshness

/-!
# What a reply makes of the lists

Each operation on sessions assigns one list when its reply arrives, or takes
one away.  The lists then reflect what has resolved exactly under a condition
on the reply and on the lists before.
-/

namespace LociTerm
namespace Client

open Store

/-! ## What the last part of an operation assigns -/

theorem finishSetActiveWorkspace_ok
    (app : App)
    (wid : String)
    (list : List (Body Session)) :
    ∃ after, app.finishSetActiveWorkspace wid (.ok list) = .returns after ∧
      after.state.sessions = app.state.sessions.set wid (.ok list) := by
  simp only [App.finishSetActiveWorkspace]
  split
  · rename_i missing
    split at missing <;> cases missing
  · split
    · exact ⟨_, rfl, rfl⟩
    · split
      · exact ⟨_, rfl, rfl⟩
      · exact ⟨_, rfl, rfl⟩

theorem finishDeleteWorkspace_cases (app : App) (id : String) :
    app.finishDeleteWorkspace id = .throws app ∨
      ∃ after, app.finishDeleteWorkspace id = .returns after ∧
        after.state.sessions = app.state.sessions.erase id := by
  unfold App.finishDeleteWorkspace
  simp only
  split
  · exact .inr ⟨_, rfl, rfl⟩
  · exact .inl rfl

namespace Site

/-- What the requests under way and the lists rest on. -/
structure Sound (site : Site) : Prop where
  consistent : Consistent site.moments site.used
  resolved : ∀ mutation ∈ site.resolved,
    mutation.moment < site.moments.length
  sourced : Sourced site.moments site.app.state.sessions
  asks : ∀ id request, site.requests.get? id = some request →
    Asks request.pending request.call
  serves : ∀ id request, site.requests.get? id = some request →
    ∀ served ∈ request.served, served.1 < site.moments.length ∧
      Serves site.moments site.used served.1 served.2 request.pending

/-- The site after the reply to a request. -/
def land
    (site : Site)
    (id : Nat)
    (app : App)
    (resolved : List Mutation)
    (removed : List String) : Site :=
  { site with
    app := app
    requests := site.requests.erase id
    resolved := resolved ++ site.resolved
    removed := removed ++ site.removed }

/-- The lists still come from the server, and they reflect what has resolved
exactly under a condition. -/
structure Delivers (site next : Site) (inTime : Prop) : Prop where
  sourced : Sourced next.moments next.app.state.sessions
  reflects_iff : site.Reflects → (next.Reflects ↔ inTime)

theorem Delivers.congr
    {site next : Site}
    {inTime other : Prop}
    (delivers : site.Delivers next inTime)
    (same : inTime ↔ other) :
    site.Delivers next other :=
  ⟨delivers.sourced, fun reflects => (delivers.reflects_iff reflects).trans same⟩

section Replies

variable {site : Site} {after : App} {id moment : Nat} {wid : String}

/-- No list has changed and no mutation has resolved. -/
theorem Sound.delivers_same
    (sound : site.Sound)
    (same : after.state.sessions = site.app.state.sessions) :
    site.Delivers (site.land id after [] []) True := by
  refine ⟨?_, fun reflects => iff_of_true ?_ trivial⟩
  · show Sourced site.moments after.state.sessions
    rw [same]
    exact sound.sourced
  · show Reflected site.moments site.resolved site.removed after.state.sessions
    rw [same]
    exact reflects

theorem Sound.delivers_list
    (sound : site.Sound)
    {db : Database}
    {getCwd : String → String}
    (found : site.moments[moment]? = some db)
    (assigned : after.state.sessions =
      site.app.state.sessions.set wid
        (request (Api.list db wid getCwd)).records) :
    site.Delivers (site.land id after [] [])
      (site.ListInTime moment wid) := by
  constructor
  · show Sourced site.moments after.state.sessions
    rw [assigned]
    refine sound.sourced.set fun session member => ?_
    rw [values_ok_map] at member
    obtain ⟨row, listed, rfl⟩ := List.mem_map.mp member
    obtain ⟨stands, place⟩ := (db.mem_listSessions wid row).mp listed
    exact ⟨db, List.mem_of_getElem? found, row, stands, place, rfl, rfl⟩
  · intro reflects
    show Reflected site.moments site.resolved site.removed
      after.state.sessions ↔ _
    rw [assigned, Reflected.set_iff reflects]
    refine and_congr_right fun _ => forall₂_congr fun mutation _ => ?_
    have read : values (request (Api.list db wid getCwd)).records =
        (db.listSessions wid).map fun row =>
          Api.sessionJSON (getCwd row.id) row :=
      values_ok_map _
    rw [read, Mutation.shownBy_list_iff, found]
    simp only [Option.mem_def, Option.some.injEq, forall_eq']

theorem Sound.delivers_created
    (sound : site.Sound)
    {db : Database}
    {session : Session}
    {list : List (Body Session)}
    (found : site.moments[moment]? = some db)
    (title : db.HasTitle wid session.id session.title)
    (fresh : ∀ earlier < moment, ∀ db, site.moments[earlier]? = some db →
      Gone session.id db)
    (held : values (.ok list) = cached site.app.state.sessions wid)
    (assigned : after.state.sessions =
      site.app.state.sessions.set wid (.ok (list ++ [.ok session]))) :
    site.Delivers (site.land id after [⟨session.id, moment⟩] [])
      (wid ∉ site.removed ∧ site.RecordInTime wid session) := by
  have grown : values (.ok (list ++ [.ok session])) =
      cached site.app.state.sessions wid ++ [session] := by
    rw [values_append, held]
    rfl
  constructor
  · show Sourced site.moments after.state.sessions
    rw [assigned]
    refine sound.sourced.set fun other member => ?_
    rw [grown] at member
    rcases List.mem_append.mp member with old | new
    · exact sound.sourced.rows wid other old
    · rw [List.mem_singleton.mp new]
      exact ⟨db, List.mem_of_getElem? found, title⟩
  · intro reflects
    -- What is cached of the new session is from after its creation.
    have shown (other : String) :
        Mutation.ShownBy ⟨session.id, moment⟩ site.moments other
          (cached (site.app.state.sessions.set wid
            (.ok (list ++ [.ok session]))) other) := by
      rw [cached_set, grown]
      split
      · rename_i same
        subst same
        refine ⟨fun twin member same => ?_, fun absent => ?_⟩
        · rcases List.mem_append.mp member with old | new
          · obtain ⟨past, before, stood⟩ := sound.sourced.rows wid twin old
            obtain ⟨place, placed⟩ := List.mem_iff_getElem?.mp before
            rw [same] at stood
            refine .of_getElem? placed ?_ stood
            by_contra early
            obtain ⟨row, stands, there, here, _⟩ := stood
            exact fresh place (Nat.lt_of_not_le early) past placed wid row stands
              there here
          · rw [List.mem_singleton.mp new]
            exact .of_getElem? found (Nat.le_refl moment) title
        · exact absurd rfl (absent session (by simp))
      · rename_i different
        exact sound.consistent.shownBy_elsewhere sound.sourced found title
          (Ne.symm different)
    show Reflected site.moments (⟨session.id, moment⟩ :: site.resolved)
      site.removed after.state.sessions ↔ _
    rw [assigned, Reflected.cons_iff, and_iff_right shown,
      Reflected.set_iff reflects]
    refine and_congr_right fun _ => forall₂_congr fun mutation member => ?_
    rw [grown]
    exact Mutation.shownBy_append_iff (reflects.lists mutation member wid)
      session

/-- An error object in the place of a record shows nothing. -/
theorem Sound.delivers_uncreated
    (sound : site.Sound)
    {message : String}
    {list : List (Body Session)}
    (held : values (.ok list) = cached site.app.state.sessions wid)
    (assigned : after.state.sessions =
      site.app.state.sessions.set wid (.ok (list ++ [.error message]))) :
    site.Delivers (site.land id after [] []) (wid ∉ site.removed) := by
  have same : values (.ok (list ++ [.error message])) =
      cached site.app.state.sessions wid := by
    rw [values_append, held]
    exact List.append_nil _
  constructor
  · show Sourced site.moments after.state.sessions
    rw [assigned]
    refine sound.sourced.set fun other member => ?_
    rw [same] at member
    exact sound.sourced.rows wid other member
  · intro reflects
    show Reflected site.moments site.resolved site.removed
      after.state.sessions ↔ _
    rw [assigned]
    exact Reflected.set_same_iff reflects fun session => by rw [same]

/-- The active workspace, as the operations find it. -/
theorem active_eq_some
    (named : wid ≠ "")
    (isActive : site.app.state.activeWorkspaceId = some wid) :
    site.active = some wid := by
  unfold active
  rw [if_pos (truthy_iff.mpr ⟨wid, isActive, named⟩), isActive]

theorem active_eq_none
    (inactive : truthy site.app.state.activeWorkspaceId = false) :
    site.active = none := by
  unfold active
  rw [inactive]
  rfl

/-- After a deletion in the active workspace the other lists have to lack the
session. -/
theorem forall_shownBy_deleted_iff
    {session : String}
    {lists : Table String (Records Session)}
    (gone : AlwaysSince site.moments moment (Gone session))
    (past : moment < site.moments.length)
    (outside : ∀ wid ∉ site.active,
      cached lists wid = cached site.app.state.sessions wid)
    (inside : ∀ wid ∈ site.active, ∀ other ∈ cached lists wid,
      other.id ≠ session) :
    (∀ wid, Mutation.ShownBy ⟨session, moment⟩ site.moments wid
        (cached lists wid)) ↔
      ∀ wid ∈ site.app.state.sessions.keys, wid ∉ site.active →
        ∀ other ∈ cached site.app.state.sessions wid, other.id ≠ session := by
  simp only [Mutation.shownBy_gone_iff gone past]
  constructor
  · intro absent wid _ elsewhere
    rw [← outside wid elsewhere]
    exact absent wid
  · intro absent wid
    by_cases here : wid ∈ site.active
    · exact inside wid here
    · rw [outside wid here]
      intro other member
      exact absent wid (mem_keys_of_mem_cached member) here other member

/-- A deletion that resolves leaves what other workspaces hold. -/
theorem Sound.delivers_deleted
    (sound : site.Sound)
    {session : String}
    (reply : Reply)
    (gone : AlwaysSince site.moments moment (Gone session))
    (past : moment < site.moments.length)
    (ended : site.app.finishDeleteSession session = .returns after) :
    site.Delivers (site.land id after [⟨session, moment⟩] [])
      (site.Arrives moment reply (.deleteSession session)) := by
  obtain ⟨wid, list, named, isActive, held, rfl⟩ | ⟨inactive, rfl⟩ :=
    finishDeleteSession_cases ended
  · have active := active_eq_some named isActive
    have kept (other : Session) :
        other ∈ values (.ok (list.filter (·.field (·.id) ≠ some session))) ↔
          other ∈ cached site.app.state.sessions wid ∧ other.id ≠ session := by
      rw [mem_values_filter, ← held, values_sessionsOf]
    constructor
    · refine sound.sourced.set fun other member => ?_
      exact sound.sourced.rows wid other ((kept other).mp member).1
    · intro reflects
      show Reflected site.moments (⟨session, moment⟩ :: site.resolved)
        site.removed (site.app.state.sessions.set wid _) ↔ _ ∧ _
      rw [Reflected.cons_iff, and_comm,
        Reflected.set_without_iff reflects sound.resolved gone past kept,
        forall_shownBy_deleted_iff gone past, active]
      · simp
      · intro other elsewhere
        rw [cached_set, if_neg]
        rintro rfl
        exact elsewhere active
      · intro other here twin member
        cases active.symm.trans here
        rw [cached_set, if_pos rfl] at member
        exact ((kept twin).mp member).2
  · have inactive := active_eq_none inactive
    refine ⟨sound.sourced, fun reflects => ?_⟩
    show Reflected site.moments (⟨session, moment⟩ :: site.resolved)
      site.removed site.app.state.sessions ↔ _ ∧ _
    have before : Reflected site.moments site.resolved site.removed
        site.app.state.sessions := reflects
    rw [Reflected.cons_iff, and_iff_left before,
      forall_shownBy_deleted_iff gone past fun _ _ => rfl, inactive]
    · simp
    · rw [inactive]
      rintro other ⟨⟩

/-- A session that the active workspace shows is one of that workspace. -/
theorem Sound.place_of_held
    (sound : site.Sound)
    {db : Database}
    {updated session : Session}
    (found : site.moments[moment]? = some db)
    (title : db.HasTitle updated.workspaceId updated.id updated.title)
    (member : session ∈ cached site.app.state.sessions wid)
    (same : session.id = updated.id) :
    wid = updated.workspaceId := by
  obtain ⟨past, before, stood⟩ := sound.sourced.rows wid session member
  rw [same] at stood
  exact sound.consistent.same_workspace before stood
    (List.mem_of_getElem? found) title

/-- A record that replaces the one of the session shows the renaming. -/
theorem Sound.reflects_replaced_iff
    (sound : site.Sound)
    (reflects : site.Reflects)
    {db : Database}
    {updated : Session}
    {list : Records Session}
    (found : site.moments[moment]? = some db)
    (title : db.HasTitle updated.workspaceId updated.id updated.title)
    (sourced : Sourced site.moments
      (site.app.state.sessions.set updated.workspaceId list))
    (replaced : ∀ session, session ∈ values list ↔
      session ∈ cached site.app.state.sessions updated.workspaceId ∧
        session.id ≠ updated.id ∨ session = updated) :
    Reflected site.moments (⟨updated.id, moment⟩ :: site.resolved) site.removed
        (site.app.state.sessions.set updated.workspaceId list) ↔
      updated.workspaceId ∉ site.removed ∧
        site.RecordInTime updated.workspaceId updated := by
  rw [Reflected.cons_iff,
    sound.consistent.forall_shownBy_iff sourced found title,
    Reflected.set_replaced_iff reflects replaced, cached_set, if_pos rfl,
    and_iff_right (Mutation.shownBy_replaced found title replaced)]
  rfl

/-- A list that stays as it was has to show the renaming already. -/
theorem Sound.reflects_kept_iff
    (sound : site.Sound)
    (reflects : site.Reflects)
    {db : Database}
    {updated : Session}
    {list : Records Session}
    (found : site.moments[moment]? = some db)
    (title : db.HasTitle updated.workspaceId updated.id updated.title)
    (sourced : Sourced site.moments (site.app.state.sessions.set wid list))
    (stays : ∀ session, session ∈ values list ↔
      session ∈ cached site.app.state.sessions wid) :
    Reflected site.moments (⟨updated.id, moment⟩ :: site.resolved) site.removed
        (site.app.state.sessions.set wid list) ↔
      wid ∉ site.removed ∧
        Mutation.ShownBy ⟨updated.id, moment⟩ site.moments updated.workspaceId
          (cached site.app.state.sessions updated.workspaceId) := by
  rw [Reflected.cons_iff,
    sound.consistent.forall_shownBy_iff sourced found title,
    Reflected.set_same_iff reflects stays, and_comm, cached_set]
  refine and_congr_right fun _ => ?_
  split
  · rename_i own
    subst own
    exact ⟨fun shown => shown.congr fun session _ => (stays session).symm,
      fun shown => shown.congr fun session _ => stays session⟩
  · exact Iff.rfl

/-- A renaming replaces the record if the active workspace shows the session,
and otherwise leaves the lists. -/
theorem Sound.delivers_renamed
    (sound : site.Sound)
    {db : Database}
    {updated : Session}
    (found : site.moments[moment]? = some db)
    (title : db.HasTitle updated.workspaceId updated.id updated.title)
    (ended : site.app.finishRenameSession updated.id (.ok updated) =
      .returns after) :
    site.Delivers (site.land id after [⟨updated.id, moment⟩] [])
      (site.Arrives moment (.session (writeJSON 200 updated))
        (.renameSession updated.id)) := by
  have arrives : site.Arrives moment (.session (writeJSON 200 updated))
        (.renameSession updated.id) ↔
      (∀ wid ∈ site.active, wid ∉ site.removed) ∧
        if updated.workspaceId ∈ site.active ∧
            ∃ session ∈ cached site.app.state.sessions updated.workspaceId,
              session.id = updated.id then
          site.RecordInTime updated.workspaceId updated
        else
          Mutation.ShownBy ⟨updated.id, moment⟩ site.moments
            updated.workspaceId
            (cached site.app.state.sessions updated.workspaceId) := by
    simp only [Arrives, Reply.sessionOf, writeJSON, Option.mem_def,
      Option.some.injEq, forall_eq']
  rw [arrives]
  obtain ⟨wid, list, named, isActive, held, assigned⟩ | ⟨inactive, rfl⟩ :=
    finishRenameSession_cases ended
  · have active := active_eq_some named isActive
    have replaced (session : Session) :
        session ∈ values (.ok (list.map fun sess =>
            if sess.field (·.id) = some updated.id then .ok updated
            else sess)) ↔
          (session ∈ cached site.app.state.sessions wid ∧
              session.id ≠ updated.id) ∨
            (updated = session ∧
              ∃ old ∈ cached site.app.state.sessions wid,
                old.id = updated.id) := by
      rw [mem_values_replace, ← values_sessionsOf, held, Body.ok.injEq]
    have sourced : Sourced site.moments after.state.sessions := by
      rw [assigned]
      refine sound.sourced.set fun session member => ?_
      rcases (replaced session).mp member with ⟨old, _⟩ |
        ⟨rfl, old, shown, same⟩
      · exact sound.sourced.rows wid session old
      · rw [sound.place_of_held found title shown same]
        exact ⟨db, List.mem_of_getElem? found, title⟩
    refine ⟨sourced, fun reflects => ?_⟩
    rw [assigned] at sourced
    show Reflected site.moments (⟨updated.id, moment⟩ :: site.resolved)
      site.removed after.state.sessions ↔ _
    rw [assigned]
    by_cases shows : ∃ old ∈ cached site.app.state.sessions wid,
        old.id = updated.id
    · have own : wid = updated.workspaceId := by
        obtain ⟨old, shown, same⟩ := shows
        exact sound.place_of_held found title shown same
      subst own
      rw [sound.reflects_replaced_iff reflects found title sourced,
        if_pos ⟨active, shows⟩, active]
      · simp
      · intro session
        rw [replaced session, and_iff_left shows, @eq_comm _ updated]
    · rw [sound.reflects_kept_iff reflects found title sourced, if_neg, active]
      · simp
      · rintro ⟨here, shown⟩
        cases active.symm.trans here
        exact shows shown
      · intro session
        rw [replaced session, or_iff_left fun new => shows new.2]
        exact and_iff_left_of_imp fun member same =>
          shows ⟨session, member, same⟩
  · have inactive := active_eq_none inactive
    refine ⟨sound.sourced, fun reflects => ?_⟩
    have before : Reflected site.moments site.resolved site.removed
        site.app.state.sessions := reflects
    show Reflected site.moments (⟨updated.id, moment⟩ :: site.resolved)
      site.removed site.app.state.sessions ↔ _
    rw [Reflected.cons_iff, and_iff_left before,
      sound.consistent.forall_shownBy_iff sound.sourced found title, inactive]
    simp

/-- An error object in the place of a record shows a session no more, and the
server has none. -/
theorem Sound.delivers_unrenamed
    (sound : site.Sound)
    {session message : String}
    (status : Nat)
    (gone : AlwaysSince site.moments moment (Gone session))
    (past : moment < site.moments.length)
    (ended : site.app.finishRenameSession session (.error message) =
      .returns after) :
    site.Delivers (site.land id after [] [])
      (site.Arrives moment (.session (writeError status message))
        (.renameSession session)) := by
  have arrives : site.Arrives moment (.session (writeError status message))
        (.renameSession session) ↔
      ∀ wid ∈ site.active, wid ∉ site.removed := by
    simp [Arrives, Reply.sessionOf, writeError]
  rw [arrives]
  obtain ⟨wid, list, named, isActive, held, assigned⟩ | ⟨inactive, rfl⟩ :=
    finishRenameSession_cases ended
  · have kept (other : Session) :
        other ∈ values (.ok (list.map fun sess =>
            if sess.field (·.id) = some session then .error message
            else sess)) ↔
          other ∈ cached site.app.state.sessions wid ∧ other.id ≠ session := by
      rw [mem_values_replace, ← values_sessionsOf, held]
      simp
    constructor
    · show Sourced site.moments after.state.sessions
      rw [assigned]
      refine sound.sourced.set fun other member => ?_
      exact sound.sourced.rows wid other ((kept other).mp member).1
    · intro reflects
      show Reflected site.moments site.resolved site.removed
        after.state.sessions ↔ _
      rw [assigned,
        Reflected.set_without_iff reflects sound.resolved gone past kept,
        active_eq_some named isActive]
      simp
  · refine ⟨sound.sourced, fun reflects => ?_⟩
    rw [active_eq_none inactive]
    exact iff_of_true reflects (by simp)

/-- The list of a workspace that is gone goes with it. -/
theorem Sound.delivers_removed
    (sound : site.Sound)
    (emptied : AlwaysSince site.moments moment (Emptied wid))
    (past : moment < site.moments.length)
    (assigned : after.state.sessions = site.app.state.sessions.erase wid) :
    site.Delivers (site.land id after [] [wid]) True := by
  constructor
  · show Sourced site.moments after.state.sessions
    rw [assigned]
    exact sound.sourced.erase wid
  · intro reflects
    refine iff_of_true ⟨fun mutation member other => ?_,
      fun other member => ?_⟩ trivial
    · show mutation.ShownBy site.moments other (cached after.state.sessions _)
      rw [assigned, cached_erase]
      split
      · rename_i same
        subst same
        refine Mutation.shownBy_of_absent (by simp) ?_
        exact (emptied.someSince past (sound.resolved mutation member)).mono
          fun _ emptied => emptied.2 mutation.id
      · exact reflects.lists mutation member other
    · show after.state.sessions.get? other = none
      rw [assigned, Table.get?_erase]
      split
      · rfl
      · rename_i different
        rcases List.mem_cons.mp member with same | old
        · exact absurd same.symm different
        · exact reflects.removed other old

end Replies

/-! ## One reply -/

/-- A reply ends its operation. -/
theorem reply_cases
    {site next : Site}
    {id : Nat}
    (stepped : site.step (.reply id) = some next) :
    ∃ pending call moment reply,
      site.requests.get? id = some ⟨pending, call, some (moment, reply)⟩ ∧
        ((∃ after, site.app.Continues [reply] (.returns after) pending ∧
            next = site.land id after (mutationOf moment reply pending).toList
              (removalOf pending).toList) ∨
          ∃ after, site.app.Continues [reply] (.throws after) pending ∧
            next = site.land id after [] []) := by
  simp only [step] at stepped
  split at stepped
  · rename_i pending call moment reply found
    refine ⟨pending, call, moment, reply, found, ?_⟩
    split at stepped
    · rename_i after resumed
      cases stepped
      exact .inl ⟨after, App.resume_continues resumed, rfl⟩
    · rename_i after resumed
      cases stepped
      exact .inr ⟨after, App.resume_continues resumed, rfl⟩
    · cases stepped
  · cases stepped

/-- Only the deletion of a workspace can fail on what the server replies. -/
theorem Sound.throws_cases
    {site : Site}
    {pending : Pending}
    {reply : Reply}
    {moment : Nat}
    {after : App}
    (sound : site.Sound)
    (serves : Serves site.moments site.used moment reply pending)
    (continues : site.app.Continues [reply] (.throws after) pending) :
    ∃ wid, pending = .deleteWorkspace wid ∧ after = site.app := by
  cases pending with
  | setActiveWorkspace wid =>
      obtain ⟨db, getCwd, _, rfl⟩ := serves
      obtain ⟨response, same, ends⟩ := continues
      cases same
      obtain ⟨_, returns, _⟩ := finishSetActiveWorkspace_ok site.app wid _
      cases ends.trans returns
  | fetchSessions wid =>
      obtain ⟨response, _, ends⟩ := continues
      cases ends
  | pollActive wid =>
      obtain ⟨response, _, ends⟩ := continues
      simp only [App.finishPollActive] at ends
      split at ends <;> cases ends
  | createSession wid =>
      obtain ⟨response, _, ends⟩ := continues
      obtain ⟨list, held, _⟩ := sound.sourced.sessionsOf wid
      simp only [App.finishCreateSession, held] at ends
      cases ends
  | deleteSession session =>
      obtain ⟨response, _, ends⟩ := continues
      obtain ⟨list, held, _⟩ :=
        sound.sourced.sessionsOf (key site.app.state.activeWorkspaceId)
      simp only [App.finishDeleteSession, App.cancelIdleTracking, held] at ends
      split at ends <;> cases ends
  | renameSession session =>
      obtain ⟨response, _, ends⟩ := continues
      obtain ⟨list, held, _⟩ :=
        sound.sourced.sessionsOf (key site.app.state.activeWorkspaceId)
      simp only [App.finishRenameSession, held] at ends
      split at ends <;> cases ends
  | deleteWorkspace wid =>
      obtain ⟨response, _, ends⟩ := continues
      rcases finishDeleteWorkspace_cases site.app wid with fails | ⟨_, works, _⟩
      · rw [fails] at ends
        cases ends
        exact ⟨wid, rfl, rfl⟩
      · rw [works] at ends
        cases ends
  | initWorkspaces | initDefault | initSessions workspaces
  | initSession workspaces sessions tabs wid | fetchWorkspaces
  | createWorkspace | createWorkspaceSession ws | renameWorkspace id =>
      exact serves.elim

/-- What a reply makes of the lists. -/
theorem Sound.delivers_returns
    {site : Site}
    {pending : Pending}
    {reply : Reply}
    {id moment : Nat}
    {after : App}
    (sound : site.Sound)
    (past : moment < site.moments.length)
    (serves : Serves site.moments site.used moment reply pending)
    (continues : site.app.Continues [reply] (.returns after) pending) :
    site.Delivers
      (site.land id after (mutationOf moment reply pending).toList
        (removalOf pending).toList)
      (site.Arrives moment reply pending) := by
  cases pending with
  | setActiveWorkspace wid =>
      obtain ⟨db, getCwd, found, rfl⟩ := serves
      obtain ⟨response, same, ends⟩ := continues
      cases same
      obtain ⟨other, returns, assigned⟩ :=
        finishSetActiveWorkspace_ok site.app wid _
      cases ends.trans returns
      exact sound.delivers_list found assigned
  | fetchSessions wid =>
      obtain ⟨db, getCwd, found, rfl⟩ := serves
      obtain ⟨response, same, ends⟩ := continues
      cases same
      cases ends
      exact sound.delivers_list found rfl
  | pollActive wid =>
      obtain ⟨db, getCwd, found, rfl⟩ := serves
      obtain ⟨response, same, ends⟩ := continues
      cases same
      simp only [App.finishPollActive] at ends
      split at ends
      · rename_i equal
        cases ends
        exact (sound.delivers_same rfl).congr
          (iff_of_true trivial (.inl ⟨_, rfl, equal⟩))
      · rename_i different
        cases ends
        refine (sound.delivers_list found rfl).congr (or_iff_right ?_).symm
        rintro ⟨list, same, equal⟩
        cases same
        exact different equal
  | createSession wid =>
      obtain ⟨response, rfl, outcome⟩ := serves
      obtain ⟨_, same, ends⟩ := continues
      cases same
      obtain ⟨list, held, cachedHere⟩ := sound.sourced.sessionsOf wid
      simp only [App.finishCreateSession, held] at ends
      cases ends
      rcases outcome with ⟨status, message, rfl⟩ |
        ⟨session, rfl, ⟨db, found, title⟩, fresh⟩
      · refine (sound.delivers_uncreated cachedHere rfl).congr ?_
        simp [Arrives, Reply.sessionOf, writeError]
      · refine (sound.delivers_created found title fresh cachedHere rfl).congr ?_
        simp [Arrives, Reply.sessionOf, writeJSON]
  | deleteSession session =>
      obtain ⟨rfl, _, gone⟩ := serves
      obtain ⟨_, _, ends⟩ := continues
      exact sound.delivers_deleted _ gone past ends.symm
  | renameSession session =>
      obtain ⟨response, rfl, outcome⟩ := serves
      obtain ⟨_, same, ends⟩ := continues
      cases same
      rcases outcome with ⟨⟨status, message, rfl⟩, _, gone⟩ |
        ⟨updated, rfl, rfl, db, found, title⟩
      · exact sound.delivers_unrenamed status gone past ends.symm
      · exact sound.delivers_renamed found title ends.symm
  | deleteWorkspace wid =>
      obtain ⟨rfl, emptied⟩ := serves
      obtain ⟨_, _, ends⟩ := continues
      rcases finishDeleteWorkspace_cases site.app wid with
        fails | ⟨other, works, assigned⟩
      · rw [fails] at ends
        cases ends
      · rw [works] at ends
        cases ends
        exact sound.delivers_removed emptied past assigned
  | initWorkspaces | initDefault | initSessions workspaces
  | initSession workspaces sessions tabs wid | fetchWorkspaces
  | createWorkspace | createWorkspaceSession ws | renameWorkspace id =>
      exact serves.elim

end Site
end Client
end LociTerm
