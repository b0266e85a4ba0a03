import LociTerm.Auth.Request
import LociTerm.Tmux.Manager

/-!
# Targets by prefix and pattern

A `-t` argument that is not marked exact names the session that it equals, or
else the one session that begins with it, or else the one session that it
matches as a pattern.  The manager's commands are run by that rule here, to say
when an operation on one session id reaches the session of another.
-/

namespace LociTerm
namespace Tmux

/-! ## Resolution -/

section Resolution

variable (fnmatch : String → String → Bool)

/-- One name begins with another. -/
def Begins (name other : String) : Prop := name.toList <+: other.toList

instance (name other : String) : Decidable (Begins name other) :=
  inferInstanceAs (Decidable (_ <+: _))

/-- What a target names among the live sessions.  Several matches are an
error. -/
def resolve (names : List String) (name : String) : Option String :=
  if name ∈ names then some name
  else
    match names.filter (Begins name ·) with
    | [other] => some other
    | _ :: _ :: _ => none
    | [] =>
        match names.filter (fnmatch name) with
        | [other] => some other
        | _ => none

/-- A target whose own session is not live names another one: the only one
that begins with it, or the only one that it matches, when none does. -/
def Mistakes (names : List String) (name other : String) : Prop :=
  name ∉ names ∧ other ∈ names ∧
    ((∀ live ∈ names, Begins name live ↔ live = other) ∨
      (∀ live ∈ names, ¬Begins name live) ∧
        ∀ live ∈ names, fnmatch name live = true ↔ live = other)

theorem filter_eq_singleton_iff
    {names : List String}
    (nodup : names.Nodup)
    (matched : String → Bool)
    (other : String) :
    names.filter matched = [other] ↔
      other ∈ names ∧ ∀ live ∈ names, matched live = true ↔ live = other := by
  constructor
  · intro only
    have member : other ∈ names.filter matched := by simp [only]
    rw [List.mem_filter] at member
    refine ⟨member.1, fun live isLive => ⟨fun found => ?_, ?_⟩⟩
    · have kept : live ∈ names.filter matched :=
        List.mem_filter.mpr ⟨isLive, found⟩
      simpa [only] using kept
    · rintro rfl
      exact member.2
  · rintro ⟨member, exact⟩
    have same : names.filter matched = names.filter (· == other) :=
      List.filter_congr fun live isLive => by
        rw [Bool.eq_iff_iff, exact live isLive, beq_iff_eq]
    rw [same, List.filter_beq, List.count_eq_one_of_mem nodup member]
    rfl

theorem resolve_eq_some_iff
    {names : List String}
    (nodup : names.Nodup)
    {name other : String} :
    resolve fnmatch names name = some other ↔
      name ∈ names ∧ other = name ∨ Mistakes fnmatch names name other := by
  have prefixes := filter_eq_singleton_iff nodup
    (fun live => decide (Begins name live)) other
  have patterns := filter_eq_singleton_iff nodup (fnmatch name) other
  simp only [decide_eq_true_eq] at prefixes
  unfold resolve Mistakes
  by_cases isLive : name ∈ names
  · simp only [isLive, if_true, not_true, false_and, or_false, true_and,
      Option.some.injEq]
    exact eq_comm
  · simp only [isLive, if_false, false_and, false_or, not_false_eq_true,
      true_and]
    rw [and_or_left, ← prefixes]
    split
    · next only found =>
        rw [found]
        have begins : Begins name only := by
          have member : only ∈ names.filter (Begins name ·) := by simp [found]
          simpa using (List.mem_filter.mp member).2
        have isOnly : only ∈ names :=
          List.mem_of_mem_filter (found ▸ List.mem_singleton_self only)
        constructor
        · intro same
          exact Or.inl (by rw [Option.some.inj same])
        · rintro (same | ⟨_, nothing, _⟩)
          · rw [(List.cons.inj same).1]
          · exact absurd begins (nothing only isOnly)
    · next first second rest found =>
        rw [found]
        have begins : Begins name first ∧ first ∈ names := by
          have member : first ∈ names.filter (Begins name ·) := by simp [found]
          simpa [and_comm] using List.mem_filter.mp member
        refine iff_of_false (by simp) ?_
        rintro (same | ⟨_, nothing, _⟩)
        · cases same
        · exact nothing first begins.2 begins.1
    · next found =>
        have nothing : ∀ live ∈ names, ¬Begins name live := by
          simpa [List.filter_eq_nil_iff] using found
        simp only [found, reduceCtorEq, false_or]
        rw [and_left_comm, and_iff_right nothing, ← patterns]
        split
        · next only matched =>
            rw [matched]
            simp
        · next several =>
            refine iff_of_false (by simp) fun matched => ?_
            exact several other matched

end Resolution

/-! ## The manager's operations -/

namespace Resolving

variable (fnmatch : String → String → Bool)

/-- The session that the target of a session id names. -/
def target (host : Host) (id : String) : Option String :=
  resolve fnmatch host.server.live.keys (tmuxName id)

/-- `newSession`: start an attach client on a pty. -/
def newSession (host : Host) (call : AttachCall) : Option Host :=
  if call.faults.start then none
  else
    let target := target fnmatch host call.id
    some
      { host with
        heap := host.heap.set call.handle
          { name := tmuxName call.id
            winsize := call.size
            ptmxOpen := true
            closed := false
            kills := 0
            waits := 0
            incarnation :=
              (target.bind host.server.live.get?).map
                TmuxSession.incarnation }
        server :=
          match target with
          | some name => host.server.attachSession name call.handle
          | none => host.server }

/-- `Attach` once the tmux session is known to exist. -/
def attachExisting (host : Host) (call : AttachCall) (recreated : Bool) :
    Host × Option AttachResult :=
  match newSession fnmatch host call with
  | none => (host, none)
  | some started =>
      (started.attachPublish call, some ⟨call.handle, recreated⟩)

/-- `Manager.Attach` -/
def attach (host : Host) (call : AttachCall) : Host × Option AttachResult :=
  if (target fnmatch host call.id).isSome then
    attachExisting fnmatch host call false
  else
    match host.attachCreate call with
    | none => (host, none)
    | some created => attachExisting fnmatch created call true

/-- `Manager.Resize` -/
def resize (host : Host) (id : String) (size : Size) (fails : Bool) :
    Host × Bool :=
  if host.lastSize.get? id = some size then (host, true)
  else if fails then (host, false)
  else
    match (target fnmatch host id).bind fun name =>
        host.server.resizeWindow name size with
    | none => (host, false)
    | some server =>
        ({ host with
            server := server
            lastSize := host.lastSize.set id size }, true)

/-- `Manager.KillSession` -/
def killSession (host : Host) (id : String) : Host :=
  let locked := host.killLocked id
  match target fnmatch locked id with
  | none => locked
  | some name => { locked with server := locked.server.killSession name }

/-- The home directory as `~`. -/
def shorten (home : Option String) (cwd : String) : String :=
  match home with
  | none => cwd
  | some home =>
      if home = "" then cwd
      else if cwd = home then "~"
      else if Begins (home ++ "/") cwd then
        "~" ++ String.ofList (cwd.toList.drop home.toList.length)
      else cwd

/-- `Manager.GetCwd`, with the output of `display-message` for each session. -/
def getCwd
    (host : Host)
    (home : Option String)
    (output : String → String)
    (id : String) : String :=
  match target fnmatch host id with
  | none => ""
  | some name =>
      let cwd := String.ofList (Auth.trimSpace (output name).toList)
      if cwd = "" then "" else shorten home cwd

end Resolving

/-! ## Sessions left alone -/

/-- The session has not been resized, and no client has been attached to it. -/
structure TmuxSession.Kept (before after : TmuxSession) : Prop where
  incarnation : after.incarnation = before.incarnation
  created : after.created = before.created
  resizes : after.resizes = before.resizes
  clients : ∀ client ∈ after.clients, client ∈ before.clients

namespace Server

/-- The session of the name is as live as it was, and has been left alone. -/
def Untouched (before after : Server) (name : String) : Prop :=
  Option.Rel TmuxSession.Kept (before.live.get? name) (after.live.get? name)

namespace Untouched

theorem of_get?_eq
    {before after : Server}
    {name : String}
    (same : after.live.get? name = before.live.get? name) :
    before.Untouched after name := by
  unfold Untouched
  rw [same]
  cases before.live.get? name with
  | none => exact Option.Rel.none
  | some session => exact Option.Rel.some ⟨rfl, rfl, rfl, fun _ member => member⟩

theorem trans
    {first second third : Server}
    {name : String}
    (left : first.Untouched second name)
    (right : second.Untouched third name) :
    first.Untouched third name := by
  unfold Untouched at *
  generalize first.live.get? name = start at *
  generalize second.live.get? name = middle at *
  generalize third.live.get? name = final at *
  cases left with
  | none => exact right
  | some kept =>
      cases right with
      | some keptOn =>
          refine Option.Rel.some ⟨?_, ?_, ?_, fun client member => ?_⟩
          · exact keptOn.incarnation.trans kept.incarnation
          · exact keptOn.created.trans kept.created
          · exact keptOn.resizes.trans kept.resizes
          · exact kept.clients client (keptOn.clients client member)

theorem attachSession
    (server : Server)
    {name other : String}
    (different : name ≠ other)
    (client : Handle) :
    server.Untouched (server.attachSession other client) name :=
  of_get?_eq (by simp [different])

theorem killSession
    (server : Server)
    {name other : String}
    (different : name ≠ other) :
    server.Untouched (server.killSession other) name :=
  of_get?_eq (by simp [Ne.symm different])

theorem resizeWindow
    {server next : Server}
    {name other : String}
    {size : Size}
    (different : name ≠ other)
    (resized : server.resizeWindow other size = some next) :
    server.Untouched next name := by
  obtain ⟨session, _, rfl⟩ := resizeWindow_eq_some resized
  exact of_get?_eq (Table.get?_set_of_ne _ _ (Ne.symm different))

theorem clientExits (server : Server) (client : Handle) (name : String) :
    server.Untouched (server.clientExits client) name := by
  unfold Untouched
  rw [get?_clientExits]
  cases server.live.get? name with
  | none => exact Option.Rel.none
  | some session =>
      exact Option.Rel.some
        ⟨rfl, rfl, rfl, fun other member => (List.mem_filter.mp member).1⟩

end Untouched
end Server

namespace Host

theorem server_close (host : Host) (client : Handle) :
    (host.close client).server = host.server ∨
      (host.close client).server = host.server.clientExits client := by
  unfold close
  split
  · exact Or.inl rfl
  · split
    · exact Or.inl rfl
    · exact Or.inr rfl

theorem untouched_close (host : Host) (client : Handle) (name : String) :
    host.server.Untouched (host.close client).server name := by
  rcases host.server_close client with same | exited
  · exact Server.Untouched.of_get?_eq (by rw [same])
  · rw [exited]
    exact Server.Untouched.clientExits host.server client name

theorem untouched_attachPublish
    (host : Host)
    (call : AttachCall)
    (name : String) :
    host.server.Untouched (host.attachPublish call).server name := by
  unfold attachPublish
  split
  · exact host.untouched_close _ name
  · exact Server.Untouched.of_get?_eq rfl

theorem untouched_killLocked (host : Host) (id name : String) :
    host.server.Untouched (host.killLocked id).server name := by
  unfold killLocked
  split
  · exact host.untouched_close _ name
  · exact Server.Untouched.of_get?_eq rfl

/-- Closing a client leaves the same sessions live. -/
theorem keys_close (host : Host) (client : Handle) :
    (host.close client).server.live.keys = host.server.live.keys := by
  rcases host.server_close client with same | exited
  · rw [same]
  · rw [exited]
    exact Table.keys_mapWithKey _ _

theorem keys_killLocked (host : Host) (id : String) :
    (host.killLocked id).server.live.keys = host.server.live.keys := by
  unfold killLocked
  split
  · exact host.keys_close _
  · rfl

end Host

namespace Resolving

variable (fnmatch : String → String → Bool)

/-! ## What a target names -/

theorem target_eq_some_iff {host : Host} {id other : String} :
    target fnmatch host id = some other ↔
      tmuxName id ∈ host.server.live.keys ∧ other = tmuxName id ∨
        Mistakes fnmatch host.server.live.keys (tmuxName id) other :=
  resolve_eq_some_iff fnmatch host.server.live.nodup

/-- A live session is its own target. -/
theorem target_of_live
    {host : Host}
    {id : String}
    (isLive : host.tmuxSessionExists id = true) :
    target fnmatch host id = some (tmuxName id) :=
  (target_eq_some_iff fnmatch).mpr
    (Or.inl ⟨(Table.mem_keys_iff _ _).mpr isLive, rfl⟩)

/-- A target that is not mistaken names its own session, if it is live. -/
theorem target_of_clear
    {host : Host}
    {id : String}
    (clear : ∀ other,
      ¬Mistakes fnmatch host.server.live.keys (tmuxName id) other) :
    target fnmatch host id =
      if host.tmuxSessionExists id then some (tmuxName id) else none := by
  split
  · next isLive => exact target_of_live fnmatch isLive
  · next missing =>
      cases found : target fnmatch host id with
      | none => rfl
      | some other =>
          rcases (target_eq_some_iff fnmatch).mp found with ⟨isLive, _⟩ | wrong
          · exact absurd ((Table.mem_keys_iff _ _).mp isLive) missing
          · exact absurd wrong (clear other)

/-! ## The operations with targets that are not mistaken -/

theorem newSession_of_live
    {host : Host}
    {call : AttachCall}
    (isLive : host.tmuxSessionExists call.id = true) :
    newSession fnmatch host call = host.newSession call := by
  unfold newSession Host.newSession
  rw [target_of_live fnmatch isLive]
  rfl

theorem attachExisting_of_live
    {host : Host}
    {call : AttachCall}
    (isLive : host.tmuxSessionExists call.id = true)
    (recreated : Bool) :
    attachExisting fnmatch host call recreated =
      host.attachExisting call recreated := by
  have same := newSession_of_live fnmatch isLive
  unfold attachExisting Host.attachExisting
  cases started : host.newSession call with
  | none => simp only [same, started]
  | some next => simp only [same, started]

/-- The session that `Attach` has created is live. -/
theorem exists_attachCreate
    {host created : Host}
    {call : AttachCall}
    (succeeded : host.attachCreate call = some created) :
    created.tmuxSessionExists call.id = true := by
  obtain ⟨_, _, rfl⟩ := Host.attachCreate_eq_some succeeded
  simp [Host.tmuxSessionExists, Server.hasSession]

/-- With targets that are not mistaken the operations are those on exact
names. -/
theorem attach_of_clear
    {host : Host}
    {call : AttachCall}
    (clear : ∀ other,
      ¬Mistakes fnmatch host.server.live.keys (tmuxName call.id) other) :
    attach fnmatch host call = host.attach call := by
  have same := target_of_clear fnmatch clear
  unfold attach Host.attach Host.attachChecked
  by_cases isLive : host.tmuxSessionExists call.id = true
  · simp only [same, isLive, if_true, Option.isSome_some]
    exact attachExisting_of_live fnmatch isLive false
  · cases succeeded : host.attachCreate call with
    | none =>
        simp only [same, isLive, Bool.false_eq_true, if_false,
          Option.isSome_none]
    | some created =>
        simp only [same, isLive, Bool.false_eq_true, if_false,
          Option.isSome_none]
        exact attachExisting_of_live fnmatch (exists_attachCreate succeeded) true

theorem resize_of_clear
    {host : Host}
    {id : String}
    (clear : ∀ other,
      ¬Mistakes fnmatch host.server.live.keys (tmuxName id) other)
    (size : Size)
    (fails : Bool) :
    resize fnmatch host id size fails = host.resize id size fails := by
  unfold resize Host.resize
  rw [target_of_clear fnmatch clear]
  by_cases isLive : host.tmuxSessionExists id = true
  · cases sent : host.server.resizeWindow (tmuxName id) size with
    | none => simp only [isLive, if_true, Option.bind_some, sent]
    | some server => simp only [isLive, if_true, Option.bind_some, sent]
  · have gone : host.server.resizeWindow (tmuxName id) size = none := by
      rw [Host.tmuxSessionExists, Bool.not_eq_true,
        Server.hasSession_eq_false_iff] at isLive
      simp [Server.resizeWindow, isLive]
    simp [isLive, gone]

theorem killSession_of_clear
    {host : Host}
    {id : String}
    (clear : ∀ other,
      ¬Mistakes fnmatch host.server.live.keys (tmuxName id) other) :
    killSession fnmatch host id = host.killSession id := by
  have same : target fnmatch (host.killLocked id) id =
      if (host.killLocked id).tmuxSessionExists id then some (tmuxName id)
      else none :=
    target_of_clear fnmatch (by simpa [Host.keys_killLocked] using clear)
  unfold killSession Host.killSession Host.killTmux
  simp only [same]
  by_cases isLive : (host.killLocked id).tmuxSessionExists id = true
  · simp [isLive]
  · have gone : (host.killLocked id).server.live.erase (tmuxName id) =
        (host.killLocked id).server.live := by
      rw [Table.erase_eq_self_iff, ← Server.hasSession_eq_false_iff]
      simpa [Host.tmuxSessionExists] using isLive
    simp [isLive, Server.killSession, gone]

/-! ## Isolation -/

/-- The operations on one session id leave the session of another alone, and
do not report its data. -/
structure Isolated (host : Host) (id other : String) : Prop where
  attach : ∀ call : AttachCall, call.id = id →
    host.server.Untouched (attach fnmatch host call).1.server (tmuxName other)
  resize : ∀ size fails,
    host.server.Untouched (resize fnmatch host id size fails).1.server
      (tmuxName other)
  killSession :
    host.server.Untouched (killSession fnmatch host id).server
      (tmuxName other)
  getCwd : ∀ home output changed,
    (∀ name ≠ tmuxName other, changed name = output name) →
    getCwd fnmatch host home changed id = getCwd fnmatch host home output id

variable {host : Host} {id other : String}

theorem untouched_attachExisting
    {call : AttachCall}
    (apart : target fnmatch host call.id ≠ some (tmuxName other))
    (recreated : Bool) :
    host.server.Untouched (attachExisting fnmatch host call recreated).1.server
      (tmuxName other) := by
  unfold attachExisting
  split
  · exact Server.Untouched.of_get?_eq rfl
  · next started begun =>
      have attached : host.server.Untouched started.server
          (tmuxName other) := by
        simp only [newSession] at begun
        split at begun <;> cases begun
        cases found : target fnmatch host call.id with
        | none => exact Server.Untouched.of_get?_eq rfl
        | some name =>
            refine Server.Untouched.attachSession host.server ?_ call.handle
            rintro rfl
            exact apart found
      exact attached.trans (started.untouched_attachPublish call _)

theorem untouched_attach
    {call : AttachCall}
    (different : call.id ≠ other)
    (apart : target fnmatch host call.id ≠ some (tmuxName other)) :
    host.server.Untouched (attach fnmatch host call).1.server
      (tmuxName other) := by
  unfold attach
  split
  · exact untouched_attachExisting fnmatch apart false
  · split
    · exact Server.Untouched.of_get?_eq rfl
    · next created succeeded =>
        have own := target_of_live fnmatch (exists_attachCreate succeeded)
        have begun : host.server.Untouched created.server
            (tmuxName other) := by
          obtain ⟨_, _, rfl⟩ := Host.attachCreate_eq_some succeeded
          exact Server.Untouched.of_get?_eq
            (Table.get?_set_of_ne _ _ (by simpa using different))
        refine begun.trans (untouched_attachExisting fnmatch ?_ true)
        rw [own]
        simpa using different

theorem untouched_resize
    (apart : target fnmatch host id ≠ some (tmuxName other))
    (size : Size)
    (fails : Bool) :
    host.server.Untouched (resize fnmatch host id size fails).1.server
      (tmuxName other) := by
  unfold resize
  split
  · exact Server.Untouched.of_get?_eq rfl
  · split
    · exact Server.Untouched.of_get?_eq rfl
    · split
      · exact Server.Untouched.of_get?_eq rfl
      · next server sent =>
          obtain ⟨name, found, resized⟩ := Option.bind_eq_some_iff.mp sent
          refine Server.Untouched.resizeWindow ?_ resized
          rintro rfl
          exact apart found

/-- The part of `KillSession` under the mutex leaves targets as they are. -/
theorem target_killLocked (host : Host) (id : String) :
    target fnmatch (host.killLocked id) id = target fnmatch host id := by
  unfold target
  rw [Host.keys_killLocked]

theorem untouched_killSession
    (apart : target fnmatch host id ≠ some (tmuxName other)) :
    host.server.Untouched (killSession fnmatch host id).server
      (tmuxName other) := by
  have locked := host.untouched_killLocked id (tmuxName other)
  simp only [killSession, target_killLocked]
  split
  · exact locked
  · next name found =>
      refine locked.trans (Server.Untouched.killSession _ ?_)
      rintro rfl
      exact apart found

theorem getCwd_congr
    (apart : target fnmatch host id ≠ some (tmuxName other))
    {home : Option String}
    {output changed : String → String}
    (same : ∀ name ≠ tmuxName other, changed name = output name) :
    getCwd fnmatch host home changed id =
      getCwd fnmatch host home output id := by
  unfold getCwd
  split
  · rfl
  · next name found =>
      rw [same name]
      rintro rfl
      exact apart found

/-- The operations on one id are isolated from the session of another exactly
when tmux does not mistake their target for it. -/
theorem isolated_iff (different : id ≠ other) :
    Isolated fnmatch host id other ↔
      ¬Mistakes fnmatch host.server.live.keys (tmuxName id)
        (tmuxName other) := by
  have named : target fnmatch host id = some (tmuxName other) ↔
      Mistakes fnmatch host.server.live.keys (tmuxName id)
        (tmuxName other) := by
    rw [target_eq_some_iff]
    simp [Ne.symm different]
  rw [← named]
  constructor
  · intro isolated found
    have killed := isolated.killSession
    simp only [killSession, target_killLocked, found] at killed
    have isLive : tmuxName other ∈ host.server.live.keys :=
      (named.mp found).2.1
    obtain ⟨session, live⟩ := Option.isSome_iff_exists.mp
      ((Table.mem_keys_iff _ _).mp isLive)
    unfold Server.Untouched at killed
    rw [live, Server.get?_killSession, if_pos rfl] at killed
    cases killed
  · intro apart
    refine ⟨?_, ?_, ?_, ?_⟩
    · rintro call rfl
      exact untouched_attach fnmatch different apart
    · exact untouched_resize fnmatch apart
    · exact untouched_killSession fnmatch apart
    · exact fun _ _ _ same => getCwd_congr fnmatch apart same

/-- Patterns without special characters. -/
def literal (pattern name : String) : Bool := pattern = name

/-- One tmux session is live. -/
def soleHost (id : String) : Host :=
  Host.newManager
    ⟨Table.empty.set (tmuxName id) ⟨0, ⟨80, 24⟩, [], []⟩, 1⟩

theorem isolated_soleHost :
    Isolated literal (soleHost "3f2a") "3f2b" "3f2a" ↔
      ¬Mistakes literal (soleHost "3f2a").server.live.keys (tmuxName "3f2b")
        (tmuxName "3f2a") :=
  isolated_iff literal (by decide)

/-- An id that another id begins with reaches the session of that id. -/
theorem not_isolated_soleHost :
    ∃ fnmatch host id other, id ≠ other ∧
      ¬Isolated fnmatch host id other := by
  refine ⟨literal, soleHost "3f2a", "3f", "3f2a", by decide, fun isolated => ?_⟩
  have killed := isolated.killSession
  have gone : (killSession literal (soleHost "3f2a") "3f").server.live.get?
      (tmuxName "3f2a") = none := by
    decide
  unfold Server.Untouched at killed
  rw [gone] at killed
  cases killed

end Resolving

end Tmux
end LociTerm
