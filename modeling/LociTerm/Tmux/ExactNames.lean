import LociTerm.Tmux.Atomicity
import LociTerm.Tmux.Targets

/-!
# Where exact names suffice

The manager's calls with tmux's own resolution of their targets, one call at a
time and interleaved.  As long as no target is mistaken, they are the calls on
exact names, and whatever holds of the runs of one holds of the runs of the
other.  Ids of one length, such as UUIDs, are never mistaken for one another.
-/

namespace LociTerm
namespace Tmux

/-- The session id of a call. -/
def Call.id : Call → String
  | .attach call => call.id
  | .detach id _ | .resize id _ _ | .kill id => id

namespace Resolving

variable (fnmatch : String → String → Bool)

/-- One call, run without interruption. -/
def serve (host : Host) : Call → Host
  | .attach call => (attach fnmatch host call).1
  | .detach id client => host.detach id (some client)
  | .resize id size fails => (resize fnmatch host id size fails).1
  | .kill id => killSession fnmatch host id

/-- The `kill-session` command. -/
def killTmux (host : Host) (id : String) : Host :=
  match target fnmatch host id with
  | none => host
  | some name => { host with server := host.server.killSession name }

/-- The next step of the `Attach` call that holds the mutex. -/
def advance (state : Interleaved) : Progress → Interleaved
  | .existing call recreated =>
      match newSession fnmatch state.host call with
      | none => { state with holder := none }
      | some host =>
          { state with host := host, holder := some (.started call recreated) }
  | .checked call found => state.advance (.checked call found)
  | .started call recreated => state.advance (.started call recreated)

/-- The step relation. -/
def step (state : Interleaved) : Action → Option Interleaved
  | .attachLock call =>
      if state.holder = none ∧ state.host.heap.get? call.handle = none then
        some { state with
          holder :=
            some (.checked call (target fnmatch state.host call.id).isSome) }
      else none
  | .attachStep => state.holder.map (advance fnmatch state)
  | .resize id size fails =>
      if state.holder = none then
        some { state with host := (resize fnmatch state.host id size fails).1 }
      else none
  | .killTmux id =>
      if id ∈ state.killing then
        some { state with
          host := killTmux fnmatch state.host id
          killing := state.killing.erase id }
      else none
  | .detach id client => state.step (.detach id client)
  | .killLock id => state.step (.killLock id)
  | .shutdown => state.step .shutdown
  | .resizePTY client size => state.step (.resizePTY client size)
  | .closePTMX client => state.step (.closePTMX client)
  | .sessionEnds id => state.step (.sessionEnds id)

/-! ## Steps whose targets are not mistaken -/

/-- The target of an id is not mistaken. -/
def Clear (host : Host) (id : String) : Prop :=
  ∀ other, ¬Mistakes fnmatch host.server.live.keys (tmuxName id) other

/-- The id whose target a step passes to tmux. -/
def targeted? (state : Interleaved) : Action → Option String
  | .attachLock call => some call.id
  | .attachStep =>
      match state.holder with
      | some (.existing call _) => some call.id
      | _ => none
  | .resize id _ _ | .killTmux id => some id
  | _ => none

/-- The target of the step is not mistaken. -/
def ClearStep (state : Interleaved) (action : Action) : Prop :=
  ∀ id ∈ targeted? state action, Clear fnmatch state.host id

variable {fnmatch} {host : Host} {state : Interleaved} {action : Action}

theorem newSession_of_clear
    {call : AttachCall}
    (clear : Clear fnmatch host call.id) :
    newSession fnmatch host call = host.newSession call := by
  by_cases isLive : host.tmuxSessionExists call.id = true
  · exact newSession_of_live fnmatch isLive
  · have none : target fnmatch host call.id = none := by
      rw [target_of_clear fnmatch clear, if_neg isLive]
    have absent : host.server.live.get? (tmuxName call.id) = Option.none := by
      rw [← Server.hasSession_eq_false_iff]
      simpa [Host.tmuxSessionExists] using isLive
    have joined : host.server.attachSession (tmuxName call.id) call.handle =
        host.server := by
      rw [Server.attachSession, Table.modify_of_fixed]
      intro session live
      rw [absent] at live
      cases live
    unfold newSession Host.newSession
    rw [none, absent, joined]
    rfl

theorem killTmux_of_clear
    {id : String}
    (clear : Clear fnmatch host id) :
    killTmux fnmatch host id = host.killTmux id := by
  unfold killTmux Host.killTmux
  rw [target_of_clear fnmatch clear]
  split
  · next missing =>
      have gone : host.server.live.erase (tmuxName id) = host.server.live := by
        rw [Table.erase_eq_self_iff, ← Server.hasSession_eq_false_iff]
        by_contra isLive
        rw [Bool.not_eq_false] at isLive
        simp [Host.tmuxSessionExists, isLive] at missing
      rw [Server.killSession, gone]
  · next name found =>
      split at found <;> cases found
      rfl

theorem serve_of_clear
    {call : Call}
    (clear : Clear fnmatch host call.id) :
    serve fnmatch host call = host.serve call := by
  cases call with
  | attach call => exact congrArg Prod.fst (attach_of_clear fnmatch clear)
  | detach id client => rfl
  | resize id size fails =>
      exact congrArg Prod.fst (resize_of_clear fnmatch clear size fails)
  | kill id => exact killSession_of_clear fnmatch clear

/-- A step whose target is not mistaken is the step on exact names. -/
theorem step_of_clear (clear : ClearStep fnmatch state action) :
    step fnmatch state action = state.step action := by
  cases action with
  | attachLock call =>
      have found : (target fnmatch state.host call.id).isSome =
          state.host.tmuxSessionExists call.id := by
        rw [target_of_clear fnmatch (clear call.id rfl)]
        split
        · next isLive => exact isLive.symm
        · next missing => exact (Bool.eq_false_iff.mpr missing).symm
      rw [step, Interleaved.step, found]
  | attachStep =>
      cases held : state.holder with
      | none => simp only [step, Interleaved.step, held, Option.map_none]
      | some progress =>
          simp only [step, Interleaved.step, held, Option.map_some]
          cases progress with
          | existing call recreated =>
              have same : newSession fnmatch state.host call =
                  state.host.newSession call :=
                newSession_of_clear (clear call.id (by simp [targeted?, held]))
              cases started : state.host.newSession call with
              | none => simp only [advance, Interleaved.advance, same, started]
              | some host =>
                  simp only [advance, Interleaved.advance, same, started]
          | checked call found => rfl
          | started call recreated => rfl
  | resize id size fails =>
      rw [step, Interleaved.step,
        resize_of_clear fnmatch (clear id rfl) size fails]
  | killTmux id =>
      rw [step, Interleaved.step, killTmux_of_clear (clear id rfl)]
  | detach | killLock | shutdown | resizePTY | closePTMX | sessionEnds => rfl

/-! ## Ids that are never mistaken -/

variable (fnmatch) in
/-- Among the tmux sessions of some ids, a target names its own or none. -/
structure Distinct (valid : String → Prop) : Prop where
  begins : ∀ id other, valid id → valid other →
    Begins (tmuxName id) (tmuxName other) → id = other
  pattern : ∀ id other, valid id → valid other →
    fnmatch (tmuxName id) (tmuxName other) = true → id = other

/-- Ids of one length without special characters are distinct. -/
theorem Distinct.of_length
    {valid : String → Prop}
    {length : Nat}
    (same : ∀ id, valid id → id.length = length)
    (literal : ∀ id, valid id → ∀ name,
      fnmatch (tmuxName id) name = true → tmuxName id = name) :
    Distinct fnmatch valid where
  begins id other isValid otherValid begins := by
    have lengths : (tmuxName id).toList.length =
        (tmuxName other).toList.length := by
      rw [String.length_toList, String.length_toList, tmuxName, tmuxName,
        String.length_append, String.length_append, same id isValid,
        same other otherValid]
    exact tmuxName_injective
      (String.toList_injective (begins.eq_of_length lengths))
  pattern id other isValid _ found :=
    tmuxName_injective (literal id isValid _ found)

/-- All live sessions are those of some ids. -/
def Named (valid : String → Prop) (host : Host) : Prop :=
  ∀ name ∈ host.server.live.keys, ∃ id, valid id ∧ tmuxName id = name

/-- The session id that an action names. -/
def named? : Action → Option String
  | .attachLock call => some call.id
  | .detach id _ | .resize id _ _ | .killLock id | .killTmux id
  | .sessionEnds id => some id
  | .attachStep | .shutdown | .resizePTY _ _ | .closePTMX _ => none

section Ids

variable {valid : String → Prop}

theorem Named.clear
    (distinct : Distinct fnmatch valid)
    (named : Named valid host)
    {id : String}
    (isValid : valid id) :
    Clear fnmatch host id := by
  rintro other ⟨missing, member, prefixed | ⟨_, matched⟩⟩
  · have begins := (prefixed other member).mpr rfl
    obtain ⟨otherId, otherValid, rfl⟩ := named other member
    obtain rfl := distinct.begins id otherId isValid otherValid begins
    exact missing member
  · have found := (matched other member).mpr rfl
    obtain ⟨otherId, otherValid, rfl⟩ := named other member
    obtain rfl := distinct.pattern id otherId isValid otherValid found
    exact missing member

namespace Named

theorem of_subset
    {next : Host}
    (named : Named valid host)
    (subset : ∀ name ∈ next.server.live.keys, name ∈ host.server.live.keys) :
    Named valid next :=
  fun name member => named name (subset name member)

theorem close (named : Named valid host) (client : Handle) :
    Named valid (host.close client) :=
  named.of_subset fun name member => by rwa [Host.keys_close] at member

theorem detach (named : Named valid host) (id : String) (client : Handle) :
    Named valid (host.detach id (some client)) := by
  simp only [Host.detach]
  split
  · have erased : Named valid
        { host with sessions := host.sessions.erase id } := named
    exact erased.close client
  · exact named.close client

theorem newSession
    {started : Host}
    {call : AttachCall}
    (named : Named valid host)
    (begun : host.newSession call = some started) :
    Named valid started := by
  unfold Host.newSession at begun
  split at begun
  · cases begun
  · cases begun
    refine named.of_subset fun name member => ?_
    rwa [Server.attachSession, Table.modify, Table.keys_mapWithKey] at member

theorem attachCreate
    {created : Host}
    {call : AttachCall}
    (named : Named valid host)
    (isValid : valid call.id)
    (succeeded : host.attachCreate call = some created) :
    Named valid created := by
  obtain ⟨_, _, rfl⟩ := Host.attachCreate_eq_some succeeded
  intro name member
  rcases (Table.mem_keys_setEntry _ _ _ _).mp member with rfl | member
  · exact ⟨call.id, isValid, rfl⟩
  · exact named name member

theorem attachPublish (named : Named valid host) (call : AttachCall) :
    Named valid (host.attachPublish call) := by
  unfold Host.attachPublish
  split
  · exact named.close _
  · exact named

theorem attachExisting
    (named : Named valid host)
    (call : AttachCall)
    (recreated : Bool) :
    Named valid (host.attachExisting call recreated).1 := by
  unfold Host.attachExisting
  split
  · exact named
  · next started begun => exact (named.newSession begun).attachPublish call

theorem attach
    {call : AttachCall}
    (named : Named valid host)
    (isValid : valid call.id) :
    Named valid (host.attach call).1 := by
  unfold Host.attach Host.attachChecked
  split
  · exact named.attachExisting call false
  · split
    · exact named
    · next created succeeded =>
        exact (named.attachCreate isValid succeeded).attachExisting call true

theorem resize
    (named : Named valid host)
    (id : String)
    (size : Size)
    (fails : Bool) :
    Named valid (host.resize id size fails).1 := by
  rcases host.resize_cases id size fails with
    ⟨_, same⟩ | ⟨_, same⟩ | ⟨_, _, session, live, sent⟩
  · rw [same]
    exact named
  · rw [same]
    exact named
  · rw [sent]
    refine named.of_subset fun name member => ?_
    rwa [Table.keys_set _ live] at member

theorem killLocked (named : Named valid host) (id : String) :
    Named valid (host.killLocked id) :=
  named.of_subset fun name member => by rwa [Host.keys_killLocked] at member

theorem killTmux (named : Named valid host) (id : String) :
    Named valid (host.killTmux id) := by
  refine named.of_subset fun name member => ?_
  obtain ⟨entry, kept, rfl⟩ := List.mem_map.mp member
  exact List.mem_map_of_mem (List.mem_of_mem_filter kept)

theorem shutdown (named : Named valid host) : Named valid host.shutdown := by
  unfold Host.shutdown
  generalize host.sessions.entries = entries
  induction entries generalizing host with
  | nil => exact named
  | cons entry entries ih => exact ih (named.close entry.2)

/-- One call keeps the names. -/
theorem serve
    {call : Call}
    (named : Named valid host)
    (isValid : valid call.id) :
    Named valid (host.serve call) := by
  cases call with
  | attach call => exact named.attach isValid
  | detach id client => exact named.detach id client
  | resize id size fails => exact named.resize id size fails
  | kill id => exact (named.killLocked id).killTmux id

end Named

/-- The state of a run whose ids are all valid. -/
structure Trusted (valid : String → Prop) (state : Interleaved) : Prop where
  named : Named valid state.host
  holder : ∀ progress ∈ state.holder, valid progress.call.id

namespace Trusted

variable {next : Interleaved}

theorem advance
    {progress : Progress}
    (trusted : Trusted valid state)
    (held : state.holder = some progress) :
    Trusted valid (state.advance progress) := by
  have isValid := trusted.holder progress held
  cases progress with
  | checked call found =>
      cases found with
      | true => exact ⟨trusted.named, fun _ same => by cases same; exact isValid⟩
      | false =>
          simp only [Interleaved.advance]
          split
          · exact ⟨trusted.named, by simp⟩
          · next created succeeded =>
              exact ⟨trusted.named.attachCreate isValid succeeded,
                fun _ same => by cases same; exact isValid⟩
  | existing call recreated =>
      simp only [Interleaved.advance]
      split
      · exact ⟨trusted.named, by simp⟩
      · next started begun =>
          exact ⟨trusted.named.newSession begun,
            fun _ same => by cases same; exact isValid⟩
  | started call recreated =>
      exact ⟨trusted.named.attachPublish call, by simp [Interleaved.advance]⟩

theorem step
    (trusted : Trusted valid state)
    (isValid : ∀ id ∈ named? action, valid id)
    (stepped : state.step action = some next) :
    Trusted valid next := by
  cases action with
  | attachLock call =>
      obtain ⟨_, rfl⟩ := Interleaved.step_attachLock.mp stepped
      exact ⟨trusted.named, fun _ same => by
        cases same
        exact isValid call.id rfl⟩
  | attachStep =>
      obtain ⟨progress, held, rfl⟩ := Interleaved.step_attachStep.mp stepped
      exact trusted.advance held
  | detach id client =>
      obtain ⟨_, rfl⟩ := Interleaved.step_detach.mp stepped
      exact ⟨trusted.named.detach id client, trusted.holder⟩
  | resize id size fails =>
      obtain ⟨_, rfl⟩ := Interleaved.step_resize.mp stepped
      exact ⟨trusted.named.resize id size fails, trusted.holder⟩
  | killLock id =>
      obtain ⟨_, rfl⟩ := Interleaved.step_killLock.mp stepped
      exact ⟨trusted.named.killLocked id, trusted.holder⟩
  | killTmux id =>
      obtain ⟨_, rfl⟩ := Interleaved.step_killTmux.mp stepped
      exact ⟨trusted.named.killTmux id, trusted.holder⟩
  | shutdown =>
      obtain ⟨_, rfl⟩ := Interleaved.step_shutdown.mp stepped
      exact ⟨trusted.named.shutdown, trusted.holder⟩
  | resizePTY client size =>
      cases Interleaved.step_resizePTY.mp stepped
      exact ⟨trusted.named, trusted.holder⟩
  | closePTMX client =>
      cases Interleaved.step_closePTMX.mp stepped
      exact ⟨trusted.named, trusted.holder⟩
  | sessionEnds id =>
      cases Interleaved.step_sessionEnds.mp stepped
      exact ⟨trusted.named.killTmux id, trusted.holder⟩

/-- No step mistakes its target. -/
theorem clearStep
    (distinct : Distinct fnmatch valid)
    (trusted : Trusted valid state)
    (isValid : ∀ id ∈ named? action, valid id) :
    ClearStep fnmatch state action := by
  intro id aimed
  apply trusted.named.clear distinct
  cases action with
  | attachStep =>
      cases held : state.holder with
      | none => simp [targeted?, held] at aimed
      | some progress =>
          cases progress with
          | existing call recreated =>
              simp only [targeted?, held, Option.mem_def,
                Option.some.injEq] at aimed
              rw [← aimed]
              exact trusted.holder _ held
          | checked => simp [targeted?, held] at aimed
          | started => simp [targeted?, held] at aimed
  | attachLock | resize | killTmux => exact isValid id aimed
  | detach | killLock | shutdown | resizePTY | closePTMX | sessionEnds =>
      cases aimed

end Trusted

end Ids

/-- With ids that tmux does not mistake for one another, the runs of the
manager, the conditions that they meet, and its calls one after the other are
those on exact names. -/
theorem exact_names_suffice
    {valid : String → Prop}
    {server : Server}
    {actions : List Action}
    (distinct : Distinct fnmatch valid)
    (named : ∀ name ∈ server.live.keys, ∃ id, valid id ∧ tmuxName id = name)
    (isValid : ∀ action ∈ actions, ∀ id ∈ named? action, valid id) :
    (run (step fnmatch) (Interleaved.start server) actions =
        run Interleaved.step (Interleaved.start server) actions ∧
      ∀ condition,
        Follows (step fnmatch) condition (Interleaved.start server) actions ↔
          Follows Interleaved.step condition (Interleaved.start server)
            actions) ∧
      ∀ calls : List Call, (∀ call ∈ calls, valid call.id) →
        calls.foldl (serve fnmatch) (Host.newManager server) =
          calls.foldl Host.serve (Host.newManager server) := by
  have began : Named valid (Host.newManager server) := named
  constructor
  · have always : Follows Interleaved.step (fun _ _ => True)
        (Interleaved.start server) actions :=
      Follows.of_forall (fun _ _ => trivial) _ actions
    have start : Trusted valid (Interleaved.start server) :=
      ⟨began, by simp [Interleaved.start]⟩
    have clear : Follows Interleaved.step (ClearStep fnmatch)
        (Interleaved.start server) actions := by
      refine Follows.imp_of_kept ?_ ?_ start (always.and_of_forall isValid)
      · exact fun _ _ _ trusted permitted => trusted.step permitted.1
      · exact fun _ _ trusted permitted =>
          trusted.clearStep distinct permitted.1
    have same : ∀ state action, ClearStep fnmatch state action →
        step fnmatch state action = state.step action :=
      fun _ _ => step_of_clear
    exact ⟨run_congr same clear, fun _ => Follows.congr_step same clear⟩
  · intro calls
    generalize Host.newManager server = host at began
    induction calls generalizing host with
    | nil => exact fun _ => rfl
    | cons call calls ih =>
        intro isValid
        have here := isValid call (by simp)
        rw [List.foldl_cons, List.foldl_cons,
          serve_of_clear (began.clear distinct here)]
        exact ih _ (began.serve here)
          fun other member => isValid other (by simp [member])

/-- Two ids of one length: one session is resized, the other is killed. -/
def twoIds : List Action :=
  [.attachLock ⟨0, "3f2a", ⟨120, 40⟩, ⟨false, false⟩⟩, .attachStep,
    .attachStep, .attachStep,
    .attachLock ⟨1, "3f2b", ⟨120, 40⟩, ⟨false, false⟩⟩, .attachStep,
    .attachStep, .attachStep, .resize "3f2b" ⟨80, 24⟩ false,
    .killLock "3f2a", .killTmux "3f2a"]

theorem exact_names_suffice_twoIds :
    (run (step literal) (Interleaved.start Server.fresh) twoIds =
        run Interleaved.step (Interleaved.start Server.fresh) twoIds ∧
      ∀ condition,
        Follows (step literal) condition (Interleaved.start Server.fresh)
            twoIds ↔
          Follows Interleaved.step condition (Interleaved.start Server.fresh)
            twoIds) ∧
      ∀ calls : List Call, (∀ call ∈ calls, call.id.length = 4) →
        calls.foldl (serve literal) (Host.newManager Server.fresh) =
          calls.foldl Host.serve (Host.newManager Server.fresh) :=
  exact_names_suffice
    (Distinct.of_length (fun _ same => same)
      fun _ _ _ equal => of_decide_eq_true equal)
    (by simp [Server.fresh, Table.keys, Table.empty]) (by decide)

end Resolving
end Tmux
end LociTerm
