import LociTerm.Auth.Gate
import LociTerm.Library.Run

/-!
# Every request is decided

A request that has arrived stays under way until the gate has a verdict for it.
Its next check can always be made, and after at most five checks of its own the
last of them records the verdict, whatever other requests do in between.
-/

namespace LociTerm
namespace Auth

/-- The request that makes a check with this step. -/
def GateAction.check? : GateAction → Option Nat
  | .hasPassword id _ | .lookupSession id | .readClock id | .evictSession id
  | .consumeTicket id => some id
  | .clock _ | .closeStore | .arrive _ _ | .setupHasPassword _ _ _ _
  | .setupStore _ _ _ | .createSession _ | .deleteSession _
  | .createTicket _ => none

/-- The request that arrives with this step. -/
def GateAction.arrival? : GateAction → Option Request
  | .arrive _ request => some request
  | _ => none

/-- How many checks may still come. -/
def Stage.left : Stage → Nat
  | .arrived => 5
  | .session _ => 4
  | .found _ _ _ => 3
  | .evict _ _ => 2
  | .ticket _ _ => 1

namespace Gate

/-- A request under way has made a check: it has come on, or it has got its
verdict. -/
inductive Checked (state next : Gate) (id : Nat) : Prop
  | forward
      {request : Request}
      {stage later : Stage}
      (found : state.requests.get? id = some (request, stage))
      (less : later.left < stage.left)
      (requests : next.requests = state.requests.set id (request, later))
      (verdicts : next.verdicts = state.verdicts)
  | decided
      {request : Request}
      {stage : Stage}
      {verdict : Verdict}
      (found : state.requests.get? id = some (request, stage))
      (same : verdict.request = request)
      (requests : next.requests = state.requests.erase id)
      (verdicts : next.verdicts = verdict :: state.verdicts)

variable {state next : Gate} {action : GateAction} {id : Nat}

/-- What a check does to the requests and the verdicts. -/
theorem step_check
    (check : action.check? = some id)
    (stepped : state.step action = some next) :
    Checked state next id := by
  cases action with
  | hasPassword _ fails =>
      cases check
      obtain ⟨request, found, ⟨_, rfl⟩ | ⟨_, rfl⟩⟩ := step_hasPassword stepped
      · exact .forward found (by simp [Stage.left]) rfl rfl
      · exact .decided found rfl rfl rfl
  | lookupSession =>
      cases check
      obtain ⟨request, password, found, ⟨_, rfl⟩ | ⟨expiry, _, rfl⟩⟩ :=
        step_lookupSession stepped
      · exact .forward found (by simp [Stage.left]) rfl rfl
      · exact .forward found (by simp [Stage.left]) rfl rfl
  | readClock =>
      cases check
      obtain ⟨request, password, lookup, expiry, found,
        ⟨_, rfl⟩ | ⟨_, rfl⟩⟩ := step_readClock stepped
      · exact .forward found (by simp [Stage.left]) rfl rfl
      · exact .decided found rfl rfl rfl
  | evictSession =>
      cases check
      obtain ⟨request, password, expired, found, rfl⟩ :=
        step_evictSession stepped
      exact .forward found (by simp [Stage.left]) rfl rfl
  | consumeTicket =>
      cases check
      obtain ⟨request, password, session, found, rfl⟩ :=
        step_consumeTicket stepped
      rcases checkTicket_cases state id request password session with
        ⟨_, _, checked⟩ | ⟨_, checked⟩
      · rw [checked]
        exact .decided found rfl rfl rfl
      · rw [checked]
        exact .decided found rfl rfl rfl
  | clock | closeStore | arrive | setupHasPassword | setupStore
  | createSession | deleteSession | createTicket => cases check

/-- What every other step does to them. -/
theorem step_other
    (other : action.check? = none)
    (stepped : state.step action = some next) :
    next.verdicts = state.verdicts ∧
      (action.arrival? = none ∧ next.requests = state.requests ∨
        ∃ id request, action.arrival? = some request ∧
          state.requests.get? id = none ∧
          next.requests = state.requests.set id (request, .arrived)) := by
  cases action with
  | arrive id request =>
      simp only [step] at stepped
      split at stepped <;> cases stepped
      next absent =>
        refine ⟨rfl, Or.inr ⟨id, request, rfl, ?_, rfl⟩⟩
        simpa using absent
  | clock | createSession | createTicket =>
      simp only [step] at stepped
      split at stepped <;> cases stepped
      exact ⟨rfl, Or.inl ⟨rfl, rfl⟩⟩
  | closeStore | deleteSession =>
      cases stepped
      exact ⟨rfl, Or.inl ⟨rfl, rfl⟩⟩
  | setupHasPassword =>
      rcases step_setupHasPassword stepped with rfl | rfl
      · exact ⟨rfl, Or.inl ⟨rfl, rfl⟩⟩
      · exact ⟨rfl, Or.inl ⟨rfl, rfl⟩⟩
  | setupStore =>
      obtain ⟨_, _, _, ⟨_, rfl⟩ | ⟨_, rfl⟩⟩ := step_setupStore stepped
      · exact ⟨rfl, Or.inl ⟨rfl, rfl⟩⟩
      · exact ⟨rfl, Or.inl ⟨rfl, rfl⟩⟩
  | hasPassword | lookupSession | readClock | evictSession
  | consumeTicket => cases other

/-- The next check of a request under way can be made. -/
theorem exists_check
    {request : Request}
    {stage : Stage}
    (found : state.requests.get? id = some (request, stage)) :
    ∃ action, action.check? = some id ∧ (state.step action).isSome = true := by
  cases stage with
  | arrived =>
      refine ⟨.hasPassword id false, rfl, ?_⟩
      by_cases stored : state.readsPassword false = true <;>
        simp [step, found, stored]
  | session password =>
      refine ⟨.lookupSession id, rfl, ?_⟩
      by_cases empty : getTokenFromRequest request = ""
      · simp [step, found, empty]
      · cases entry : state.auth.lookupSession (getTokenFromRequest request) <;>
          simp [step, found, empty, entry]
  | found password lookup expiry =>
      refine ⟨.readClock id, rfl, ?_⟩
      by_cases past : Manager.after state.now expiry = true <;>
        simp [step, found, past]
  | evict password expired =>
      exact ⟨.evictSession id, rfl, by simp [step, found]⟩
  | ticket password session =>
      exact ⟨.consumeTicket id, rfl, by simp [step, found]⟩

/-- A request under way at the gate. -/
structure Serves (state : Gate) (id : Nat) : Prop where
  /-- Its next check can be made. -/
  enabled : ∃ action, action.check? = some id ∧
    (state.step action).isSome = true
  /-- Every check brings it on, and the last one records its verdict. -/
  checked : ∀ action next, action.check? = some id →
    state.step action = some next → Checked state next id
  /-- Nobody else moves it. -/
  kept : ∀ action next, action.check? ≠ some id →
    state.step action = some next →
      next.requests.get? id = state.requests.get? id

theorem serves
    {request : Request}
    {stage : Stage}
    (found : state.requests.get? id = some (request, stage)) :
    state.Serves id where
  enabled := exists_check found
  checked _ _ check stepped := step_check check stepped
  kept action next different stepped := by
    cases check : action.check? with
    | some other =>
        have apart : other ≠ id := by
          rintro rfl
          exact different check
        cases step_check check stepped with
        | forward _ _ requests _ =>
            rw [requests, Table.get?_set_of_ne _ _ apart]
        | decided _ _ requests _ =>
            rw [requests, Table.get?_erase_of_ne _ apart]
    | none =>
        rcases (step_other check stepped).2 with
          ⟨_, same⟩ | ⟨new, request, _, absent, added⟩
        · rw [same]
        · rw [added]
          refine Table.get?_set_of_ne _ _ ?_
          rintro rfl
          rw [absent] at found
          cases found

/-! ## No request is lost -/

/-- The requests under way and those that have a verdict. -/
def known (state : Gate) : List Request :=
  state.requests.entries.map (·.2.1) ++ state.verdicts.map (·.request)

/-- A step adds the request that arrives, and forgets none. -/
theorem known_step (stepped : state.step action = some next) :
    next.known.Perm (action.arrival?.toList ++ state.known) := by
  cases check : action.check? with
  | some id =>
      have silent : action.arrival? = none := by
        cases action <;> first | rfl | cases check
      rw [silent]
      cases step_check check stepped with
      | @forward request stage later found _ requests verdicts =>
          have old := (Table.perm_of_get? found).map
            fun entry : Nat × Request × Stage => entry.2.1
          have new := (state.requests.perm_set id (request, later)).map
            fun entry : Nat × Request × Stage => entry.2.1
          simp only [known, requests, verdicts]
          exact (new.trans old.symm).append_right _
      | @decided request stage verdict found same requests verdicts =>
          have old := (Table.perm_of_get? found).map
            fun entry : Nat × Request × Stage => entry.2.1
          simp only [known, requests, verdicts, List.map_cons, same]
          exact (List.perm_middle.trans (old.symm.append_right _ :))
  | none =>
      obtain ⟨verdicts, ⟨silent, same⟩ | ⟨id, request, arrives, absent, added⟩⟩ :=
        step_other check stepped
      · rw [silent, known, same, verdicts]
        exact List.Perm.refl _
      · have new := (Table.perm_set_of_none (request, Stage.arrived) absent).map
          fun entry : Nat × Request × Stage => entry.2.1
        rw [arrives, known, added, verdicts]
        exact new.append_right _

/-- Every request that has arrived is under way or has got one verdict. -/
theorem known_of_run
    {passwordHash : Option String}
    {actions : List GateAction}
    (ran : run Gate.step (start passwordHash) actions = some state) :
    state.known.Perm (actions.filterMap GateAction.arrival?) := by
  have preserved : ∀ past (state : Gate) action next,
      state.known.Perm (past.filterMap GateAction.arrival?) →
      state.step action = some next →
      next.known.Perm ((past ++ [action]).filterMap GateAction.arrival?) := by
    intro past state action next same stepped
    have added := (known_step stepped).trans (same.append_left _)
    have last : [action].filterMap GateAction.arrival? =
        action.arrival?.toList := by cases action <;> rfl
    rw [List.filterMap_append, last]
    exact added.trans List.perm_append_comm
  have none : (start passwordHash).known.Perm
      (([] : List GateAction).filterMap GateAction.arrival?) :=
    List.Perm.refl []
  exact history_of_run preserved none ran

end Gate
end Auth
end LociTerm
