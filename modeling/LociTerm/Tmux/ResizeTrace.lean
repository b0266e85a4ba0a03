import LociTerm.Tmux.Manager
import LociTerm.Library.Run

/-!
# What `Resize` sends

The manager alone, where a `resize-window` command that is run succeeds or
fails as the label says.  Over every sequence of `Resize` and `KillSession`
calls, the commands that are run can be told from the trace, without the cache.
-/

namespace LociTerm
namespace Tmux

/-- A call that reads or writes the size cache.  A `Resize` says whether its
command succeeds if it is run. -/
inductive SizeCall
  | resize (id : String) (size : Size) (succeeds : Bool)
  | killSession (id : String)
  deriving DecidableEq

/-- A `resize-window` command. -/
structure ShellOut where
  name : String
  size : Size
  succeeded : Bool
  deriving DecidableEq

/-- What a call returns, and the command that it has run. -/
structure SizeAnswer where
  error : Bool
  shellOut : Option ShellOut
  deriving DecidableEq

/-- The session id of a call. -/
def SizeCall.id : SizeCall → String
  | .resize id _ _ => id
  | .killSession id => id

namespace Manager

/-- `NewManager` -/
def new : Manager := ⟨Table.empty, Table.empty⟩

/-- `Manager.Resize` -/
def resize (m : Manager) (id : String) (size : Size) (succeeds : Bool) :
    Manager × SizeAnswer :=
  if m.lastSize.get? id = some size then (m, ⟨false, none⟩)
  else if succeeds then
    ({ m with lastSize := m.lastSize.set id size },
      ⟨false, some ⟨tmuxName id, size, true⟩⟩)
  else (m, ⟨true, some ⟨tmuxName id, size, false⟩⟩)

/-- What `Manager.KillSession` does to the fields of the manager. -/
def killSession (m : Manager) (id : String) : Manager :=
  { m with
    sessions := m.sessions.erase id
    lastSize := m.lastSize.erase id }

/-- One call. -/
def serve (m : Manager) : SizeCall → Manager × SizeAnswer
  | .resize id size succeeds => m.resize id size succeeds
  | .killSession id => (m.killSession id, ⟨false, none⟩)

end Manager

/-! ## The manager of a host -/

namespace Host

/-- The `resize-window` command would succeed. -/
def resizeSucceeds (host : Host) (id : String) (fails : Bool) : Bool :=
  !fails && host.tmuxSessionExists id

/-- On a host, the tmux server decides whether the command succeeds. -/
theorem resize_toManager
    (host : Host)
    (id : String)
    (size : Size)
    (fails : Bool) :
    ((host.resize id size fails).1.toManager,
        !(host.resize id size fails).2) =
      ((host.toManager.resize id size (host.resizeSucceeds id fails)).1,
        (host.toManager.resize id size
          (host.resizeSucceeds id fails)).2.error) := by
  unfold resize Manager.resize
  by_cases cached : host.lastSize.get? id = some size
  · simp [cached]
  · cases fails with
    | true => simp [cached, resizeSucceeds]
    | false =>
        cases sent : host.server.resizeWindow (tmuxName id) size with
        | none =>
            have absent : host.tmuxSessionExists id = false := by
              cases found : host.server.live.get? (tmuxName id) with
              | none => simp [tmuxSessionExists, Server.hasSession, found]
              | some session =>
                  simp [Server.resizeWindow, found] at sent
            simp [cached, resizeSucceeds, absent]
        | some server =>
            obtain ⟨session, live, rfl⟩ := Server.resizeWindow_eq_some sent
            have present : host.tmuxSessionExists id = true := by
              simp [tmuxSessionExists, Server.hasSession, live]
            simp [cached, resizeSucceeds, present]

theorem killSession_toManager (host : Host) (id : String) :
    (host.killSession id).toManager = host.toManager.killSession id := by
  have sessions : (host.killLocked id).sessions = host.sessions.erase id := by
    unfold killLocked
    cases found : host.sessions.get? id with
    | some client => simp
    | none => exact ((host.sessions.erase_eq_self_iff id).mpr found).symm
  have lastSize := host.lastSize_killLocked id
  unfold killSession killTmux Manager.killSession
  exact congrArg₂ Manager.mk sessions lastSize

end Host

namespace Manager

/-! ## Told from the trace -/

/-- What one entry of a trace does to the last size that was sent for an id. -/
def record (id : String) (last : Option Size) :
    SizeCall × SizeAnswer → Option Size
  | (.resize other size _, answer) =>
      if other = id ∧ answer.shellOut.any (·.succeeded) then some size else last
  | (.killSession other, _) => if other = id then none else last

/-- The size of the last successful shell-out for an id since its last
`KillSession`, if there is one. -/
def lastSent (id : String) (entries : List (SizeCall × SizeAnswer)) :
    Option Size :=
  entries.foldl (record id) none

/-- The cache records what can be told from the trace. -/
theorem get?_lastSize_serve (id : String) (m : Manager) (call : SizeCall) :
    (m.serve call).1.lastSize.get? id =
      record id (m.lastSize.get? id) (call, (m.serve call).2) := by
  cases call with
  | resize other size succeeds =>
      simp only [serve, resize, record]
      by_cases cached : m.lastSize.get? other = some size
      · simp [cached]
      · cases succeeds with
        | true => simp [cached, Table.get?_set]
        | false => simp [cached]
  | killSession other =>
      simp only [serve, killSession, record]
      exact Table.get?_erase m.lastSize other id

theorem lastSent_trace (id : String) (calls : List SizeCall) :
    lastSent id (trace serve new calls) =
      (perform serve new calls).1.lastSize.get? id :=
  (foldl_trace (fun m : Manager => m.lastSize.get? id)
    (get?_lastSize_serve id) new calls).symm

/-- The answer to a `Resize` in terms of the trace before it. -/
structure Answers
    (before : List (SizeCall × SizeAnswer))
    (id : String)
    (size : Size)
    (succeeds : Bool)
    (answer : SizeAnswer) : Prop where
  /-- A command is run exactly if the size is not the last one sent. -/
  shellOut : answer.shellOut =
    if lastSent id before = some size then none
    else some ⟨tmuxName id, size, succeeds⟩
  /-- The call fails exactly if its command has. -/
  error : answer.error = true ↔ ∃ shellOut ∈ answer.shellOut,
    shellOut.succeeded = false

/-- `Resize` in a state whose cache can be told from a trace. -/
theorem resize_answers
    {m : Manager}
    {before : List (SizeCall × SizeAnswer)}
    {id : String}
    (cached : lastSent id before = m.lastSize.get? id)
    (size : Size)
    (succeeds : Bool) :
    Answers before id size succeeds (m.resize id size succeeds).2 := by
  constructor
  · rw [cached, resize]
    split
    · rfl
    · cases succeeds <;> rfl
  · rw [resize]
    split
    · simp
    · cases succeeds <;> simp

/-- A failed `Resize` leaves the manager as it is. -/
theorem resize_of_error
    {m : Manager}
    {id : String}
    {size : Size}
    {succeeds : Bool}
    (failed : (m.resize id size succeeds).2.error = true) :
    m.lastSize.get? id ≠ some size ∧ (m.resize id size succeeds).1 = m := by
  unfold resize at failed ⊢
  by_cases cached : m.lastSize.get? id = some size
  · simp [cached] at failed
  · cases succeeds with
    | true => simp [cached] at failed
    | false => simp [cached]

/-- The calls for an id depend on its cached size only, and keep it from
others. -/
theorem filter_trace_id (calls : List SizeCall) (id : String) :
    (trace serve new calls).filter (fun entry => entry.1.id = id) =
      trace serve new (calls.filter fun call => call.id = id) := by
  apply filter_trace (fun call : SizeCall => decide (call.id = id))
    fun m : Manager => m.lastSize.get? id
  · intro m other call concerns same
    cases of_decide_eq_true concerns
    cases call with
    | resize id size succeeds =>
        simp only [SizeCall.id] at same
        simp only [serve, resize, SizeCall.id, same]
        by_cases cached : other.lastSize.get? id = some size
        · simpa [cached] using same
        · cases succeeds with
          | true => simp [cached]
          | false => simpa [cached] using same
    | killSession id =>
        exact ⟨rfl, by simp [serve, killSession, SizeCall.id]⟩
  · intro m call concerns
    have different : call.id ≠ id := of_decide_eq_false concerns
    cases call with
    | resize other size succeeds =>
        simp only [serve, resize]
        split
        · rfl
        · cases succeeds with
          | true => exact Table.get?_set_of_ne m.lastSize size different
          | false => rfl
    | killSession other => exact Table.get?_erase_of_ne m.lastSize different
  · rfl

/-- Over every sequence of calls, the commands that are run are told from the
trace; a failed call changes nothing, so that the same call is sent again; and
the calls for one id are answered as if there were no others. -/
theorem resize_issues_changes (calls : List SizeCall) :
    (∀ before id size succeeds answer after,
      trace serve new calls =
          before ++ (.resize id size succeeds, answer) :: after →
        Answers before id size succeeds answer) ∧
    (∀ before id answer after,
      trace serve new calls = before ++ (.killSession id, answer) :: after →
        answer = ⟨false, none⟩) ∧
    (∀ id size succeeds,
      ((perform serve new calls).1.resize id size succeeds).2.error = true →
        ((perform serve new calls).1.resize id size succeeds).1 =
            (perform serve new calls).1 ∧
          ∀ again, (((perform serve new calls).1.resize id size
            succeeds).1.resize id size again).2.shellOut =
              some ⟨tmuxName id, size, again⟩) ∧
    ∀ id, (trace serve new calls).filter (fun entry => entry.1.id = id) =
      trace serve new (calls.filter fun call => call.id = id) := by
  refine ⟨?_, ?_, ?_, filter_trace_id calls⟩
  · intro before id size succeeds answer after traced
    obtain ⟨earlier, later, _, rfl, rfl⟩ := trace_eq_append_cons traced
    exact resize_answers (lastSent_trace id earlier) size succeeds
  · intro before id answer after traced
    obtain ⟨earlier, later, _, rfl, rfl⟩ := trace_eq_append_cons traced
    rfl
  · intro id size succeeds failed
    obtain ⟨uncached, same⟩ := resize_of_error failed
    refine ⟨same, fun again => ?_⟩
    rw [same, resize, if_neg uncached]
    cases again <;> rfl

example : (perform Manager.serve Manager.new
    [.resize "a" ⟨80, 24⟩ false, .resize "a" ⟨80, 24⟩ true,
      .resize "b" ⟨80, 24⟩ true, .resize "a" ⟨80, 24⟩ true,
      .killSession "a", .resize "a" ⟨80, 24⟩ true]).2.map
        (fun answer => answer.shellOut.isSome) =
    [true, true, true, false, false, true] := by
  decide

end Manager
end Tmux
end LociTerm
