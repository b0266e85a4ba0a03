import LociTerm.Ws.Stream

/-!
# A connection winds down

What a terminal handler can still do by itself is bounded by what it has read
from its PTY and its client.  It rests in two places only: it serves, with both
ends open, or it has returned and neither of its goroutines is left.  Once an
end is cut, there is only the second.
-/

namespace LociTerm
namespace Ws

/-- The step brings bytes of the PTY or a message of the client. -/
def ConnectionAction.arrives : ConnectionAction → Bool
  | .read (some _) | .receive (some _) => true
  | _ => false

/-- The step is the handler's own. -/
def ConnectionAction.own : ConnectionAction → Bool
  | .read (some _) | .receive (some _) | .closeElsewhere => false
  | _ => true

/-- The goroutine has not been started, or it has ended. -/
def Routine.Over {task : Type} (routine : Routine task) : Prop :=
  routine = .unstarted ∨ routine = .ended .done

namespace Connection

/-- The PTY of the session has been closed. -/
def PtyShut (c : Connection) : Prop :=
  ∃ attached, c.attached = some attached ∧ attached.session.ptmxOpen = false

/-- One of the two ends has been closed. -/
def Cut (c : Connection) : Prop := c.socketOpen = false ∨ c.PtyShut

/-- The step waits for nothing from outside: a closed PTY fails the reads of
bytes, and a closed socket those of messages. -/
def Due (c : Connection) : ConnectionAction → Prop
  | .read none => c.PtyShut
  | .receive none => c.socketOpen = false
  | .read (some _) | .receive (some _) | .closeElsewhere => False
  | _ => True

/-- Nothing can be done until something comes from outside. -/
def Resting (c : Connection) : Prop :=
  ∀ action, c.Due action → c.step action = none

/-- Both goroutines read. -/
structure Serving (c : Connection) : Prop where
  main : c.main = .waiting
  pump : c.pump = .at none
  reader : c.reader = .at false
  lock : c.lock = none
  once : c.once = .idle
  uncut : ¬ c.Cut

/-- The handler has returned and has left nothing behind. -/
structure Finished (c : Connection) : Prop where
  main : c.main = .returned
  pump : c.pump.Over
  reader : c.reader.Over
  lock : c.lock = none
  socket : c.socketOpen = false
  pty : ∀ attached, c.attached = some attached →
    attached.session.ptmxOpen = false

/-! ## The budget -/

/-- The steps that the handler has left. -/
def mainBudget : Main → Nat
  | .attaching => 6
  | .announcing _ => 5
  | .refused _ | .waiting => 3
  | .detaching => 2
  | .closing => 1
  | .returned => 0

/-- The steps that a goroutine has left before it has called `shutdown`. -/
def routineBudget {task : Type} (busy : task → Bool) : Routine task → Nat
  | .unstarted => 2
  | .at task => if busy task then 4 else 2
  | .ended .exiting => 1
  | .ended _ => 0

/-- The steps that the function of `once` has left. -/
def onceBudget : Once → Nat
  | .idle | .running .closeDone => 3
  | .running .closeConn => 2
  | .running .closePTMX => 1
  | .finished => 0

/-- The steps that are left if nothing arrives.  A free lock counts as one,
which its next holder spends. -/
def budget (c : Connection) : Nat :=
  mainBudget c.main + routineBudget Option.isSome c.pump +
    routineBudget id c.reader + onceBudget c.once + c.lock.isNone.toNat

theorem budget_onSession
    (c : Connection)
    (method : Tmux.Session → Tmux.Session) :
    (c.onSession method).budget = c.budget :=
  rfl

/-- The phase of a side tells how its goroutine ends. -/
theorem pump_of_phase?
    {c : Connection}
    {phase : Phase} :
    c.phase? .pump = some phase ↔ c.pump = .ended phase := by
  cases running : c.pump <;> simp [phase?, running]

theorem reader_of_phase?
    {c : Connection}
    {phase : Phase} :
    c.phase? .reader = some phase ↔ c.reader = .ended phase := by
  cases running : c.reader <;> simp [phase?, running]

/-- A goroutine leaves `exiting`. -/
theorem budget_setPhase
    {c : Connection}
    {side : Side}
    (ending : c.phase? side = some .exiting)
    {phase : Phase}
    (late : phase ≠ .exiting) :
    (c.setPhase phase side).budget + 1 = c.budget := by
  cases side with
  | pump =>
      have exiting := pump_of_phase?.mp ending
      simp only [budget, setPhase, exiting, routineBudget]
      omega
  | reader =>
      have exiting := reader_of_phase?.mp ending
      simp only [budget, setPhase, exiting, routineBudget]
      omega

/-- The first goroutine that ends runs the function of `once`. -/
theorem budget_enterFirst
    {c : Connection}
    {side : Side}
    (ending : c.phase? side = some .exiting)
    (first : c.once = .idle) :
    ({ c.setPhase .shutting side with
        once := .running .closeDone } : Connection).budget + 1 = c.budget := by
  have paid : (c.setPhase .shutting side).budget + 1 = c.budget :=
    budget_setPhase ending (by simp)
  rw [← paid]
  cases side <;> simp [budget, setPhase, first, onceBudget]

/-- Whoever waits for the lock may find it free. -/
theorem budget_of_same
    {c next : Connection}
    (main : next.main = c.main)
    (pump : next.pump = c.pump)
    (reader : next.reader = c.reader)
    (once : next.once = c.once) :
    next.budget ≤ c.budget + 1 := by
  have free := Bool.toNat_le next.lock.isNone
  simp only [budget, main, pump, reader, once]
  omega

/-- A write that fails pays for itself. -/
theorem budget_failed
    {c : Connection}
    {write : Write}
    (wants : c.Wants write) :
    (c.failed write).budget + 2 ≤ c.budget := by
  cases write with
  | error message | attached recreated | chunk data | pong =>
      simp only [Wants] at wants
      simp [budget, failed, wants, mainBudget, routineBudget]
      omega

/-- A write that returns pays for itself and for the lock. -/
theorem budget_sent
    {c : Connection}
    (opened : c.Opened)
    {write : Write}
    (wants : c.Wants write) :
    (c.sent write).budget + 2 ≤ c.budget := by
  cases write with
  | attached recreated =>
      have pump := (opened.announcing recreated wants).2
      have reader := opened.both.mp pump
      simp only [Wants] at wants
      simp only [budget, sent, wants, pump, reader, mainBudget, routineBudget]
      simp
      omega
  | error message | chunk data | pong =>
      simp only [Wants] at wants
      simp [budget, sent, wants, mainBudget, routineBudget]
      omega

/-- A message is answered by one write at most. -/
theorem budget_received
    {c : Connection}
    (idle : c.reader = .at false)
    (message : Protocol.Message) :
    (c.received message).budget ≤ c.budget + 2 := by
  unfold received
  cases Protocol.react message with
  | pong =>
      simp [budget, idle, routineBudget]
      omega
  | resize cols rows => exact Nat.le_add_right _ _
  | write data | nothing => exact Nat.le_add_right _ _

/-- The steps of `shutdown` are counted by `once`. -/
theorem budget_shut
    {c : Connection}
    {side : Side}
    {next : Shutdown}
    (ending : c.phase? side = some .shutting)
    (running : c.once = .running next) :
    (c.shut side next).budget + 1 ≤ c.budget := by
  cases next with
  | closeDone | closeConn =>
      simp only [budget, shut, running, onceBudget]
      omega
  | closePTMX =>
      cases side with
      | pump =>
          have shutting := pump_of_phase?.mp ending
          simp only [budget, shut, setPhase, onSession, running, shutting,
            onceBudget, routineBudget]
          omega
      | reader =>
          have shutting := reader_of_phase?.mp ending
          simp only [budget, shut, setPhase, onSession, running, shutting,
            onceBudget, routineBudget]
          omega

/-- The step of the handler is paid for. -/
def Paid (c : Connection) (action : ConnectionAction) (next : Connection) :
    Prop :=
  action.own.toNat + next.budget ≤ c.budget + 2 * action.arrives.toNat

section Cases

variable {c next : Connection}

theorem paid_attach
    {attached : Attached}
    (stepped : c.step (.attach attached) = some next) :
    c.Paid (.attach attached) next := by
  unfold Paid
  simp only [step, Option.ite_none_right_eq_some, Option.some.injEq]
    at stepped
  obtain ⟨⟨stage, _⟩, rfl⟩ := stepped
  simp [budget, stage, mainBudget, ConnectionAction.own]
  omega

theorem paid_attachFails
    {message : String}
    (stepped : c.step (.attachFails message) = some next) :
    c.Paid (.attachFails message) next := by
  unfold Paid
  simp only [step, Option.ite_none_right_eq_some, Option.some.injEq]
    at stepped
  obtain ⟨stage, rfl⟩ := stepped
  simp [budget, stage, mainBudget, ConnectionAction.own]
  omega

theorem paid_begin
    {write : Write}
    (stepped : c.step (.begin write) = some next) :
    c.Paid (.begin write) next := by
  unfold Paid
  simp only [step, Option.ite_none_right_eq_some, Option.some.injEq]
    at stepped
  obtain ⟨⟨free, _⟩, rfl⟩ := stepped
  simp [budget, free, ConnectionAction.own]
  omega

theorem paid_refuse
    {write : Write}
    (stepped : c.step (.refuse write) = some next) :
    c.Paid (.refuse write) next := by
  unfold Paid
  simp only [step, Option.ite_none_right_eq_some, Option.some.injEq]
    at stepped
  obtain ⟨⟨_, wants⟩, rfl⟩ := stepped
  have paid := budget_failed wants
  simp [ConnectionAction.own]
  omega

theorem paid_finish
    (sound : c.Sound)
    (stepped : c.step .finish = some next) :
    c.Paid .finish next := by
  unfold Paid
  obtain ⟨write, holds, rfl⟩ := Option.map_eq_some_iff.mp stepped
  have paid := budget_sent sound.opened (sound.held write holds)
  have enough : 1 + ((c.sent write).budget + 1) ≤ c.budget := by omega
  refine Nat.le_trans (Nat.add_le_add_left ?_ 1) enough
  exact budget_of_same rfl rfl rfl rfl

theorem paid_fail
    (sound : c.Sound)
    (stepped : c.step .fail = some next) :
    c.Paid .fail next := by
  unfold Paid
  obtain ⟨write, holds, rfl⟩ := Option.map_eq_some_iff.mp stepped
  have paid := budget_failed (sound.held write holds)
  have enough : 1 + ((c.failed write).budget + 1) ≤ c.budget := by omega
  refine Nat.le_trans (Nat.add_le_add_left ?_ 1) enough
  exact budget_of_same rfl rfl rfl rfl

theorem paid_read
    {result : Option Bytes}
    (stepped : c.step (.read result) = some next) :
    c.Paid (.read result) next := by
  unfold Paid
  simp only [step, Option.ite_none_right_eq_some] at stepped
  obtain ⟨idle, taken⟩ := stepped
  split at taken
  · cases taken
  · cases taken
    simp [budget, idle, routineBudget, ConnectionAction.own,
      ConnectionAction.arrives]
    omega
  · cases taken
    simp [budget, idle, routineBudget, ConnectionAction.own]
    omega

theorem paid_receive
    {result : Option Protocol.Message}
    (stepped : c.step (.receive result) = some next) :
    c.Paid (.receive result) next := by
  unfold Paid
  simp only [step, Option.ite_none_right_eq_some] at stepped
  obtain ⟨idle, taken⟩ := stepped
  split at taken
  · next message =>
    cases taken
    have raised := budget_received idle message
    simp only [ConnectionAction.own, ConnectionAction.arrives,
      Bool.toNat_true, Bool.toNat_false]
    omega
  · cases taken
    simp [budget, idle, routineBudget, ConnectionAction.own]
    omega

theorem paid_enter
    {side : Side}
    (stepped : c.step (.enter side) = some next) :
    c.Paid (.enter side) next := by
  unfold Paid
  simp only [step, Option.ite_none_right_eq_some] at stepped
  obtain ⟨ending, taken⟩ := stepped
  split at taken
  · next first =>
      cases taken
      have paid := budget_enterFirst ending first
      exact Nat.le_of_eq ((Nat.add_comm 1 _).trans paid)
  · cases taken
    have paid : (c.setPhase .done side).budget + 1 = c.budget :=
      budget_setPhase ending (by simp)
    simp only [ConnectionAction.own, Bool.toNat_true]
    omega
  · cases taken

theorem paid_shutdown
    {side : Side}
    (stepped : c.step (.shutdown side) = some next) :
    c.Paid (.shutdown side) next := by
  unfold Paid
  simp only [step] at stepped
  split at stepped
  · next next ending running =>
      cases stepped
      have paid := budget_shut ending running
      simp only [ConnectionAction.own, Bool.toNat_true]
      omega
  · cases stepped

theorem paid_wake
    (stepped : c.step .wake = some next) :
    c.Paid .wake next := by
  unfold Paid
  simp only [step, Option.ite_none_right_eq_some, Option.some.injEq]
    at stepped
  obtain ⟨⟨stage, _⟩, rfl⟩ := stepped
  simp [budget, stage, mainBudget, ConnectionAction.own]
  omega

theorem paid_detach
    (stepped : c.step .detach = some next) :
    c.Paid .detach next := by
  unfold Paid
  simp only [step, Option.ite_none_right_eq_some, Option.some.injEq]
    at stepped
  obtain ⟨stage, rfl⟩ := stepped
  simp [budget, onSession, stage, mainBudget, ConnectionAction.own]
  omega

theorem paid_closeConn
    (stepped : c.step .closeConn = some next) :
    c.Paid .closeConn next := by
  unfold Paid
  simp only [step, Option.ite_none_right_eq_some, Option.some.injEq]
    at stepped
  obtain ⟨stage, rfl⟩ := stepped
  simp [budget, stage, mainBudget, ConnectionAction.own]
  omega

theorem paid_closeElsewhere
    (stepped : c.step .closeElsewhere = some next) :
    c.Paid .closeElsewhere next := by
  unfold Paid
  cases stepped
  simp [ConnectionAction.own, budget_onSession]

end Cases

/-- Every step of the handler is paid for. -/
theorem budget_step
    {c next : Connection}
    (sound : c.Sound)
    {action : ConnectionAction}
    (stepped : c.step action = some next) :
    c.Paid action next := by
  cases action with
  | attach attached => exact paid_attach stepped
  | attachFails message => exact paid_attachFails stepped
  | begin write => exact paid_begin stepped
  | refuse write => exact paid_refuse stepped
  | finish => exact paid_finish sound stepped
  | fail => exact paid_fail sound stepped
  | read result => exact paid_read stepped
  | receive result => exact paid_receive stepped
  | enter side => exact paid_enter stepped
  | shutdown side => exact paid_shutdown stepped
  | wake => exact paid_wake stepped
  | detach => exact paid_detach stepped
  | closeConn => exact paid_closeConn stepped
  | closeElsewhere => exact paid_closeElsewhere stepped

/-! ## Taking turns -/

/-- The goroutine has not come to `once`. -/
def Outside (phase : Option Phase) : Prop :=
  phase = none ∨ phase = some .exiting

theorem Outside.not_shutting
    {phase : Option Phase}
    (outside : Outside phase) :
    phase ≠ some .shutting := by
  rcases outside with rfl | rfl <;> simp

/-- How the two goroutines stand while `once` is at its state. -/
def Turns : Once → Option Phase → Option Phase → Prop
  | .idle, pump, reader => Outside pump ∧ Outside reader
  | .running _, pump, reader =>
      (pump = some .shutting ∧ Outside reader) ∨
        (Outside pump ∧ reader = some .shutting)
  | .finished, pump, reader =>
      pump ≠ some .shutting ∧ reader ≠ some .shutting

/-- One goroutine at most is in the function of `once`, and while it runs there
is one. -/
structure Staged (c : Connection) : Prop where
  started : c.main = .waiting → c.pump ≠ .unstarted
  turns : Turns c.once (c.phase? .pump) (c.phase? .reader)

theorem Staged.start : start.Staged where
  started := nofun
  turns := ⟨.inl rfl, .inl rfl⟩

/-- A goroutine that comes to its end is still outside. -/
theorem Turns.exiting
    {once : Once}
    {pump reader : Option Phase}
    (turns : Turns once pump reader) :
    (pump = none → Turns once (some .exiting) reader) ∧
      (reader = none → Turns once pump (some .exiting)) := by
  constructor
  · rintro rfl
    cases once <;> simp_all [Turns, Outside]
  · rintro rfl
    cases once <;> simp_all [Turns, Outside]

/-- Only one goroutine is in the function of `once`. -/
theorem Turns.alone
    {next : Shutdown}
    {pump reader : Option Phase}
    (turns : Turns (.running next) pump reader) :
    (pump = some .shutting → reader ≠ some .shutting) ∧
      (reader = some .shutting → pump ≠ some .shutting) := by
  rcases turns with ⟨rfl, outside⟩ | ⟨outside, rfl⟩
  · exact ⟨fun _ => outside.not_shutting,
      fun shutting _ => outside.not_shutting shutting⟩
  · exact ⟨fun shutting _ => outside.not_shutting shutting,
      fun _ => outside.not_shutting⟩

theorem Staged.failed
    {c : Connection}
    (staged : c.Staged)
    {write : Write}
    (wants : c.Wants write) :
    (c.failed write).Staged := by
  cases write with
  | error message | attached recreated =>
      exact ⟨by simp [Connection.failed], staged.turns⟩
  | chunk data =>
      refine ⟨fun _ => by simp [Connection.failed], staged.turns.exiting.1 ?_⟩
      simp only [Wants] at wants
      simp [phase?, wants]
  | pong =>
      refine ⟨staged.started, staged.turns.exiting.2 ?_⟩
      simp only [Wants] at wants
      simp [phase?, wants]

theorem Staged.moves
    {c next : Connection}
    (staged : c.Staged)
    (sound : c.Sound)
    (moves : c.Moves next) :
    next.Staged := by
  cases moves with
  | attach | attachFails | wake | detach | closeConn =>
      exact ⟨by simp, staged.turns⟩
  | begin | onSession | nothing => exact ⟨staged.started, staged.turns⟩
  | refuse write _ wants => exact staged.failed wants
  | fail write holds =>
      have failed := staged.failed (sound.held write holds)
      exact ⟨failed.started, failed.turns⟩
  | finish write holds =>
      have wants := sound.held write holds
      have turns := staged.turns
      cases write with
      | error message => exact ⟨by simp [sent], turns⟩
      | attached recreated =>
          have pump := (sound.opened.announcing recreated wants).2
          have reader := sound.opened.both.mp pump
          simp only [phase?, pump, reader] at turns
          exact ⟨fun _ => by simp [sent], turns⟩
      | chunk data =>
          simp only [Wants] at wants
          simp only [phase?, wants] at turns
          exact ⟨fun _ => by simp [sent], turns⟩
      | pong =>
          simp only [Wants] at wants
          simp only [phase?, wants] at turns
          exact ⟨staged.started, turns⟩
  | read data idle =>
      have turns := staged.turns
      simp only [phase?, idle] at turns
      exact ⟨fun _ => by simp, turns⟩
  | readFails idle =>
      refine ⟨fun _ => by simp, staged.turns.exiting.1 ?_⟩
      simp [phase?, idle]
  | ping idle =>
      have turns := staged.turns
      simp only [phase?, idle] at turns
      exact ⟨staged.started, turns⟩
  | receiveFails idle =>
      refine ⟨staged.started, staged.turns.exiting.2 ?_⟩
      simp [phase?, idle]
  | enterFirst side ending first =>
      have turns := staged.turns
      rw [first] at turns
      cases side with
      | pump => exact ⟨fun _ => by simp [setPhase], .inl ⟨rfl, turns.2⟩⟩
      | reader => exact ⟨staged.started, .inr ⟨turns.1, rfl⟩⟩
  | enterLater side ending later =>
      have turns := staged.turns
      rw [later] at turns
      cases side with
      | pump =>
          refine ⟨fun _ => by simp [setPhase], ?_⟩
          change Turns c.once (some .done) _
          rw [later]
          exact ⟨by simp, turns.2⟩
      | reader =>
          refine ⟨staged.started, ?_⟩
          change Turns c.once _ (some .done)
          rw [later]
          exact ⟨turns.1, by simp⟩
  | shut side next ending running =>
      have turns := staged.turns
      rw [running] at turns
      cases next with
      | closeDone | closeConn => exact ⟨staged.started, turns⟩
      | closePTMX =>
          have done : some Phase.done ≠ some .shutting := by simp
          cases side with
          | pump =>
              refine ⟨fun _ => ?_, done, turns.alone.1 ending⟩
              simp [shut, setPhase]
          | reader => exact ⟨staged.started, turns.alone.2 ending, done⟩

theorem Staged.run
    {actions : List ConnectionAction}
    {c : Connection}
    (ran : LociTerm.run step Connection.start actions = some c) :
    c.Sound ∧ c.Staged := by
  have preserved : ∀ (c : Connection) action next, c.Sound ∧ c.Staged →
      c.step action = some next → next.Sound ∧ next.Staged := by
    rintro c action next ⟨sound, staged⟩ stepped
    have moves := moves_of_step stepped
    exact ⟨sound.moves moves, staged.moves sound moves⟩
  exact invariant_of_unconditional_run preserved ⟨Sound.start, Staged.start⟩ ran

/-- While `once` runs, one goroutine is in its function. -/
theorem Staged.exists_shutting
    {c : Connection}
    (staged : c.Staged)
    {next : Shutdown}
    (running : c.once = .running next) :
    ∃ side, c.phase? side = some .shutting := by
  have turns := staged.turns
  rw [running] at turns
  rcases turns with ⟨shutting, _⟩ | ⟨_, shutting⟩
  · exact ⟨.pump, shutting⟩
  · exact ⟨.reader, shutting⟩

/-- Whoever is in the function of `once` has it running. -/
theorem Staged.exists_running
    {c : Connection}
    (staged : c.Staged)
    {side : Side}
    (shutting : c.phase? side = some .shutting) :
    ∃ next, c.once = .running next := by
  have turns := staged.turns
  cases stage : c.once with
  | running next => exact ⟨next, rfl⟩
  | idle =>
      rw [stage] at turns
      cases side with
      | pump => exact absurd shutting turns.1.not_shutting
      | reader => exact absurd shutting turns.2.not_shutting
  | finished =>
      rw [stage] at turns
      cases side with
      | pump => exact absurd shutting turns.1
      | reader => exact absurd shutting turns.2

/-! ## Where a connection rests -/

namespace Resting

variable {c : Connection}

theorem unlocked (resting : c.Resting) : c.lock = none := by
  have stuck := resting .finish trivial
  simpa [step] using stuck

/-- A write that a goroutine has come to can fail. -/
theorem unwritten (resting : c.Resting) (write : Write) : ¬c.Wants write := by
  intro wants
  have stuck := resting (.refuse write) trivial
  simp [step, resting.unlocked, wants] at stuck

theorem main (resting : c.Resting) :
    c.main = .waiting ∨ c.main = .returned := by
  cases stage : c.main with
  | waiting => exact .inl rfl
  | returned => exact .inr rfl
  | attaching =>
      have stuck := resting (.attachFails "") trivial
      simp [step, stage] at stuck
  | refused message => exact absurd stage (resting.unwritten (.error message))
  | announcing recreated =>
      exact absurd stage (resting.unwritten (.attached recreated))
  | detaching =>
      have stuck := resting .detach trivial
      simp [step, stage] at stuck
  | closing =>
      have stuck := resting .closeConn trivial
      simp [step, stage] at stuck

theorem not_shutting
    (resting : c.Resting)
    (staged : c.Staged)
    (side : Side) :
    c.phase? side ≠ some .shutting := by
  intro shutting
  obtain ⟨next, running⟩ := staged.exists_running shutting
  have stuck := resting (.shutdown side) trivial
  simp [step, shutting, running] at stuck

/-- Nobody waits for `once`: the goroutine in its function goes on. -/
theorem not_exiting
    (resting : c.Resting)
    (staged : c.Staged)
    (side : Side) :
    c.phase? side ≠ some .exiting := by
  intro ending
  have stuck := resting (.enter side) trivial
  cases stage : c.once with
  | idle | finished => simp [step, ending, stage] at stuck
  | running next =>
      obtain ⟨other, shutting⟩ := staged.exists_shutting stage
      exact resting.not_shutting staged other shutting

theorem pump
    (resting : c.Resting)
    (staged : c.Staged) :
    c.pump.Over ∨ c.pump = .at none ∧ ¬c.PtyShut := by
  cases running : c.pump with
  | unstarted => exact .inl (.inl rfl)
  | «at» hand =>
      cases hand with
      | some data => exact absurd running (resting.unwritten (.chunk data))
      | none =>
          refine .inr ⟨rfl, fun shut => ?_⟩
          have stuck := resting (.read none) shut
          simp [step, running] at stuck
  | ended phase =>
      cases phase with
      | exiting =>
          exact absurd (pump_of_phase?.mpr running)
            (resting.not_exiting staged .pump)
      | shutting =>
          exact absurd (pump_of_phase?.mpr running)
            (resting.not_shutting staged .pump)
      | done => exact .inl (.inr rfl)

theorem reader
    (resting : c.Resting)
    (staged : c.Staged) :
    c.reader.Over ∨ c.reader = .at false ∧ c.socketOpen = true := by
  cases running : c.reader with
  | unstarted => exact .inl (.inl rfl)
  | «at» pong =>
      cases pong with
      | true => exact absurd running (resting.unwritten .pong)
      | false =>
          refine .inr ⟨rfl, ?_⟩
          rw [← Bool.not_eq_false]
          intro shut
          have stuck := resting (.receive none) shut
          simp [step, running] at stuck
  | ended phase =>
      cases phase with
      | exiting =>
          exact absurd (reader_of_phase?.mpr running)
            (resting.not_exiting staged .reader)
      | shutting =>
          exact absurd (reader_of_phase?.mpr running)
            (resting.not_shutting staged .reader)
      | done => exact .inl (.inr rfl)

/-- A handler that waits at rest has not begun to shut down. -/
theorem idle
    (resting : c.Resting)
    (sound : c.Sound)
    (staged : c.Staged)
    (waiting : c.main = .waiting) :
    c.once = .idle := by
  have stuck := resting .wake trivial
  have unclosed : c.once.closes = 0 := by
    rw [← sound.closed.closes]
    simpa [step, waiting] using stuck
  cases stage : c.once with
  | idle => rfl
  | running next =>
      obtain ⟨side, shutting⟩ := staged.exists_shutting stage
      exact absurd shutting (resting.not_shutting staged side)
  | finished =>
      rw [stage] at unclosed
      cases unclosed

theorem serving
    (resting : c.Resting)
    (sound : c.Sound)
    (staged : c.Staged)
    (waiting : c.main = .waiting) :
    c.Serving := by
  have idle := resting.idle sound staged waiting
  have turns := staged.turns
  rw [idle] at turns
  have started := staged.started waiting
  obtain ⟨pump, unshut⟩ : c.pump = .at none ∧ ¬c.PtyShut := by
    rcases resting.pump staged with (unstarted | done) | reads
    · exact absurd unstarted started
    · simp [Turns, Outside, phase?, done] at turns
    · exact reads
  obtain ⟨reader, opened⟩ : c.reader = .at false ∧ c.socketOpen = true := by
    rcases resting.reader staged with (unstarted | done) | reads
    · exact absurd (sound.opened.both.mpr unstarted) started
    · simp [Turns, Outside, phase?, done] at turns
    · exact reads
  refine ⟨waiting, pump, reader, resting.unlocked, idle, ?_⟩
  rintro (shut | shut)
  · rw [opened] at shut
    cases shut
  · exact unshut shut

theorem finished
    (resting : c.Resting)
    (sound : c.Sound)
    (staged : c.Staged)
    (returned : c.main = .returned) :
    c.Finished := by
  have socket := sound.closed.returned returned
  have pty : ∀ attached, c.attached = some attached →
      attached.session.ptmxOpen = false :=
    fun attached found =>
      (sound.closed.detached (.inr returned) attached found).1
  refine ⟨returned, ?_, ?_, resting.unlocked, socket, pty⟩
  · rcases resting.pump staged with ended | ⟨reads, unshut⟩
    · exact ended
    · have present : c.attached ≠ none := fun missing => by
        rw [sound.opened.unattached missing] at reads
        cases reads
      obtain ⟨attached, found⟩ := Option.ne_none_iff_exists'.mp present
      exact absurd ⟨attached, found, pty attached found⟩ unshut
  · rcases resting.reader staged with ended | ⟨_, opened⟩
    · exact ended
    · rw [socket] at opened
      cases opened

end Resting

/-- While both goroutines read, only what comes from outside is next. -/
theorem Serving.resting
    {c : Connection}
    (serving : c.Serving)
    (sound : c.Sound) :
    c.Resting := by
  obtain ⟨main, pump, reader, lock, once, uncut⟩ := serving
  have undone : c.doneCloses = 0 := by
    rw [sound.closed.closes, once]
    rfl
  have unwritten : ∀ write, ¬c.Wants write := by
    intro write
    cases write <;> simp [Wants, main, pump, reader]
  have running : ∀ side, c.phase? side = none := by
    intro side
    cases side <;> simp [phase?, pump, reader]
  intro action due
  cases action with
  | attach | attachFails | detach | closeConn => simp [step, main]
  | begin write | refuse write => simp [step, unwritten]
  | finish | fail => simp [step, lock]
  | read result =>
      cases result with
      | none => exact absurd (.inr due) uncut
      | some data => exact due.elim
  | receive result =>
      cases result with
      | none => exact absurd (.inl due) uncut
      | some message => exact due.elim
  | enter side | shutdown side => simp [step, running]
  | wake => simp [step, undone]
  | closeElsewhere => exact due.elim

theorem Finished.resting
    {c : Connection}
    (finished : c.Finished) :
    c.Resting := by
  obtain ⟨main, pump, reader, lock, _, _⟩ := finished
  have unwritten : ∀ write, ¬c.Wants write := by
    intro write
    rcases pump with pump | pump <;> rcases reader with reader | reader <;>
      cases write <;> simp [Wants, main, pump, reader]
  have settled : ∀ side, c.phase? side = none ∨ c.phase? side = some .done := by
    intro side
    rcases pump with pump | pump <;> rcases reader with reader | reader <;>
      cases side <;> simp [phase?, pump, reader]
  intro action due
  cases action with
  | attach | attachFails | wake | detach | closeConn => simp [step, main]
  | begin write | refuse write => simp [step, unwritten]
  | finish | fail => simp [step, lock]
  | read result => rcases pump with pump | pump <;> simp [step, pump]
  | receive result => rcases reader with reader | reader <;> simp [step, reader]
  | enter side | shutdown side => rcases settled side with phase | phase <;>
      simp [step, phase]
  | closeElsewhere => exact due.elim

/-! ## A whole run -/

/-- Neither end opens again. -/
theorem Cut.moves
    {c next : Connection}
    (cut : c.Cut)
    (sound : c.Sound)
    (moves : c.Moves next) :
    next.Cut := by
  have kept : ∀ method, KeepsShut method → (c.onSession method).Cut := by
    intro method keeps
    rcases cut with socket | ⟨attached, found, shut⟩
    · exact .inl socket
    · refine .inr ⟨_, congrArg (Option.map _) found, ?_⟩
      exact keeps.pty attached.session shut
  cases moves with
  | attach attached stage =>
      rcases cut with socket | ⟨other, found, _⟩
      · exact .inl socket
      · rw [(sound.opened.attaching stage).1] at found
        cases found
  | refuse write | finish write | fail write => cases write <;> exact cut
  | onSession method keeps => exact kept method keeps
  | enterFirst side | enterLater side => cases side <;> exact cut
  | shut side next =>
      cases next with
      | closeDone => exact cut
      | closeConn => exact .inl rfl
      | closePTMX =>
          have shut := kept _ KeepsShut.closePTMX
          cases side <;> exact shut
  | detach => exact kept _ KeepsShut.close
  | closeConn => exact .inl rfl
  | _ => exact cut

theorem Cut.run
    {c d : Connection}
    {actions : List ConnectionAction}
    (cut : c.Cut)
    (sound : c.Sound)
    (ran : LociTerm.run step c actions = some d) :
    d.Cut := by
  have preserved : ∀ (c : Connection) action next, c.Sound ∧ c.Cut →
      c.step action = some next → next.Sound ∧ next.Cut := by
    rintro c action next ⟨sound, cut⟩ stepped
    have moves := moves_of_step stepped
    exact ⟨sound.moves moves, cut.moves sound moves⟩
  exact (invariant_of_unconditional_run preserved ⟨sound, cut⟩ ran).2

/-- Whoever holds the lock has a step left. -/
theorem Sound.one_le_budget {c : Connection} (sound : c.Sound) :
    1 ≤ c.budget := by
  cases holds : c.lock with
  | none =>
      simp [budget, holds]
  | some write =>
      have wants := sound.held write holds
      cases write <;> simp only [Wants] at wants <;>
        simp [budget, wants, mainBudget, routineBudget] <;> omega

/-- A terminal handler takes at most thirteen steps of its own, and two more for
each message and each read that reaches it.  It has nothing left to do exactly
when both of its ends are open and it serves them, or when it has returned, both
ends are closed and its goroutines are gone.  As soon as one end has been
closed, only that is left. -/
theorem winds_down
    {actions : List ConnectionAction}
    {c : Connection}
    (ran : LociTerm.run step start actions = some c) :
    actions.countP ConnectionAction.own ≤
      13 + 2 * actions.countP ConnectionAction.arrives ∧
    (c.Resting ↔ c.Serving ∨ c.Finished) ∧
    (c.Cut → ∀ more d, LociTerm.run step c more = some d →
      (d.Resting ↔ d.Finished)) := by
  obtain ⟨sound, staged⟩ := Staged.run ran
  have rests : ∀ {c : Connection}, c.Sound → c.Staged →
      (c.Resting ↔ c.Serving ∨ c.Finished) := by
    intro c sound staged
    constructor
    · intro resting
      rcases resting.main with waiting | returned
      · exact .inl (resting.serving sound staged waiting)
      · exact .inr (resting.finished sound staged returned)
    · rintro (serving | finished)
      · exact serving.resting sound
      · exact finished.resting
  refine ⟨?_, rests sound staged, ?_⟩
  · have spent : actions.countP ConnectionAction.own + c.budget ≤
        start.budget + 2 * actions.countP ConnectionAction.arrives :=
      budget_of_run
      (fun _ _ _ sound stepped => sound.moves (moves_of_step stepped))
      (fun _ _ _ sound stepped => budget_step sound stepped) Sound.start ran
    have left := sound.one_le_budget
    have initially : start.budget = 14 := rfl
    omega
  · intro cut more d ranOn
    obtain ⟨soundThen, stagedThen⟩ :=
      Staged.run ((run_append_eq_some step).mpr ⟨c, ran, ranOn⟩)
    have cutThen := cut.run sound ranOn
    rw [rests soundThen stagedThen]
    exact or_iff_right fun serving => serving.uncut cutThen

/-- The visitor goes away, and the handler with its goroutines. -/
def wholeVisit : List ConnectionAction :=
  visit ++ [.shutdown .reader, .read none, .enter .pump]

theorem winds_down_visit :
    ((LociTerm.run step start wholeVisit).get (by decide)).Resting ∧
    wholeVisit.countP ConnectionAction.own = 13 + 2 * 2 ∧
    wholeVisit.countP ConnectionAction.arrives = 2 := by
  have settled := winds_down
    (Option.some_get (show
      (LociTerm.run step start wholeVisit).isSome = true by decide)).symm
  refine ⟨settled.2.1.mpr (.inr ⟨by decide, .inr (by decide), .inr (by decide),
    by decide, by decide, by decide⟩), by decide, by decide⟩

end Connection
end Ws
end LociTerm
