import LociTerm.Ws.Contention

/-!
# When one device gives up

Two devices that keep a session open take it from each other in turn.  So the
evictions are bounded by how often the reconnect timer of either of them runs
out: as soon as one device reconnects no more, the other one gets the session
after a bounded number of steps, and keeps it.
-/

namespace LociTerm
namespace Ws

open Tmux Client

namespace Devices

variable {id : String} {state next : Devices} {device : Bool}

/-! ## The devices take turns -/

/-- The device that holds the slot has attached as often as the other one, or
once more. -/
structure Alternating (id : String) (state : Devices) : Prop where
  free : state.host.sessions.get? id = none →
    ∀ device, (state.device device).attaches = 0
  held : ∀ holder, state.host.sessions.get? id = some holder →
    (state.device !(ownerOf holder)).attaches ≤
        (state.device (ownerOf holder)).attaches ∧
      (state.device (ownerOf holder)).attaches ≤
        (state.device !(ownerOf holder)).attaches + 1

theorem Alternating.start
    (id : String)
    (server : Server)
    (container : Bool → Option Dimensions) :
    (start server container).Alternating id where
  free := fun _ _ => rfl
  held := by simp [Devices.start, Host.newManager]

/-- The slot and the numbers of attaches are the same. -/
theorem Alternating.of_same
    (alternating : state.Alternating id)
    (sessions : next.host.sessions = state.host.sessions)
    (attaches : ∀ device,
      (next.device device).attaches = (state.device device).attaches) :
    next.Alternating id where
  free := by
    simp only [sessions, attaches]
    exact alternating.free
  held := by
    simp only [sessions, attaches]
    exact alternating.held

/-- The numbers of the two devices are close to each other. -/
theorem Alternating.close
    (alternating : state.Alternating id)
    (device : Bool) :
    (state.device device).attaches ≤ (state.device !device).attaches + 1 := by
  cases holds : state.host.sessions.get? id with
  | none => simp [alternating.free holds]
  | some holder =>
      obtain ⟨lower, upper⟩ := alternating.held holder holds
      cases device <;> cases owner : ownerOf holder <;>
        simp only [owner, Bool.not_false, Bool.not_true] at lower upper ⊢ <;>
        omega

theorem attaches_withDevice
    {now : Device}
    (same : now.attaches = (state.device device).attaches)
    (other : Bool) :
    ((state.withDevice device now).device other).attaches =
      (state.device other).attaches := by
  by_cases here : other = device
  · subst here
    simpa [withDevice] using same
  · simp [withDevice, Function.update_of_ne here]

/-- No other event of a line than `attach` changes the manager's map. -/
theorem sessions_of_moves
    {host : Host}
    {place : Bool × Nat}
    {line moved : Line}
    {event : LineEvent}
    (slot : Slot id state.host state.lineAt)
    (found : state.lineAt place = some line)
    (moves : Line.Moves line event moved)
    (served : serve id state.host (client place.1 place.2) event = some host)
    (other : event ≠ .attach) :
    host.sessions = state.host.sessions := by
  cases moves with
  | attach received => exact absurd rfl other
  | pumpEnds received =>
      have ended : host.sessions = state.host.sessions ∧
          Slot id host
            (Function.update state.lineAt place (some ⟨.shut, received⟩)) :=
        slot.pumpEnds served rfl
      exact ended.1
  | detach received =>
      have detached : host.sessions = state.host.sessions ∧
          Slot id host
            (Function.update state.lineAt place (some ⟨.returned, received⟩)) :=
        slot.detach found rfl served rfl
      exact detached.1
  | _ =>
      cases served
      rfl

/-- The device that attaches has not held the slot. -/
theorem Alternating.attach
    (alternating : state.Alternating id)
    (taken : ∀ prior, state.host.sessions.get? id = some prior →
      ownerOf prior ≠ device)
    {k : Nat}
    (sessions : next.host.sessions =
      state.host.sessions.set id (client device k))
    (here : (next.device device).attaches =
      (state.device device).attaches + 1)
    (there : (next.device !device).attaches =
      (state.device !device).attaches) :
    next.Alternating id where
  free := fun none => by
    rw [sessions, Table.get?_set_self] at none
    cases none
  held := by
    intro holder holds
    rw [sessions, Table.get?_set_self] at holds
    cases holds
    rw [ownerOf_client, here, there]
    cases prior : state.host.sessions.get? id with
    | none => simp [alternating.free prior]
    | some before =>
        obtain ⟨lower, upper⟩ := alternating.held before prior
        have other : ownerOf before = !device :=
          Bool.eq_not.mpr (taken before prior)
        rw [other, Bool.not_not] at lower upper
        omega

theorem Alternating.step
    (alternating : state.Alternating id)
    (sound : state.Sound id)
    {label : Bool × DeviceEvent}
    (stepped : Devices.step id state label = some next) :
    next.Alternating id := by
  obtain ⟨device, event⟩ := label
  cases event with
  | ticketArrives =>
      obtain ⟨terminal, _, rfl⟩ := Option.map_eq_some_iff.mp stepped
      refine alternating.of_same rfl (attaches_withDevice ?_)
      exact (state.device device).attaches_dial terminal
  | reconnectTimer =>
      obtain ⟨terminal, _, rfl⟩ := Option.map_eq_some_iff.mp stepped
      exact alternating.of_same rfl (attaches_withDevice rfl)
  | line k event =>
      obtain ⟨line, here, stepped⟩ := Option.bind_eq_some_iff.mp stepped
      obtain ⟨moved, moves, stepped⟩ := Option.bind_eq_some_iff.mp stepped
      obtain ⟨host, served, stepped⟩ := Option.bind_eq_some_iff.mp stepped
      obtain ⟨terminal, _, rfl⟩ := Option.map_eq_some_iff.mp stepped
      have moves := Line.moves_of_step moves
      have found : state.lineAt (device, k) = some line := here
      have replaced := Device.attaches_set here terminal moved
      have counted := attached_of_moves moves
      by_cases attaches : event = .attach
      · subst attaches
        have upgraded : line.handler = .upgraded := by cases moves; rfl
        have taken := sound.evicts_eq found upgraded
        obtain ⟨result, serves, sessions, _⟩ :=
          serve_attach id state.host (client device k)
        cases serves.symm.trans served
        have other : ∀ prior, state.host.sessions.get? id = some prior →
            ownerOf prior ≠ device := by
          intro prior holds own
          rw [evicts, holds, Option.any_some, own] at taken
          simp at taken
        have away : (!device) ≠ device := by cases device <;> decide
        refine alternating.attach other sessions ?_ ?_
        · simp only [withDevice, Function.update_self]
          simp only [decide_true, Bool.toNat_true] at counted
          omega
        · exact congrArg Device.attaches (Function.update_of_ne away _ _)
      · refine alternating.of_same
          (sessions_of_moves sound.slot found moves served attaches)
          (attaches_withDevice ?_)
        simp only [attaches, decide_false, Bool.toNat_false] at counted
        omega

/-! ## Reconnecting -/

/-- A device gets its lines from tickets, and its tickets, after the first, from
its reconnect timer. -/
def dialed (state : Devices) (device : Bool) : Nat :=
  (state.device device).lines.length + (state.device device).terminal.tickets

theorem dialed_withDevice_of_ne
    {other : Bool}
    (away : other ≠ device)
    (now : Device) :
    (state.withDevice device now).dialed other = state.dialed other := by
  simp [dialed, withDevice, Function.update_of_ne away]

theorem dialed_step
    (sound : state.Sound id)
    (other : Bool)
    {label : Bool × DeviceEvent}
    (stepped : Devices.step id state label = some next) :
    next.dialed other ≤
      state.dialed other + (label == (other, .reconnectTimer)).toNat := by
  obtain ⟨device, event⟩ := label
  by_cases here : other = device
  · subst here
    cases event with
    | ticketArrives =>
        obtain ⟨terminal, took, rfl⟩ := Option.map_eq_some_iff.mp stepped
        obtain ⟨_, tickets⟩ := (sound.phase other).ticketArrives took
        simp only [dialed, withDevice, Function.update_self,
          List.length_append, List.length_singleton]
        omega
    | reconnectTimer =>
        obtain ⟨terminal, took, rfl⟩ := Option.map_eq_some_iff.mp stepped
        obtain ⟨_, tickets⟩ := (sound.phase other).reconnectTimer took
        simp only [dialed, withDevice, Function.update_self, tickets,
          beq_self_eq_true, Bool.toNat_true]
        omega
    | line k event =>
        obtain ⟨line, found, stepped⟩ := Option.bind_eq_some_iff.mp stepped
        obtain ⟨moved, moves, stepped⟩ := Option.bind_eq_some_iff.mp stepped
        obtain ⟨host, served, stepped⟩ := Option.bind_eq_some_iff.mp stepped
        obtain ⟨terminal, took, rfl⟩ := Option.map_eq_some_iff.mp stepped
        obtain ⟨_, tickets⟩ := (sound.phase other).line found
          (Line.moves_of_step moves) took
        simp only [dialed, withDevice, Function.update_self, tickets,
          List.length_set]
        omega
  · refine Nat.le_add_right_of_le (Nat.le_of_eq ?_)
    cases event with
    | ticketArrives | reconnectTimer =>
        obtain ⟨terminal, _, rfl⟩ := Option.map_eq_some_iff.mp stepped
        exact dialed_withDevice_of_ne here _
    | line k event =>
        obtain ⟨line, _, stepped⟩ := Option.bind_eq_some_iff.mp stepped
        obtain ⟨moved, _, stepped⟩ := Option.bind_eq_some_iff.mp stepped
        obtain ⟨host, _, stepped⟩ := Option.bind_eq_some_iff.mp stepped
        obtain ⟨terminal, _, rfl⟩ := Option.map_eq_some_iff.mp stepped
        exact dialed_withDevice_of_ne here _

/-- A line attaches at most once. -/
theorem attaches_le_dialed (state : Devices) (device : Bool) :
    (state.device device).attaches ≤ state.dialed device := by
  have each : ∀ lines : List Line,
      (lines.map fun line => line.handler.attached.toNat).sum ≤
        lines.length := by
    intro lines
    induction lines with
    | nil => exact Nat.le_refl _
    | cons line lines inductionHypothesis =>
        have most := Bool.toNat_le line.handler.attached
        rw [List.map_cons, List.sum_cons, List.length_cons]
        omega
  exact Nat.le_add_right_of_le (each _)

/-! ## Where a device rests -/

/-- A device that can do nothing is told, and holds the slot. -/
theorem Sound.told_of_resting
    (sound : state.Sound id)
    (resting : ∀ event, Devices.step id state (device, event) = none) :
    ∃ k, state.host.sessions.get? id = some (client device k) ∧
      state.lineAt (device, k) = some ⟨.pumping, .told⟩ := by
  have stuck : ¬∃ event, (Devices.step id state (device, event)).isSome := by
    rintro ⟨event, enabled⟩
    rw [resting event] at enabled
    cases enabled
  obtain ⟨k, held⟩ := (sound.enabled_or_holds device).resolve_left stuck
  obtain ⟨_, ⟨there, j⟩, line, same, found, serving⟩ :=
    sound.slot.holder _ held
  obtain ⟨rfl, rfl⟩ := Prod.mk.inj (client_injective same)
  have unclosed : line.received ≠ .closed := by
    intro closed
    have finished := sound.lines _ line found closed
    cases stage : line.handler <;> rw [stage] at serving finished <;>
      simp [HandlerStage.serving, HandlerStage.finished] at serving finished
  obtain ⟨earlier, connected, rfl⟩ :=
    (sound.phase device).connected_of_live found unclosed
  obtain ⟨handler, received⟩ := line
  have pumping : handler = .pumping := by
    cases handler with
    | announcing =>
        have enabled := lineStep_of_moves id found .writeAttached rfl rfl
          (by rintro _ ⟨⟩)
        exact absurd enabled stuck
    | pumping => rfl
    | dialing | upgraded | shut | returned => cases serving
  subst pumping
  by_cases told : received = .told
  · exact ⟨_, held, by rw [found, told]⟩
  · exact absurd (enabled_of_written connected (.inl rfl) (.inl told)) stuck

/-! ## A whole run -/

theorem Alternating.run
    {server : Server}
    {container : Bool → Option Dimensions}
    {labels : List (Bool × DeviceEvent)}
    (ran : LociTerm.run (Devices.step id) (Devices.start server container)
      labels = some state) :
    state.Sound id ∧ state.Alternating id := by
  have preserved : ∀ (state : Devices) label next,
      state.Sound id ∧ state.Alternating id →
        Devices.step id state label = some next →
          next.Sound id ∧ next.Alternating id := by
    rintro state label next ⟨sound, alternating⟩ stepped
    exact ⟨(sound.step stepped).1, alternating.step sound stepped⟩
  exact invariant_of_unconditional_run preserved
    ⟨Sound.start id server container, Alternating.start id server container⟩ ran

/-- The lines of a device are counted by its timer. -/
theorem dialed_le
    {server : Server}
    {container : Bool → Option Dimensions}
    {labels : List (Bool × DeviceEvent)}
    (ran : run (step id) (start server container) labels = some state)
    (device : Bool) :
    state.dialed device ≤ 1 + labels.count (device, .reconnectTimer) := by
  have paid : ∀ (state : Devices) label next, state.Sound id →
      step id state label = some next →
        false.toNat + next.dialed device ≤
          state.dialed device +
            1 * (label == (device, DeviceEvent.reconnectTimer)).toNat := by
    intro state label next sound stepped
    have counted := dialed_step sound device stepped
    rw [Bool.toNat_false]
    omega
  have spent := @budget_of_run _ _ (step id) (Sound id)
    (fun state => state.dialed device) (fun _ => false)
    (· == (device, .reconnectTimer)) 1
    (fun _ _ _ sound stepped => (Sound.step sound stepped).1) paid _ _ _
    (Sound.start id server container) ran
  have initially : (start server container).dialed device = 1 := rfl
  rw [initially, Nat.one_mul] at spent
  exact Nat.le_trans (Nat.le_add_left _ _) spent

/-- However the two devices interleave, the evictions and the length of a run
are bounded by how often the reconnect timer of one of them has run out.  When
nothing is left to happen but that this timer runs out, the other device has the
session, and its browser has been told so. -/
theorem settles_without
    {server : Server}
    {container : Bool → Option Dimensions}
    {labels : List (Bool × DeviceEvent)}
    (ran : run (step id) (start server container) labels = some state)
    (device : Bool) :
    state.evictions ≤ 2 * labels.count (device, .reconnectTimer) + 2 ∧
      labels.length ≤ 20 * labels.count (device, .reconnectTimer) + 50 ∧
      ((∀ label, label ≠ (device, .reconnectTimer) →
          step id state label = none) →
        ∃ k, state.host.sessions.get? id = some (client (!device) k) ∧
          state.lineAt (!device, k) = some ⟨.pumping, .told⟩) := by
  obtain ⟨sound, alternating⟩ := Alternating.run ran
  have dialed := dialed_le ran device
  have attached := attaches_le_dialed state device
  have other := alternating.close (!device)
  rw [Bool.not_not] at other
  have total : state.total Device.attaches =
      (state.device device).attaches + (state.device !device).attaches := by
    cases device <;> simp [Devices.total, Nat.add_comm]
  have attaches := sound.attaches
  refine ⟨?_, ?_, fun resting => ?_⟩
  · cases holds : state.host.sessions.get? id with
    | none =>
        have free := alternating.free holds
        rw [total, free, free, holds] at attaches
        simp at attaches
        omega
    | some holder =>
        rw [holds, Option.isSome_some, Bool.toNat_true] at attaches
        omega
  · have worked := (measure_of_run
      (fun _ _ _ sound stepped => Sound.step sound stepped)
      (Sound.start id server container) ran).2
    have here := work_le (sound.phase device) (sound.mem_lines device)
    have there := work_le (sound.phase !device) (sound.mem_lines !device)
    have both : state.total Device.work =
        (state.device device).work + (state.device !device).work := by
      cases device <;> simp [Devices.total, Nat.add_comm]
    rw [work_start] at worked
    omega
  · refine sound.told_of_resting fun event => resting _ ?_
    intro same
    have away : (!device) = device := congrArg Prod.fst same
    cases device <;> cases away

/-- The first device attaches, and the second one takes the session from it for
good. -/
def takeover : List (Bool × DeviceEvent) :=
  [(false, .ticketArrives), (false, .line 0 .upgrade), (false, .line 0 .attach),
    (true, .ticketArrives), (true, .line 0 .upgrade), (true, .line 0 .attach),
    (true, .line 0 .writeAttached), (true, .line 0 .socketOpen),
    (true, .line 0 .socketAttached)]

theorem settles_without_takeover :
    ((run (step "a") (start Server.fresh fun _ => none) takeover).get
      (by decide)).evictions = 1 ∧
    ((run (step "a") (start Server.fresh fun _ => none) takeover).get
      (by decide)).evictions ≤ 2 * 0 + 2 :=
  ⟨by decide, (settles_without (Option.some_get (show
    (run (step "a") (start Server.fresh fun _ => none) takeover).isSome = true
    by decide)).symm false).1⟩

end Devices
end Ws
end LociTerm
