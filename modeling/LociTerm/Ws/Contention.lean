import LociTerm.Library.Run
import LociTerm.Ws.Slot

/-!
# Two devices evict each other

`Attach` closes the attach client that another device has on the session, and
that device reconnects.  Every step of a run is a step of one of the lines, or
the ticket or timer that leads to the next line; a line takes a bounded number
of steps, and a device gets its next line only after the other device has
evicted it.  So the number of evictions grows with the length of the run.
-/

namespace LociTerm
namespace Ws

open Tmux Client

/-! ## Counting steps and attaches -/

/-- Replacing one element of a list changes a sum by what it contributes. -/
theorem sum_map_set
    {α : Type}
    (f : α → Nat)
    {list : List α}
    {k : Nat}
    {old new : α}
    (found : list[k]? = some old) :
    ((list.set k new).map f).sum + f old = (list.map f).sum + f new := by
  induction list generalizing k with
  | nil => cases found
  | cons head tail inductionHypothesis =>
      cases k with
      | zero =>
          cases found
          simp only [List.set_cons_zero, List.map_cons, List.sum_cons]
          omega
      | succ k =>
          have rest := inductionHypothesis found
          simp only [List.set_cons_succ, List.map_cons, List.sum_cons]
          omega

/-- The steps of a device, the next ticket among them. -/
def Device.work (device : Device) : Nat :=
  (device.lines.map Line.work).sum + device.terminal.tickets

/-- How many lines of a device have attached. -/
def Device.attaches (device : Device) : Nat :=
  (device.lines.map fun line => line.handler.attached.toNat).sum

theorem Device.work_dial (device : Device) (terminal : Terminal) :
    Device.work ⟨terminal, device.lines ++ [⟨.dialing, .nothing⟩]⟩ +
        device.terminal.tickets =
      device.work + 2 + terminal.tickets := by
  simp only [work, List.map_append, List.map_cons, List.map_nil,
    List.sum_append, List.sum_cons, List.sum_nil, Line.work,
    HandlerStage.rank, Received.rank]
  omega

theorem Device.attaches_dial (device : Device) (terminal : Terminal) :
    Device.attaches ⟨terminal, device.lines ++ [⟨.dialing, .nothing⟩]⟩ =
      device.attaches := by
  simp [attaches, HandlerStage.attached, HandlerStage.serving,
    HandlerStage.finished]

theorem Device.work_set
    {device : Device}
    {k : Nat}
    {line : Line}
    (found : device.lines[k]? = some line)
    {terminal : Terminal}
    (tickets : terminal.tickets = device.terminal.tickets)
    (moved : Line) :
    Device.work ⟨terminal, device.lines.set k moved⟩ + line.work =
      device.work + moved.work := by
  have replaced :
      ((device.lines.set k moved).map Line.work).sum + line.work =
        (device.lines.map Line.work).sum + moved.work :=
    sum_map_set Line.work found
  simp only [work, tickets]
  omega

theorem Device.attaches_set
    {device : Device}
    {k : Nat}
    {line : Line}
    (found : device.lines[k]? = some line)
    (terminal : Terminal)
    (moved : Line) :
    Device.attaches ⟨terminal, device.lines.set k moved⟩ +
        line.handler.attached.toNat =
      device.attaches + moved.handler.attached.toNat :=
  sum_map_set (fun line => line.handler.attached.toNat) found

namespace Devices

/-- A quantity of both devices together. -/
def total (state : Devices) (quantity : Device → Nat) : Nat :=
  quantity (state.device false) + quantity (state.device true)

theorem total_withDevice
    (state : Devices)
    (device : Bool)
    (now : Device)
    (quantity : Device → Nat) :
    (state.withDevice device now).total quantity +
        quantity (state.device device) =
      state.total quantity + quantity now := by
  cases device with
  | false =>
      simp only [total, withDevice, Function.update_self, ne_eq,
        Bool.true_eq_false, not_false_eq_true, Function.update_of_ne]
      omega
  | true =>
      simp only [total, withDevice, Function.update_self, ne_eq,
        Bool.false_eq_true, not_false_eq_true, Function.update_of_ne]
      omega

/-! ## Whole states -/

variable {id : String} {state next : Devices} {device : Bool}

/-- The server's closing, the slot and the count of attaches. -/
structure Sound (id : String) (state : Devices) : Prop where
  phase : ∀ device, (state.device device).Phase
  lines : ∀ place line, state.lineAt place = some line → line.Sound
  slot : Slot id state.host state.lineAt
  attaches :
    state.evictions + (state.host.sessions.get? id).isSome.toNat =
      state.total Device.attaches

theorem lineAt_withDevice_of_ne
    {place : Bool × Nat}
    (away : place.1 ≠ device)
    (now : Device) :
    (state.withDevice device now).lineAt place = state.lineAt place := by
  simp [lineAt, withDevice, Function.update_of_ne away]

theorem lineAt_withDevice (state : Devices) (now : Device) (k : Nat) :
    (state.withDevice device now).lineAt (device, k) = now.lines[k]? := by
  simp [lineAt, withDevice]

theorem lineAt_set
    {k : Nat}
    {line : Line}
    (found : state.lineAt (device, k) = some line)
    (terminal : Terminal)
    (moved : Line) :
    (state.withDevice device
        ⟨terminal, (state.device device).lines.set k moved⟩).lineAt =
      Function.update state.lineAt (device, k) (some moved) := by
  funext ⟨other, j⟩
  by_cases here : other = device
  · subst here
    rw [lineAt_withDevice, Function.update_apply, List.getElem?_set]
    by_cases same : k = j
    · subst same
      simp [(List.getElem?_eq_some_iff.mp found).1]
    · simp [same, Ne.symm same, lineAt]
  · rw [lineAt_withDevice_of_ne here,
      Function.update_of_ne fun same => here (congrArg Prod.fst same)]

theorem lineAt_append (terminal : Terminal) (new : Line) :
    (state.withDevice device
        ⟨terminal, (state.device device).lines ++ [new]⟩).lineAt =
      Function.update state.lineAt
        (device, (state.device device).lines.length) (some new) := by
  funext ⟨other, j⟩
  by_cases here : other = device
  · subst here
    rw [lineAt_withDevice, Function.update_apply]
    by_cases last : j = (state.device other).lines.length
    · simp [last]
    · rw [if_neg fun same => last (congrArg Prod.snd same)]
      rcases Nat.lt_or_gt_of_ne last with before | after
      · exact List.getElem?_append_left before
      · have beyond := List.getElem?_eq_none (Nat.le_of_lt after)
        exact (List.getElem?_eq_none (by simp; omega)).trans beyond.symm
  · rw [lineAt_withDevice_of_ne here,
      Function.update_of_ne fun same => here (congrArg Prod.fst same)]

theorem lineAt_terminal (terminal : Terminal) :
    (state.withDevice device
        ⟨terminal, (state.device device).lines⟩).lineAt = state.lineAt := by
  funext ⟨other, j⟩
  by_cases here : other = device
  · subst here
    exact lineAt_withDevice ..
  · exact lineAt_withDevice_of_ne here _

/-- Only one line of a device is not closed. -/
theorem Sound.live_unique
    {j k : Nat}
    {first second : Line}
    (sound : state.Sound id)
    (here : state.lineAt (device, j) = some first)
    (there : state.lineAt (device, k) = some second)
    (open' : first.handler.finished = false)
    (opens : second.handler.finished = false) :
    j = k := by
  have live (i : Nat) (line : Line)
      (found : state.lineAt (device, i) = some line)
      (serving : line.handler.finished = false) :
      (state.device device).lines.length = i + 1 := by
    have unclosed : line.received ≠ .closed := by
      intro closed
      rw [sound.lines _ line found closed] at serving
      cases serving
    obtain ⟨earlier, connected, rfl⟩ :=
      (sound.phase device).connected_of_live found unclosed
    simp [connected.lines]
  exact Nat.succ.inj ((live j first here open').symm.trans
    (live k second there opens))

/-- The slot never belongs to the device that attaches, so the client that
holds it is evicted. -/
theorem Sound.evicts_eq
    {k : Nat}
    {line : Line}
    (sound : state.Sound id)
    (found : state.lineAt (device, k) = some line)
    (upgraded : line.handler = .upgraded) :
    evicts id state.host device = (state.host.sessions.get? id).isSome := by
  unfold evicts
  cases held : state.host.sessions.get? id with
  | none => rfl
  | some prior =>
      obtain ⟨⟨session, here, open', _⟩, ⟨owner, j⟩, other, rfl, served,
        serving⟩ := sound.slot.holder prior held
      have away : owner ≠ device := by
        rintro rfl
        have finished : other.handler.finished = false := by
          cases stage : other.handler <;> simp_all [HandlerStage.serving,
            HandlerStage.finished]
        obtain rfl := sound.live_unique served found finished (by rw [upgraded]; rfl)
        cases served.symm.trans found
        rw [upgraded] at serving
        cases serving
      simp [ownerOf_client, away, here, open']

/-! ## Steps and runs -/

theorem phase_withDevice
    {now : Device}
    (phase : ∀ device, (state.device device).Phase)
    (changed : now.Phase)
    (other : Bool) :
    ((state.withDevice device now).device other).Phase := by
  by_cases here : other = device
  · subst here
    simpa [withDevice] using changed
  · simpa [withDevice, Function.update_of_ne here] using phase other

theorem sound_update
    {line : Bool × Nat → Option Line}
    {place : Bool × Nat}
    {moved : Line}
    (lines : ∀ place now, line place = some now → now.Sound)
    (changed : moved.Sound)
    (there : Bool × Nat)
    (now : Line)
    (found : Function.update line place (some moved) there = some now) :
    now.Sound := by
  rw [Function.update_apply] at found
  split at found
  · cases found
    exact changed
  · exact lines there now found

/-- A ticket is a step towards the next line. -/
theorem Sound.ticketArrives
    (sound : state.Sound id)
    (stepped : step id state (device, .ticketArrives) = some next) :
    next.Sound id ∧ next.total Device.work = state.total Device.work + 1 := by
  obtain ⟨terminal, took, rfl⟩ := Option.map_eq_some_iff.mp stepped
  obtain ⟨phase, tickets⟩ := (sound.phase device).ticketArrives took
  refine ⟨⟨phase_withDevice sound.phase phase, ?_, ?_, ?_⟩, ?_⟩
  · rw [lineAt_append]
    exact sound_update sound.lines nofun
  · rw [lineAt_append]
    refine sound.slot.moves ?_
    simp [lineAt, HandlerStage.serving]
  · have before := sound.attaches
    have after := total_withDevice state device
      ⟨terminal, (state.device device).lines ++ [⟨.dialing, .nothing⟩]⟩
      Device.attaches
    rw [Device.attaches_dial] at after
    exact before.trans (Nat.add_right_cancel after).symm
  · have after := total_withDevice state device
      ⟨terminal, (state.device device).lines ++ [⟨.dialing, .nothing⟩]⟩
      Device.work
    have dialed := Device.work_dial (state.device device) terminal
    omega

/-- The timer is a step towards the next ticket. -/
theorem Sound.reconnectTimer
    (sound : state.Sound id)
    (stepped : step id state (device, .reconnectTimer) = some next) :
    next.Sound id ∧ next.total Device.work = state.total Device.work + 1 := by
  obtain ⟨terminal, took, rfl⟩ := Option.map_eq_some_iff.mp stepped
  obtain ⟨phase, tickets⟩ := (sound.phase device).reconnectTimer took
  refine ⟨⟨phase_withDevice sound.phase phase, ?_, ?_, ?_⟩, ?_⟩
  · rw [lineAt_terminal]
    exact sound.lines
  · rw [lineAt_terminal]
    exact sound.slot
  · have before := sound.attaches
    have after := total_withDevice state device
      ⟨terminal, (state.device device).lines⟩ Device.attaches
    exact before.trans (Nat.add_right_cancel after).symm
  · have after := total_withDevice state device
      ⟨terminal, (state.device device).lines⟩ Device.work
    simp only [Device.work, tickets] at after ⊢
    omega

theorem attached_of_moves
    {line moved : Line}
    {event : LineEvent}
    (moves : Line.Moves line event moved) :
    moved.handler.attached.toNat =
      line.handler.attached.toNat + (decide (event = .attach)).toNat := by
  cases moves <;> rfl

/-- An event of a line is one of its steps. -/
theorem Sound.lineStep
    {k : Nat}
    {event : LineEvent}
    (sound : state.Sound id)
    (stepped : step id state (device, .line k event) = some next) :
    next.Sound id ∧ next.total Device.work = state.total Device.work + 1 := by
  obtain ⟨line, here, stepped⟩ := Option.bind_eq_some_iff.mp stepped
  obtain ⟨moved, moves, stepped⟩ := Option.bind_eq_some_iff.mp stepped
  obtain ⟨host, served, stepped⟩ := Option.bind_eq_some_iff.mp stepped
  obtain ⟨terminal, took, rfl⟩ := Option.map_eq_some_iff.mp stepped
  have moves := Line.moves_of_step moves
  have found : state.lineAt (device, k) = some line := here
  obtain ⟨phase, tickets⟩ := (sound.phase device).line here moves took
  obtain ⟨slot, isSome⟩ := sound.slot.lineStep found moves served
  have placed := lineAt_set found terminal moved
  refine ⟨⟨phase_withDevice sound.phase phase, ?_, ?_, ?_⟩, ?_⟩
  · intro place now here
    exact sound_update sound.lines ((sound.lines _ line found).moves moves)
      place now ((congrFun placed place).symm.trans here)
  · change Slot id host (Devices.lineAt (state.withDevice device
      ⟨terminal, (state.device device).lines.set k moved⟩))
    rw [placed]
    exact slot
  · have before := sound.attaches
    have after := total_withDevice state device
      ⟨terminal, (state.device device).lines.set k moved⟩ Device.attaches
    have replaced := Device.attaches_set here terminal moved
    have counted := attached_of_moves moves
    have same : Devices.total
        (state.withDevice device
          ⟨terminal, (state.device device).lines.set k moved⟩) Device.attaches =
        state.total Device.attaches + (decide (event = .attach)).toNat := by
      omega
    refine Eq.trans ?_ same.symm
    rw [isSome, ← before]
    by_cases attaches : event = .attach
    · subst attaches
      have upgraded : line.handler = .upgraded := by cases moves; rfl
      rw [sound.evicts_eq found upgraded]
      cases (state.host.sessions.get? id).isSome <;> simp
    · simp [attaches]
  · have after := total_withDevice state device
      ⟨terminal, (state.device device).lines.set k moved⟩ Device.work
    have replaced := Device.work_set here tickets moved
    have worked := Line.work_moves moves
    have same : Devices.total
        (state.withDevice device
          ⟨terminal, (state.device device).lines.set k moved⟩) Device.work =
        state.total Device.work + 1 := by
      omega
    exact same

theorem Sound.step
    {label : Bool × DeviceEvent}
    (sound : state.Sound id)
    (stepped : step id state label = some next) :
    next.Sound id ∧ next.total Device.work = state.total Device.work + 1 := by
  obtain ⟨device, event⟩ := label
  cases event with
  | ticketArrives => exact sound.ticketArrives stepped
  | reconnectTimer => exact sound.reconnectTimer stepped
  | line k event => exact sound.lineStep stepped

theorem Sound.start
    (id : String)
    (server : Server)
    (container : Bool → Option Dimensions) :
    (start server container).Sound id where
  phase device := Device.Phase.start (container device)
  lines := by simp [lineAt, Devices.start]
  slot := Slot.start server
  attaches := by
    simp [Devices.start, total, Device.attaches, Host.newManager]

theorem work_start (server : Server) (container : Bool → Option Dimensions) :
    (start server container).total Device.work = 2 :=
  rfl

/-! ## A long run has many evictions -/

/-- A line that the server has closed has attached. -/
theorem sum_attached
    {lines : List Line}
    (finished : ∀ line ∈ lines, line.handler.finished = true) :
    (lines.map fun line => line.handler.attached.toNat).sum =
      lines.length := by
  induction lines with
  | nil => rfl
  | cons line lines inductionHypothesis =>
      have attached : line.handler.attached = true := by
        simp [HandlerStage.attached, finished line (by simp)]
      rw [List.map_cons, List.sum_cons, attached,
        inductionHypothesis fun other member => finished other (by simp [member]),
        List.length_cons, Bool.toNat_true, Nat.add_comm]

/-- Every line of a device but the current one has attached. -/
theorem length_le
    {device : Device}
    (phase : device.Phase)
    (lines : ∀ line ∈ device.lines, line.Sound) :
    device.lines.length ≤ device.attaches + 1 := by
  have attached (idle : device.Idle) :
      device.attaches = device.lines.length :=
    sum_attached fun line member => lines line member (idle.closed line member)
  cases phase with
  | waiting idle tickets timer =>
      exact Nat.le_succ_of_le (Nat.le_of_eq (attached idle).symm)
  | backingOff idle tickets timer passes =>
      exact Nat.le_succ_of_le (Nat.le_of_eq (attached idle).symm)
  | connected earlier current connected =>
      have before :
          (earlier.map fun line => line.handler.attached.toNat).sum =
            earlier.length :=
        sum_attached fun line member =>
          lines line (by simp [connected.lines, member])
            (connected.closed line member)
      rw [Device.attaches, connected.lines, List.map_append, List.sum_append,
        before, List.length_append, List.length_singleton]
      omega

theorem tickets_le {device : Device} (phase : device.Phase) :
    device.terminal.tickets ≤ 1 := by
  cases phase with
  | waiting idle tickets timer => omega
  | backingOff idle tickets timer passes => omega
  | connected earlier current connected =>
      have tickets := connected.tickets
      omega

theorem sum_work_le (lines : List Line) :
    (lines.map Line.work).sum ≤ 10 * lines.length := by
  induction lines with
  | nil => exact Nat.zero_le _
  | cons line lines inductionHypothesis =>
      have most := line.work_le
      rw [List.map_cons, List.sum_cons, List.length_cons]
      omega

theorem work_le
    {device : Device}
    (phase : device.Phase)
    (lines : ∀ line ∈ device.lines, line.Sound) :
    device.work ≤ 10 * device.attaches + 11 := by
  have each := sum_work_le device.lines
  have length := length_le phase lines
  have tickets := tickets_le phase
  unfold Device.work
  omega

theorem Sound.mem_lines
    (sound : state.Sound id)
    (device : Bool) :
    ∀ line ∈ (state.device device).lines, line.Sound := by
  intro line member
  obtain ⟨k, found⟩ := List.mem_iff_getElem?.mp member
  exact sound.lines (device, k) line found

/-- The steps are bounded by the evictions. -/
theorem Sound.work_le (sound : state.Sound id) :
    state.total Device.work ≤ 10 * (state.evictions + 3) + 2 := by
  have first := Devices.work_le (sound.phase false) (sound.mem_lines false)
  have second := Devices.work_le (sound.phase true) (sound.mem_lines true)
  have attaches := sound.attaches
  have most := Bool.toNat_le (state.host.sessions.get? id).isSome
  unfold total at attaches ⊢
  omega

/-! ## Every run goes on -/

/-- An event of a line is enabled when both of its ends and the manager are
ready for it. -/
theorem lineStep_of_moves
    (id : String)
    {k : Nat}
    {line : Line}
    (found : (state.device device).lines[k]? = some line)
    (event : LineEvent)
    (moves : (line.step event).isSome = true)
    (served : (serve id state.host (client device k) event).isSome = true)
    (took : ∀ occurs ∈ event.terminalEvent k,
      (state.device device).terminal.Enabled occurs) :
    ∃ event, (Devices.step id state (device, event)).isSome = true := by
  obtain ⟨moved, moves⟩ := Option.isSome_iff_exists.mp moves
  obtain ⟨host, served⟩ := Option.isSome_iff_exists.mp served
  refine ⟨.line k event, ?_⟩
  simp only [step, lineStep, found, moves, served, Option.bind_some,
    Option.isSome_map]
  cases occurs : event.terminalEvent k with
  | none => rfl
  | some occurring =>
      have enabled := took occurring occurs
      simp [Terminal.step, enabled]

/-- Once the handler has written its frame, the browser of a line receives what
was sent. -/
theorem enabled_of_written
    {earlier : List Line}
    {handler : HandlerStage}
    {received : Received}
    (connected : (state.device device).Connected earlier ⟨handler, received⟩)
    (written : handler = .pumping ∨ handler.finished = true)
    (waits : received ≠ .told ∨ handler.finished = true) :
    ∃ event, (Devices.step id state (device, event)).isSome = true := by
  have found : (state.device device).lines[earlier.length]? =
      some ⟨handler, received⟩ := by
    simp [connected.lines]
  have moves := lineStep_of_moves id found
  have readyState := connected.readyState
  cases received with
  | nothing =>
      refine moves .socketOpen ?_ rfl ?_
      · have upgraded : handler ≠ .dialing := by
          rintro rfl
          rcases written with written | finished
          · cases written
          · cases finished
        simp [Line.step, upgraded]
      · rintro _ ⟨⟩
        exact readyState
  | opened =>
      refine moves .socketAttached ?_ rfl ?_
      · simp [Line.step, written]
      · rintro _ ⟨⟩
        exact readyState
  | told =>
      have finished := waits.resolve_left fun untold => untold rfl
      refine moves .socketClose ?_ rfl ?_
      · simp [Line.step, finished]
      · rintro _ ⟨⟩
        simp [Terminal.Enabled, readyState, Received.readyState]
  | closed => exact absurd rfl connected.live

/-- The current line of a device can move unless it holds the slot. -/
theorem Sound.enabled_or_holds (sound : state.Sound id) (device : Bool) :
    (∃ event, (Devices.step id state (device, event)).isSome = true) ∨
      ∃ k, state.host.sessions.get? id = some (client device k) := by
  cases sound.phase device with
  | waiting idle tickets timer =>
      have enabled : (state.device device).terminal.Enabled .ticketArrives := by
        simp [Terminal.Enabled, tickets]
      exact .inl ⟨.ticketArrives, by simp [Devices.step, Terminal.step, enabled]⟩
  | backingOff idle tickets timer passes =>
      have enabled : (state.device device).terminal.Enabled .reconnectTimer :=
        timer
      exact .inl ⟨.reconnectTimer, by simp [Devices.step, Terminal.step, enabled]⟩
  | connected earlier current connected =>
      have found :
          (state.device device).lines[earlier.length]? = some current := by
        simp [connected.lines]
      have moves := lineStep_of_moves id found
      obtain ⟨handler, received⟩ := current
      cases handler with
      | dialing => exact .inl (moves .upgrade rfl rfl (by rintro _ ⟨⟩))
      | upgraded =>
          obtain ⟨host, served, _⟩ :=
            serve_attach id state.host (client device earlier.length)
          exact .inl (moves .attach rfl (Option.isSome_of_eq_some served)
            (by rintro _ ⟨⟩))
      | announcing => exact .inl (moves .writeAttached rfl rfl (by rintro _ ⟨⟩))
      | pumping =>
          by_cases untold : received = .told
          · rcases sound.slot.others (device, earlier.length) _ found rfl with
              held | ⟨session, lost, ended⟩
            · exact .inr ⟨earlier.length, held⟩
            · refine .inl (moves .pumpEnds rfl ?_ (by rintro _ ⟨⟩))
              simp [serve, lost, ended]
          · exact .inl (enabled_of_written connected (.inl rfl) (.inl untold))
      | shut =>
          exact .inl (enabled_of_written connected (.inr rfl) (.inr rfl))
      | returned =>
          exact .inl (enabled_of_written connected (.inr rfl) (.inr rfl))

theorem Sound.progress (sound : state.Sound id) :
    ∃ label next, Devices.step id state label = some next := by
  rcases sound.enabled_or_holds false with ⟨event, enabled⟩ | ⟨j, held⟩
  · exact ⟨(false, event), Option.isSome_iff_exists.mp enabled⟩
  · rcases sound.enabled_or_holds true with ⟨event, enabled⟩ | ⟨k, holds⟩
    · exact ⟨(true, event), Option.isSome_iff_exists.mp enabled⟩
    · cases client_injective (Option.some.inj (held.symm.trans holds))

/-! ## The evictions exceed every bound -/

/-- The steps of a run are bounded by its evictions. -/
theorem length_le_of_run
    {server : Server}
    {container : Bool → Option Dimensions}
    {labels : List (Bool × DeviceEvent)}
    (ran : run (step id) (start server container) labels = some state) :
    labels.length ≤ 10 * (state.evictions + 3) := by
  obtain ⟨sound, work⟩ :=
    measure_of_run (fun _ _ _ sound stepped => Sound.step sound stepped)
      (Sound.start id server container) ran
  have most := sound.work_le
  rw [work_start] at work
  omega

/-- Every run can be continued until the evictions exceed a bound. -/
theorem exists_evictions
    {server : Server}
    {container : Bool → Option Dimensions}
    {labels : List (Bool × DeviceEvent)}
    (ran : run (step id) (start server container) labels = some state)
    (bound : Nat) :
    ∃ more final, run (step id) state more = some final ∧
      bound < final.evictions := by
  have sound : state.Sound id :=
    (measure_of_run (fun _ _ _ sound stepped => Sound.step sound stepped)
      (Sound.start id server container) ran).1
  obtain ⟨more, final, length, further⟩ :=
    exists_run_of_length
      (fun _ _ _ sound stepped => (Sound.step sound stepped).1)
      (fun _ sound => Sound.progress sound) (10 * (bound + 4)) sound
  refine ⟨more, final, further, ?_⟩
  have whole : run (step id) (start server container) (labels ++ more) =
      some final :=
    (run_append_eq_some (step id)).mpr ⟨state, ran, further⟩
  have most := length_le_of_run whole
  rw [List.length_append, length] at most
  omega

/-- No bound on the evictions holds: every run that is long enough exceeds it,
and every run can be continued until it does. -/
theorem evictions_exceed
    (id : String)
    (server : Server)
    (container : Bool → Option Dimensions)
    (bound : Nat) :
    (∀ labels state,
        run (step id) (start server container) labels = some state →
          10 * (bound + 3) < labels.length → bound < state.evictions) ∧
      ∀ labels state,
        run (step id) (start server container) labels = some state →
          ∃ more final, run (step id) state more = some final ∧
            bound < final.evictions := by
  constructor
  · intro labels state ran long
    have most := length_le_of_run ran
    omega
  · intro labels state ran
    exact exists_evictions ran bound

/-- There is no constant that bounds the evictions of every run. -/
theorem not_evictions_bounded :
    ¬ ∃ bound, ∀ id server container labels state,
      run (step id) (start server container) labels = some state →
        state.evictions ≤ bound := by
  rintro ⟨bound, bounded⟩
  have begins : run (step "1") (start Server.fresh fun _ => none) [] =
      some (start Server.fresh fun _ => none) :=
    rfl
  obtain ⟨more, final, ran, exceeded⟩ := exists_evictions begins bound
  have most := bounded "1" Server.fresh (fun _ => none) more final ran
  omega

end Devices
end Ws
end LociTerm
