import LociTerm.Ws.Connection

/-!
# The stream to the client

Over every run of a connection: an `attached` frame comes first, the binary
frames carry what the PTY has said, in order and in whole frames, and when the
handler has returned, everything has been closed, once.
-/

namespace LociTerm
namespace Ws

/-- The two marks of a frame that has been sent. -/
def whole (frame : ServerFrame) : List Mark := [.begins frame, .ends frame]

/-- A frame that comes after the first. -/
def Later (frame : ServerFrame) : Prop :=
  (∃ data, frame = .binary data) ∨ frame = Write.pong.frame

/-- How often `done` has been closed, told from `once`. -/
def Once.closes : Once → Nat
  | .idle | .running .closeDone => 0
  | .running _ | .finished => 1

theorem Once.closes_le_one (once : Once) : once.closes ≤ 1 := by
  cases once with
  | running next => cases next <;> simp [Once.closes]
  | _ => simp [Once.closes]

namespace Connection

/-- What `Attach` has said of the tmux session, if it has returned one. -/
def recreated? (c : Connection) : Option Bool := c.attached.map (·.recreated)

@[simp] theorem recreated?_onSession
    (c : Connection)
    (method : Tmux.Session → Tmux.Session) :
    (c.onSession method).recreated? = c.recreated? := by
  unfold recreated? onSession
  cases c.attached <;> rfl

theorem onSession_attached_eq_none
    {c : Connection}
    {method : Tmux.Session → Tmux.Session} :
    (c.onSession method).attached = none ↔ c.attached = none := by
  unfold onSession
  cases c.attached <;> simp

/-! ## Frames are whole -/

theorem filterMap_begins (wire : List Mark) (frame : ServerFrame) :
    (wire ++ [Mark.begins frame]).filterMap Mark.sent? =
      wire.filterMap Mark.sent? := by
  simp [Mark.sent?]

theorem filterMap_ends (wire : List Mark) (frame : ServerFrame) :
    (wire ++ [Mark.ends frame]).filterMap Mark.sent? =
      wire.filterMap Mark.sent? ++ [frame] := by
  simp [Mark.sent?]

@[simp] theorem wire_sent (c : Connection) (write : Write) :
    (c.sent write).wire = c.wire := by
  cases write <;> rfl

@[simp] theorem wire_failed (c : Connection) (write : Write) :
    (c.failed write).wire = c.wire := by
  cases write <;> rfl

@[simp] theorem broken_sent (c : Connection) (write : Write) :
    (c.sent write).broken = c.broken := by
  cases write <;> rfl

@[simp] theorem broken_failed (c : Connection) (write : Write) :
    (c.failed write).broken = c.broken := by
  cases write <;> rfl

@[simp] theorem lock_failed (c : Connection) (write : Write) :
    (c.failed write).lock = c.lock := by
  cases write <;> rfl

/-- Whoever holds the lock of `wsWriter` is at a write. -/
def Held (c : Connection) : Prop :=
  ∀ write, c.lock = some write → c.Wants write

theorem Held.moves
    {c next : Connection}
    (held : c.Held)
    (moves : c.Moves next) :
    next.Held := by
  intro write holds
  cases moves with
  | begin other _ wants _ =>
      cases holds
      cases write <;> exact wants
  | refuse other free _ =>
      rw [lock_failed, free] at holds
      cases holds
  | finish | fail => cases holds
  | enterFirst side ending _ =>
      have wanted := held write (by cases side <;> exact holds)
      cases side <;> cases write <;> simp_all [Wants, phase?, setPhase]
  | enterLater side ending _ =>
      have wanted := held write (by cases side <;> exact holds)
      cases side <;> cases write <;> simp_all [Wants, phase?, setPhase]
  | shut side stage ending _ =>
      have wanted := held write (by cases side <;> cases stage <;> exact holds)
      cases side <;> cases stage <;> cases write <;>
        simp_all [Wants, phase?, shut, setPhase, onSession]
  | _ =>
      have wanted := held write holds
      cases write <;> simp_all [Wants, onSession]

/-- The wire carries whole frames, then the frame that is being written or the
one that has torn. -/
structure Framed (c : Connection) : Prop where
  clean : c.broken = false → c.wire = c.frames.flatMap whole ++
    (c.lock.map fun write => Mark.begins write.frame).toList
  torn : c.broken = true → c.lock = none ∧
    ∃ frame, c.wire = c.frames.flatMap whole ++ [.begins frame]

theorem Framed.start : start.Framed where
  clean := fun _ => rfl
  torn := fun torn => by cases torn

theorem Framed.unbroken
    {c : Connection}
    (framed : c.Framed)
    {write : Write}
    (holds : c.lock = some write) :
    c.broken = false := by
  rw [Bool.eq_false_iff]
  intro torn
  rw [(framed.torn torn).1] at holds
  cases holds

theorem Framed.moves
    {c next : Connection}
    (framed : c.Framed)
    (moves : c.Moves next) :
    next.Framed := by
  cases moves with
  | begin write free _ unbroken =>
      refine ⟨fun _ => ?_, fun torn => ?_⟩
      · have clean := framed.clean unbroken
        rw [free] at clean
        simp only [frames, filterMap_begins] at clean ⊢
        simpa using clean
      · simp [unbroken] at torn
  | refuse write free wants =>
      refine ⟨fun unbroken => ?_, fun torn => ?_⟩
      · rw [broken_failed] at unbroken
        simpa [frames] using framed.clean unbroken
      · rw [broken_failed] at torn
        simpa [frames] using framed.torn torn
  | finish write holds =>
      refine ⟨fun _ => ?_, fun torn => ?_⟩
      · have clean := framed.clean (framed.unbroken holds)
        rw [holds] at clean
        change c.wire ++ [.ends write.frame] =
          ((c.wire ++ [Mark.ends write.frame]).filterMap Mark.sent?).flatMap whole ++ []
        rw [filterMap_ends, ← frames, List.flatMap_append]
        nth_rewrite 1 [clean]
        simp [whole]
      · simp [framed.unbroken holds] at torn
  | fail write holds =>
      have clean := framed.clean (framed.unbroken holds)
      rw [holds] at clean
      refine ⟨nofun, fun _ => ⟨rfl, write.frame, ?_⟩⟩
      simpa [frames] using clean
  | enterFirst side _ _ | enterLater side _ _ =>
      cases side <;> exact ⟨framed.clean, framed.torn⟩
  | shut side stage _ _ =>
      cases side <;> cases stage <;> exact ⟨framed.clean, framed.torn⟩
  | _ => exact ⟨framed.clean, framed.torn⟩

/-! ## The first frame -/

/-- The frames of a connection begin when its goroutines do, with the one that
announces the session. -/
structure Opened (c : Connection) : Prop where
  both : c.pump = .unstarted ↔ c.reader = .unstarted
  unattached : c.attached = none → c.pump = .unstarted
  attaching : c.main = .attaching → c.attached = none ∧ c.frames = []
  refused : ∀ message, c.main = .refused message → c.attached = none
  announcing : ∀ recreated, c.main = .announcing recreated →
    c.recreated? = some recreated ∧ c.pump = .unstarted
  silent : c.attached ≠ none → c.pump = .unstarted → c.frames = []
  opened : c.pump ≠ .unstarted → ∃ recreated rest,
    c.recreated? = some recreated ∧
      c.frames = (Write.attached recreated).frame :: rest ∧
      ∀ frame ∈ rest, Later frame

theorem Opened.start : start.Opened where
  both := iff_of_true rfl rfl
  unattached := fun _ => rfl
  attaching := fun _ => ⟨rfl, rfl⟩
  refused := fun _ stage => by cases stage
  announcing := fun _ stage => by cases stage
  silent := fun _ _ => rfl
  opened := fun started => absurd rfl started

/-- A connection with the same frames, whose goroutines have not started or
have both been running. -/
theorem Opened.of_same
    {c next : Connection}
    (opened : c.Opened)
    (main : next.main = c.main)
    (attached : next.attached = none ↔ c.attached = none)
    (recreated : next.recreated? = c.recreated?)
    (frames : next.frames = c.frames)
    (pump : next.pump = .unstarted ↔ c.pump = .unstarted)
    (reader : next.reader = .unstarted ↔ c.reader = .unstarted) :
    next.Opened where
  both := by rw [pump, reader, opened.both]
  unattached := by
    rw [attached, pump]
    exact opened.unattached
  attaching := by
    rw [main, attached, frames]
    exact opened.attaching
  refused := by
    rw [main, attached]
    exact opened.refused
  announcing := by
    rw [main, recreated, pump]
    exact opened.announcing
  silent := by
    rw [ne_eq, attached, pump, frames]
    exact opened.silent
  opened := by
    rw [ne_eq, pump, recreated, frames]
    exact opened.opened

/-- The handler has gone on to a stage behind the announcement. -/
theorem Opened.of_main
    {c next : Connection}
    (opened : c.Opened)
    (attaching : next.main ≠ .attaching)
    (refused : ∀ message, next.main ≠ .refused message)
    (announcing : ∀ recreated, next.main ≠ .announcing recreated)
    (attached : next.attached = none ↔ c.attached = none)
    (recreated : next.recreated? = c.recreated?)
    (frames : next.frames = c.frames)
    (pump : next.pump = c.pump)
    (reader : next.reader = c.reader) :
    next.Opened where
  both := by
    rw [pump, reader]
    exact opened.both
  unattached := by
    rw [attached, pump]
    exact opened.unattached
  attaching := fun stage => absurd stage attaching
  refused := fun message stage => absurd stage (refused message)
  announcing := fun recreated stage => absurd stage (announcing recreated)
  silent := by
    rw [ne_eq, attached, pump, frames]
    exact opened.silent
  opened := by
    rw [ne_eq, pump, recreated, frames]
    exact opened.opened

/-- A later frame has been sent. -/
theorem Opened.extend
    {c next : Connection}
    (opened : c.Opened)
    (started : c.pump ≠ .unstarted)
    {frame : ServerFrame}
    (isLater : Later frame)
    (main : next.main = c.main)
    (attached : next.attached = c.attached)
    (frames : next.frames = c.frames ++ [frame])
    (pump : next.pump ≠ .unstarted)
    (reader : next.reader ≠ .unstarted) :
    next.Opened := by
  obtain ⟨recreated, rest, result, first, later⟩ := opened.opened started
  have present : c.attached ≠ none :=
    fun missing => started (opened.unattached missing)
  refine
    { both := iff_of_false pump reader
      unattached := ?_
      attaching := ?_
      refused := ?_
      announcing := ?_
      silent := fun _ unstarted => absurd unstarted pump
      opened := fun _ => ⟨recreated, rest ++ [frame], ?_, ?_, ?_⟩ }
  · rw [attached]
    exact fun missing => absurd missing present
  · rw [main]
    exact fun stage => absurd (opened.attaching stage).1 present
  · rw [main]
    exact fun message stage => absurd (opened.refused message stage) present
  · rw [main]
    exact fun recreated stage =>
      absurd (opened.announcing recreated stage).2 started
  · rw [recreated?, attached]
    exact result
  · rw [frames, first, List.cons_append]
  · intro other member
    rcases List.mem_append.mp member with old | new
    · exact later other old
    · rw [List.mem_singleton.mp new]
      exact isLater

/-- A write has been sent. -/
theorem Opened.finish
    {c : Connection}
    (opened : c.Opened)
    {write : Write}
    (wants : c.Wants write) :
    ({ c.sent write with
        lock := none
        wire := c.wire ++ [.ends write.frame] } : Connection).Opened := by
  cases write with
  | error message =>
      have unattached := opened.refused message wants
      have unstarted := opened.unattached unattached
      exact
        { both := opened.both
          unattached := opened.unattached
          attaching := nofun
          refused := nofun
          announcing := nofun
          silent := fun attached _ => absurd unattached attached
          opened := fun started => absurd unstarted started }
  | attached recreated =>
      obtain ⟨result, unstarted⟩ := opened.announcing recreated wants
      have attached : c.attached ≠ none := by
        intro missing
        rw [recreated?, missing] at result
        cases result
      have silent := opened.silent attached unstarted
      refine
        { both := iff_of_false nofun nofun
          unattached := fun missing => absurd missing attached
          attaching := nofun
          refused := nofun
          announcing := nofun
          silent := fun _ => nofun
          opened := fun _ => ⟨recreated, [], result, ?_, nofun⟩ }
      change (c.wire ++ [Mark.ends _]).filterMap Mark.sent? = _
      rw [filterMap_ends, ← frames, silent, List.nil_append]
  | chunk data =>
      have started : c.pump ≠ .unstarted := by
        rw [wants]
        nofun
      have running : c.reader ≠ .unstarted :=
        fun unstarted => started (opened.both.mpr unstarted)
      exact opened.extend started (Or.inl ⟨data, rfl⟩) rfl rfl
        (filterMap_ends c.wire _) nofun running
  | pong =>
      have running : c.reader ≠ .unstarted := by
        rw [wants]
        nofun
      have started : c.pump ≠ .unstarted :=
        fun unstarted => running (opened.both.mp unstarted)
      exact opened.extend started (Or.inr rfl) rfl rfl
        (filterMap_ends c.wire _) started nofun

/-- A write has failed. -/
theorem Opened.failed
    {c : Connection}
    (opened : c.Opened)
    {write : Write}
    (wants : c.Wants write) :
    (c.failed write).Opened := by
  cases write with
  | error message =>
      exact opened.of_main nofun nofun nofun Iff.rfl rfl rfl rfl rfl
  | attached recreated =>
      exact opened.of_main nofun nofun nofun Iff.rfl rfl rfl rfl rfl
  | chunk data =>
      refine opened.of_same rfl Iff.rfl rfl rfl ?_ Iff.rfl
      rw [wants]
      exact iff_of_false nofun nofun
  | pong =>
      refine opened.of_same rfl Iff.rfl rfl rfl Iff.rfl ?_
      rw [wants]
      exact iff_of_false nofun nofun

/-- A goroutine that ends has been running. -/
theorem Opened.setPhase
    {c : Connection}
    (opened : c.Opened)
    {side : Side}
    {before : Phase}
    (ending : c.phase? side = some before)
    (phase : Phase) :
    (c.setPhase phase side).Opened := by
  cases side with
  | pump =>
      refine opened.of_same rfl Iff.rfl rfl rfl (iff_of_false nofun ?_) Iff.rfl
      intro unstarted
      simp [phase?, unstarted] at ending
  | reader =>
      refine opened.of_same rfl Iff.rfl rfl rfl Iff.rfl (iff_of_false nofun ?_)
      intro unstarted
      simp [phase?, unstarted] at ending

theorem Opened.onSession
    {c : Connection}
    (opened : c.Opened)
    (method : Tmux.Session → Tmux.Session) :
    (c.onSession method).Opened :=
  opened.of_same rfl onSession_attached_eq_none
    (recreated?_onSession c method) rfl Iff.rfl Iff.rfl

theorem Opened.moves
    {c next : Connection}
    (opened : c.Opened)
    (held : c.Held)
    (moves : c.Moves next) :
    next.Opened := by
  cases moves with
  | attach attached stage _ _ =>
      obtain ⟨unattached, silent⟩ := opened.attaching stage
      have unstarted := opened.unattached unattached
      refine
        { both := opened.both
          unattached := nofun
          attaching := nofun
          refused := nofun
          announcing := fun recreated announced => ⟨?_, unstarted⟩
          silent := fun _ _ => silent
          opened := fun started => absurd unstarted started }
      cases announced
      rfl
  | attachFails message stage =>
      obtain ⟨unattached, silent⟩ := opened.attaching stage
      exact
        { both := opened.both
          unattached := opened.unattached
          attaching := nofun
          refused := fun _ _ => unattached
          announcing := nofun
          silent := opened.silent
          opened := opened.opened }
  | begin write _ _ _ =>
      refine opened.of_same rfl Iff.rfl rfl ?_ Iff.rfl Iff.rfl
      exact filterMap_begins c.wire write.frame
  | refuse write _ wants => exact opened.failed wants
  | finish write holds => exact opened.finish (held write holds)
  | fail write holds =>
      have failed := opened.failed (held write holds)
      exact failed.of_same rfl Iff.rfl rfl rfl Iff.rfl Iff.rfl
  | read data idle | readFails idle =>
      refine opened.of_same rfl Iff.rfl rfl rfl ?_ Iff.rfl
      rw [idle]
      exact iff_of_false nofun nofun
  | ping idle | receiveFails idle =>
      refine opened.of_same rfl Iff.rfl rfl rfl Iff.rfl ?_
      rw [idle]
      exact iff_of_false nofun nofun
  | onSession method _ => exact opened.onSession method
  | nothing => exact opened
  | enterFirst side ending _ =>
      exact (opened.setPhase ending .shutting).of_same rfl Iff.rfl rfl rfl
        Iff.rfl Iff.rfl
  | enterLater side ending _ => exact opened.setPhase ending .done
  | shut side stage ending _ =>
      cases stage with
      | closeDone | closeConn =>
          exact opened.of_same rfl Iff.rfl rfl rfl Iff.rfl Iff.rfl
      | closePTMX =>
          have still : (c.onSession (·.closePTMX)).phase? side =
              some .shutting := by
            cases side <;> exact ending
          have closed :=
            (opened.onSession (·.closePTMX)).setPhase still .done
          exact closed.of_same rfl Iff.rfl rfl rfl Iff.rfl Iff.rfl
  | wake stage _ | closeConn stage =>
      exact opened.of_main nofun nofun nofun Iff.rfl rfl rfl rfl rfl
  | detach stage =>
      exact (opened.onSession (·.close)).of_main nofun nofun nofun Iff.rfl rfl
        rfl rfl rfl

/-! ## The bytes of the PTY -/

/-- What the PTY has said has been sent or is in the hand of the pump, unless
the pump has ended with a write that failed. -/
def Faithful (c : Connection) : Prop :=
  ∃ lost, c.read = c.sentBytes ++ c.inHand ++ lost ∧
    (lost = [] ∨
      (∃ data, .chunk data ∈ c.failures) ∧ ∃ phase, c.pump = .ended phase)

theorem Faithful.start : start.Faithful := ⟨[], rfl, Or.inl rfl⟩

/-- Nothing is lost while the pump runs. -/
theorem Faithful.of_running
    {c : Connection}
    (faithful : c.Faithful)
    (running : ∀ phase, c.pump ≠ .ended phase) :
    c.read = c.sentBytes ++ c.inHand := by
  obtain ⟨lost, read, rfl | ⟨_, phase, ended⟩⟩ := faithful
  · simpa using read
  · exact absurd ended (running phase)

/-- The pump, the bytes and the frames are the same. -/
theorem Faithful.of_same
    {c next : Connection}
    (faithful : c.Faithful)
    (pump : next.pump = c.pump)
    (read : next.read = c.read)
    (frames : next.frames = c.frames)
    (failures : ∀ write ∈ c.failures, write ∈ next.failures) :
    next.Faithful := by
  obtain ⟨lost, before, kept⟩ := faithful
  refine ⟨lost, ?_, ?_⟩
  · rw [read, before, sentBytes, sentBytes, frames, inHand, inHand, pump]
  · rw [pump]
    rcases kept with none | ⟨⟨data, failed⟩, ended⟩
    · exact Or.inl none
    · exact Or.inr ⟨⟨data, failures _ failed⟩, ended⟩

/-- A goroutine goes on with its end. -/
theorem Faithful.setPhase
    {c : Connection}
    (faithful : c.Faithful)
    {side : Side}
    {before : Phase}
    (ending : c.phase? side = some before)
    (phase : Phase) :
    (c.setPhase phase side).Faithful := by
  cases side with
  | reader => exact faithful.of_same rfl rfl rfl fun _ member => member
  | pump =>
      obtain ⟨lost, read, kept⟩ := faithful
      have empty : c.inHand = [] := by
        unfold inHand
        split
        · next data running => simp [phase?, running] at ending
        · rfl
      refine ⟨lost, ?_, ?_⟩
      · rw [empty] at read
        exact read
      · rcases kept with none | ⟨failed, _⟩
        · exact Or.inl none
        · exact Or.inr ⟨failed, phase, rfl⟩

theorem sentBytes_ends (c : Connection) (write : Write) :
    ({ c.sent write with
        lock := none
        wire := c.wire ++ [.ends write.frame] } : Connection).sentBytes =
      c.sentBytes ++
        (match write with
          | .chunk data => data
          | _ => []) := by
  change List.flatMap _ ((c.wire ++ [Mark.ends _]).filterMap Mark.sent?) = _
  rw [filterMap_ends, List.flatMap_append, sentBytes, frames]
  cases write <;> simp [Write.frame]

/-- A write has been sent. -/
theorem Faithful.finish
    {c : Connection}
    (faithful : c.Faithful)
    (opened : c.Opened)
    {write : Write}
    (wants : c.Wants write) :
    ({ c.sent write with
        lock := none
        wire := c.wire ++ [.ends write.frame] } : Connection).Faithful := by
  have sent := sentBytes_ends c write
  cases write with
  | error message | pong =>
      obtain ⟨lost, read, kept⟩ := faithful
      refine ⟨lost, ?_, kept⟩
      rw [sent, List.append_nil]
      exact read
  | attached recreated =>
      have unstarted := (opened.announcing recreated wants).2
      have read := faithful.of_running fun phase ended => by
        rw [unstarted] at ended
        cases ended
      refine ⟨[], ?_, Or.inl rfl⟩
      rw [sent]
      simpa [inHand, unstarted, Connection.sent] using read
  | chunk data =>
      have hand : c.pump = .at (some data) := wants
      have read := faithful.of_running fun phase ended => by
        rw [hand] at ended
        cases ended
      refine ⟨[], ?_, Or.inl rfl⟩
      rw [sent]
      simpa [inHand, hand, Connection.sent] using read

/-- A write has failed. -/
theorem Faithful.failed
    {c : Connection}
    (faithful : c.Faithful)
    {write : Write}
    (wants : c.Wants write) :
    (c.failed write).Faithful := by
  cases write with
  | error message | attached recreated | pong =>
      exact faithful.of_same rfl rfl rfl
        fun _ member => List.mem_cons_of_mem _ member
  | chunk data =>
      have hand : c.pump = .at (some data) := wants
      have read := faithful.of_running fun phase ended => by
        rw [hand] at ended
        cases ended
      refine ⟨data, ?_, Or.inr ⟨⟨data, List.mem_cons_self⟩, .exiting, rfl⟩⟩
      change c.read = c.sentBytes ++ [] ++ data
      rw [List.append_nil, read, inHand, hand]

theorem Faithful.moves
    {c next : Connection}
    (faithful : c.Faithful)
    (opened : c.Opened)
    (held : c.Held)
    (moves : c.Moves next) :
    next.Faithful := by
  have same : ∀ write ∈ c.failures, write ∈ c.failures :=
    fun _ member => member
  cases moves with
  | begin write _ _ _ =>
      exact faithful.of_same rfl rfl (filterMap_begins c.wire write.frame) same
  | refuse write _ wants => exact faithful.failed wants
  | finish write holds => exact faithful.finish opened (held write holds)
  | fail write holds =>
      have failed := faithful.failed (held write holds)
      exact failed.of_same rfl rfl rfl fun _ member => member
  | read data idle =>
      have read := faithful.of_running fun phase ended => by
        rw [idle] at ended
        cases ended
      refine ⟨[], ?_, Or.inl rfl⟩
      simp only [inHand, idle, List.append_nil] at read ⊢
      rw [read]
      rfl
  | readFails idle =>
      have read := faithful.of_running fun phase ended => by
        rw [idle] at ended
        cases ended
      refine ⟨[], ?_, Or.inl rfl⟩
      simp only [inHand, idle, List.append_nil] at read ⊢
      exact read
  | enterFirst side ending _ =>
      exact (faithful.setPhase ending .shutting).of_same rfl rfl rfl
        fun _ member => member
  | enterLater side ending _ => exact faithful.setPhase ending .done
  | shut side stage ending _ =>
      cases stage with
      | closeDone | closeConn => exact faithful.of_same rfl rfl rfl same
      | closePTMX =>
          have still : (c.onSession (·.closePTMX)).phase? side =
              some .shutting := by
            cases side <;> exact ending
          have untouched : (c.onSession (·.closePTMX)).Faithful :=
            faithful.of_same rfl rfl rfl same
          exact (untouched.setPhase still .done).of_same rfl rfl rfl
            fun _ member => member
  | _ => exact faithful.of_same rfl rfl rfl same

/-! ## Everything is closed once -/

/-- What has been closed. -/
structure Closed (c : Connection) : Prop where
  closes : c.doneCloses = c.once.closes
  session : ∀ attached, c.attached = some attached →
    attached.session.closed = true → attached.session.ptmxOpen = false
  unattached : c.attached = none → c.detached = []
  before : c.main ≠ .closing → c.main ≠ .returned → c.detached = []
  detached : c.main = .closing ∨ c.main = .returned →
    ∀ attached, c.attached = some attached →
      attached.session.ptmxOpen = false ∧ c.detached = [attached.handle]
  returned : c.main = .returned → c.socketOpen = false

theorem Closed.start : start.Closed where
  closes := rfl
  session := nofun
  unattached := fun _ => rfl
  before := fun _ _ => rfl
  detached := nofun
  returned := nofun

/-- The handler has not detached, or nothing about that has changed. -/
theorem Closed.of_same
    {c next : Connection}
    (closed : c.Closed)
    (closes : next.doneCloses = next.once.closes)
    (main : next.main = c.main)
    (attached : next.attached = c.attached)
    (detached : next.detached = c.detached)
    (socket : c.socketOpen = false → next.socketOpen = false) :
    next.Closed where
  closes := closes
  session := by
    rw [attached]
    exact closed.session
  unattached := by
    rw [attached, detached]
    exact closed.unattached
  before := by
    rw [main, detached]
    exact closed.before
  detached := by
    rw [main, attached, detached]
    exact closed.detached
  returned := by
    rw [main]
    exact fun stage => socket (closed.returned stage)

/-- The handler goes on to another stage before it detaches. -/
theorem Closed.of_main
    {c next : Connection}
    (closed : c.Closed)
    (early : c.main ≠ .closing ∧ c.main ≠ .returned)
    (still : next.main ≠ .closing ∧ next.main ≠ .returned)
    (closes : next.doneCloses = next.once.closes)
    (session : ∀ attached, next.attached = some attached →
      attached.session.closed = true → attached.session.ptmxOpen = false)
    (detached : next.detached = c.detached) :
    next.Closed where
  closes := closes
  session := session
  unattached := fun _ => detached.trans (closed.before early.1 early.2)
  before := fun _ _ => detached.trans (closed.before early.1 early.2)
  detached := fun stage => by
    rcases stage with stage | stage
    · exact absurd stage still.1
    · exact absurd stage still.2
  returned := fun stage => absurd stage still.2

theorem Closed.onSession
    {c : Connection}
    (closed : c.Closed)
    {method : Tmux.Session → Tmux.Session}
    (keeps : KeepsShut method) :
    (c.onSession method).Closed where
  closes := closed.closes
  session := by
    intro attached found
    obtain ⟨before, original, rfl⟩ := Option.map_eq_some_iff.mp found
    exact keeps.closed before.session (closed.session before original)
  unattached := fun missing =>
    closed.unattached (onSession_attached_eq_none.mp missing)
  before := closed.before
  detached := by
    intro stage attached found
    obtain ⟨before, original, rfl⟩ := Option.map_eq_some_iff.mp found
    obtain ⟨shut, detached⟩ := closed.detached stage before original
    exact ⟨keeps.pty before.session shut, detached⟩
  returned := closed.returned

theorem Closed.setPhase
    {c : Connection}
    (closed : c.Closed)
    (phase : Phase)
    (side : Side) :
    (c.setPhase phase side).Closed := by
  cases side <;> exact closed.of_same closed.closes rfl rfl rfl id

/-- The refused handler has nothing to detach. -/
theorem Closed.refuse
    {c next : Connection}
    (closed : c.Closed)
    (unattached : c.attached = none)
    (main : next.main = .closing)
    (closes : next.doneCloses = next.once.closes)
    (attached : next.attached = c.attached)
    (detached : next.detached = c.detached) :
    next.Closed where
  closes := closes
  session := fun found present => by
    rw [attached, unattached] at present
    cases present
  unattached := fun _ => detached.trans (closed.unattached unattached)
  before := fun early _ => absurd main early
  detached := fun _ found present => by
    rw [attached, unattached] at present
    cases present
  returned := fun stage => by
    rw [main] at stage
    cases stage

theorem Closed.sent
    {c : Connection}
    (closed : c.Closed)
    (opened : c.Opened)
    {write : Write}
    (wants : c.Wants write) :
    (c.sent write).Closed := by
  cases write with
  | error message =>
      exact closed.refuse (opened.refused message wants) rfl closed.closes rfl
        rfl
  | attached recreated =>
      have stage : c.main = .announcing recreated := wants
      refine closed.of_main ?_ ⟨nofun, nofun⟩ closed.closes closed.session rfl
      rw [stage]
      exact ⟨nofun, nofun⟩
  | chunk data | pong =>
      exact closed.of_same closed.closes rfl rfl rfl id

theorem Closed.failed
    {c : Connection}
    (closed : c.Closed)
    (opened : c.Opened)
    {write : Write}
    (wants : c.Wants write) :
    (c.failed write).Closed := by
  cases write with
  | error message =>
      exact closed.refuse (opened.refused message wants) rfl closed.closes rfl
        rfl
  | attached recreated =>
      have stage : c.main = .announcing recreated := wants
      refine closed.of_main ?_ ⟨nofun, nofun⟩ closed.closes closed.session rfl
      rw [stage]
      exact ⟨nofun, nofun⟩
  | chunk data | pong =>
      exact closed.of_same closed.closes rfl rfl rfl id

/-- `Detach` and its session. -/
theorem Closed.detach
    {c : Connection}
    (closed : c.Closed)
    (stage : c.main = .detaching) :
    ({ c.onSession (·.close) with
        main := .closing
        detached := c.attached.toList.map (·.handle) ++ c.detached } :
      Connection).Closed := by
  have undetached : c.detached = [] :=
    closed.before (by simp [stage]) (by simp [stage])
  have shut := closed.onSession KeepsShut.close
  refine
    { closes := closed.closes
      session := shut.session
      unattached := fun missing => ?_
      before := fun early _ => absurd rfl early
      detached := fun _ attached found => ?_
      returned := nofun }
  · have unattached := onSession_attached_eq_none.mp missing
    simp [unattached, undetached]
  · obtain ⟨before, original, rfl⟩ := Option.map_eq_some_iff.mp found
    refine ⟨?_, by simp [original, undetached]⟩
    have session := shut.session _ found
    refine session ?_
    simp [Tmux.Session.closed_close]

theorem Closed.moves
    {c next : Connection}
    (closed : c.Closed)
    (opened : c.Opened)
    (held : c.Held)
    (moves : c.Moves next) :
    next.Closed := by
  cases moves with
  | attach attached stage _ unclosed =>
      refine closed.of_main ?_ ⟨nofun, nofun⟩ closed.closes ?_ rfl
      · rw [stage]
        exact ⟨nofun, nofun⟩
      · intro found same shut
        cases same
        rw [unclosed] at shut
        cases shut
  | attachFails message stage | wake stage _ =>
      refine closed.of_main ?_ ⟨nofun, nofun⟩ closed.closes closed.session rfl
      rw [stage]
      exact ⟨nofun, nofun⟩
  | refuse write _ wants => exact closed.failed opened wants
  | finish write holds =>
      have sent := closed.sent opened (held write holds)
      exact sent.of_same sent.closes rfl rfl rfl id
  | fail write holds =>
      have failed := closed.failed opened (held write holds)
      exact failed.of_same failed.closes rfl rfl rfl id
  | onSession method keeps => exact closed.onSession keeps
  | enterFirst side _ first =>
      have shutting := closed.setPhase .shutting side
      refine shutting.of_same ?_ rfl rfl rfl id
      have closes := closed.closes
      rw [first] at closes
      cases side <;> exact closes
  | enterLater side _ _ => exact closed.setPhase .done side
  | shut side stage _ running =>
      have closes := closed.closes
      rw [running] at closes
      cases stage with
      | closeDone =>
          refine closed.of_same ?_ rfl rfl rfl id
          simpa [shut, Once.closes] using closes
      | closeConn =>
          refine closed.of_same ?_ rfl rfl rfl fun _ => rfl
          simpa [shut, Once.closes] using closes
      | closePTMX =>
          have shut := (closed.onSession KeepsShut.closePTMX).setPhase .done side
          refine shut.of_same ?_ rfl rfl rfl id
          cases side <;> exact closes
  | detach stage => exact closed.detach stage
  | closeConn stage =>
      exact
        { closes := closed.closes
          session := closed.session
          unattached := closed.unattached
          before := fun _ late => absurd rfl late
          detached := fun _ => closed.detached (Or.inl stage)
          returned := fun _ => rfl }
  | _ => exact closed.of_same closed.closes rfl rfl rfl id

/-! ## A whole run -/

/-- The invariant of a connection. -/
structure Sound (c : Connection) : Prop where
  held : c.Held
  framed : c.Framed
  opened : c.Opened
  faithful : c.Faithful
  closed : c.Closed

theorem Sound.start : start.Sound where
  held := nofun
  framed := Framed.start
  opened := Opened.start
  faithful := Faithful.start
  closed := Closed.start

theorem Sound.moves
    {c next : Connection}
    (sound : c.Sound)
    (moves : c.Moves next) :
    next.Sound where
  held := sound.held.moves moves
  framed := sound.framed.moves moves
  opened := sound.opened.moves sound.held moves
  faithful := sound.faithful.moves sound.opened sound.held moves
  closed := sound.closed.moves sound.opened sound.held moves

theorem Sound.run
    {actions : List ConnectionAction}
    {c : Connection}
    (ran : run step Connection.start actions = some c) :
    c.Sound := by
  have preserved : ∀ (c : Connection) action next, c.Sound →
      c.step action = some next → next.Sound :=
    fun _ _ _ sound stepped => sound.moves (moves_of_step stepped)
  exact invariant_of_unconditional_run preserved Sound.start ran

theorem Faithful.in_order {c : Connection} (faithful : c.Faithful) :
    c.sentBytes <+: c.read := by
  obtain ⟨lost, read, _⟩ := faithful
  exact ⟨c.inHand ++ lost, by rw [read, List.append_assoc]⟩

theorem Faithful.complete
    {c : Connection}
    (faithful : c.Faithful)
    (unfailed : ∀ data, .chunk data ∉ c.failures) :
    c.sentBytes ++ c.inHand = c.read := by
  obtain ⟨lost, read, rfl | ⟨⟨data, failed⟩, _⟩⟩ := faithful
  · rw [read, List.append_nil]
  · exact absurd failed (unfailed data)

/-- The frames of an attached connection. -/
theorem Opened.announced
    {c : Connection}
    (opened : c.Opened)
    {attached : Attached}
    (found : c.attached = some attached) :
    c.frames = [] ∨
      ∃ rest, c.frames = (Write.attached attached.recreated).frame :: rest ∧
        ∀ frame ∈ rest, Later frame := by
  by_cases started : c.pump = .unstarted
  · exact Or.inl (opened.silent (by simp [found]) started)
  · obtain ⟨recreated, rest, result, first, later⟩ := opened.opened started
    rw [recreated?, found] at result
    cases result
    exact Or.inr ⟨rest, first, later⟩

/-- On the wire there are whole frames, and at most one that is unfinished, at
its end. -/
theorem Framed.whole_frames {c : Connection} (framed : c.Framed) :
    ∃ unfinished : Option ServerFrame,
      c.wire = c.frames.flatMap whole ++ (unfinished.map Mark.begins).toList := by
  cases broken : c.broken with
  | false =>
      refine ⟨c.lock.map Write.frame, ?_⟩
      rw [framed.clean broken, Option.map_map]
      rfl
  | true =>
      obtain ⟨_, frame, wire⟩ := framed.torn broken
      exact ⟨some frame, wire⟩

/-- The stream of a connection is intact, and its end is orderly. -/
theorem stream_intact
    {actions : List ConnectionAction}
    {c : Connection}
    (ran : LociTerm.run step start actions = some c) :
    (∀ attached, c.attached = some attached →
      c.frames = [] ∨
        ∃ rest, c.frames = (Write.attached attached.recreated).frame :: rest ∧
          ∀ frame ∈ rest, Later frame) ∧
    c.sentBytes <+: c.read ∧
    ((∀ data, .chunk data ∉ c.failures) →
      c.sentBytes ++ c.inHand = c.read) ∧
    (∃ unfinished : Option ServerFrame,
      c.wire =
        c.frames.flatMap whole ++ (unfinished.map Mark.begins).toList) ∧
    c.doneCloses ≤ 1 ∧
    (c.main = .returned → ∀ attached, c.attached = some attached →
      c.socketOpen = false ∧ attached.session.ptmxOpen = false ∧
        c.detached = [attached.handle]) := by
  have sound := Sound.run ran
  refine ⟨fun attached => sound.opened.announced, sound.faithful.in_order,
    sound.faithful.complete, sound.framed.whole_frames, ?_, ?_⟩
  · rw [sound.closed.closes]
    exact Once.closes_le_one c.once
  · intro stage attached found
    obtain ⟨shut, detached⟩ :=
      sound.closed.detached (Or.inr stage) attached found
    exact ⟨sound.closed.returned stage, shut, detached⟩

/-- A prompt reaches the client, which pings and goes away. -/
def visit : List ConnectionAction :=
  [.attach ⟨7, ⟨"lociterm-a", ⟨120, 40⟩, true, false, 0, 0, some 0⟩, true⟩,
    .begin (.attached true), .finish,
    .read (some [36, 32]), .receive (some (.text (ascii "\x7b\"type\":\"ping\"\x7d"))),
    .begin (.chunk [36, 32]), .finish, .begin .pong, .finish,
    .receive none, .enter .reader, .shutdown .reader, .wake, .detach,
    .shutdown .reader, .closeConn]

theorem stream_intact_visit :
    ((LociTerm.run step start visit).get (by decide)).sentBytes = [36, 32] ∧
    ((LociTerm.run step start visit).get (by decide)).main = .returned ∧
    ((LociTerm.run step start visit).get (by decide)).doneCloses ≤ 1 :=
  ⟨by decide, by decide,
    (stream_intact (Option.some_get (by decide)).symm).2.2.2.2.1⟩

end Connection
end Ws
end LociTerm
