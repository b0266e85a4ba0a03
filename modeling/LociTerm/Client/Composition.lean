import Mathlib.Algebra.Order.Ring.Rat
import LociTerm.Library.Run
import LociTerm.Library.Unicode

/-!
# Input from an input method

An input method composes a text in the hidden text area of xterm, and xterm
reports what it sees of that to `onData` as well.  The listeners of an instance
send the final text of a composition, and take for an echo what is reported
during it or less than 50 ms after its end.
-/

namespace LociTerm
namespace Client

/-- What a chunk comes from. -/
inductive Origin
  /-- It is an intermediate state of a composition, or its echo. -/
  | composition
  /-- It has been typed apart from any composition. -/
  | fresh
  deriving DecidableEq

/-- What the listeners hear.  Texts are in UTF-16. -/
inductive ImeEvent
  | compositionstart
  | compositionend (data : List UInt16)
  | onData (data : List UInt16) (origin : Origin)
  deriving DecidableEq

/-- `new TextEncoder().encode(data)` -/
def encode (data : List UInt16) : Bytes :=
  Unicode.utf8 (Unicode.fromUtf16 data)

/-- The bytes that the user has meant to send with an event. -/
def ImeEvent.meant : ImeEvent → Bytes
  | compositionend data | onData data .fresh => encode data
  | compositionstart | onData _ .composition => []

/-- The fields of an instance that the listeners use, its open socket, and what
they have heard. -/
structure ImeInput where
  composing : Bool
  compositionSuppressUntil : ℚ
  /-- What has been sent on the socket. -/
  sent : Bytes
  /-- `performance.now()`, in milliseconds. -/
  now : ℚ
  /-- When the last composition has ended. -/
  ended : Option ℚ
  /-- What the user has meant to send. -/
  meant : Bytes
  deriving DecidableEq

namespace ImeInput

/-- The fields as `createInstance` sets them. -/
def start : ImeInput := ⟨false, 0, [], 0, none, []⟩

/-- `sendString`, on an open socket. -/
def sendString (input : ImeInput) (data : List UInt16) : ImeInput :=
  { input with sent := input.sent ++ encode data }

/-- The listener for `compositionend`. -/
def compositionend (input : ImeInput) (data : List UInt16) : ImeInput :=
  let input := { input with composing := false }
  let input := if data = [] then input else input.sendString data
  { input with compositionSuppressUntil := input.now + 50 }

/-- The listener of `terminal.onData`. -/
def onData (input : ImeInput) (data : List UInt16) : ImeInput :=
  if input.composing then input
  else if input.now < input.compositionSuppressUntil then input
  else input.sendString data

/-- Call the listener. -/
def handle (input : ImeInput) : ImeEvent → ImeInput
  | .compositionstart => { input with composing := true }
  | .compositionend data =>
      { input.compositionend data with ended := some input.now }
  | .onData data _ => input.onData data

/-- The step relation.  The clock does not go back. -/
def step (input : ImeInput) (event : ℚ × ImeEvent) : Option ImeInput :=
  if input.now ≤ event.1 then
    some (handle
      { input with now := event.1, meant := input.meant ++ event.2.meant }
      event.2)
  else none

/-- A composition is under way, or one has ended less than 50 ms before. -/
def Near (input : ImeInput) (time : ℚ) : Prop :=
  input.composing = true ∨ ∃ ended ∈ input.ended, time < ended + 50

instance (input : ImeInput) (time : ℚ) : Decidable (input.Near time) :=
  inferInstanceAs (Decidable (_ ∨ ∃ ended ∈ input.ended, _))

/-- A chunk of a composition is reported near it and a fresh one is not, unless
the chunk is empty. -/
def Apart (input : ImeInput) : ℚ × ImeEvent → Prop
  | (time, .onData data .fresh) => input.Near time → data = []
  | (time, .onData data .composition) => ¬ input.Near time → data = []
  | (_, .compositionstart) | (_, .compositionend _) => True

instance (input : ImeInput) : DecidablePred input.Apart
  | (time, .onData _ .fresh) =>
      inferInstanceAs (Decidable (input.Near time → _))
  | (time, .onData _ .composition) =>
      inferInstanceAs (Decidable (¬ input.Near time → _))
  | (_, .compositionstart) | (_, .compositionend _) =>
      inferInstanceAs (Decidable True)

/-! ## One listener -/

/-- A chunk without bytes is empty. -/
theorem encode_eq_nil_iff (data : List UInt16) :
    encode data = [] ↔ data = [] := by
  constructor
  · intro nothing
    have text : Unicode.fromUtf16 data = [] := by
      rw [← Unicode.fromUtf8_utf8 (Unicode.fromUtf16 data)]
      exact congrArg Unicode.fromUtf8 nothing
    cases data with
    | nil => rfl
    | cons unit rest =>
        cases rest with
        | nil => cases text
        | cons next rest =>
            simp only [Unicode.fromUtf16] at text
            split at text
            · cases text
            · cases text
  · rintro rfl
    rfl

/-- What the listeners remember says when the last composition has ended. -/
structure Sound (input : ImeInput) : Prop where
  suppressUntil :
    input.compositionSuppressUntil = (input.ended.map (· + 50)).getD 0
  now : 0 ≤ input.now

variable {input next : ImeInput}

/-- The window is open near a composition. -/
theorem Sound.suppresses_iff (sound : input.Sound) :
    (input.composing = true ∨ input.now < input.compositionSuppressUntil) ↔
      input.Near input.now := by
  refine or_congr_right ?_
  rw [sound.suppressUntil]
  cases input.ended with
  | none => simpa using sound.now
  | some ended => simp

/-- A chunk is sent away from compositions only. -/
theorem Sound.sent_onData (sound : input.Sound) (data : List UInt16) :
    (input.onData data).sent =
      input.sent ++ if input.Near input.now then [] else encode data := by
  simp only [← sound.suppresses_iff]
  unfold onData
  split
  · rename_i composing
    simp [composing]
  · rename_i ready
    split
    · rename_i suppressed
      simp [suppressed]
    · rename_i late
      simp [ready, late, sendString]

theorem sent_compositionend (input : ImeInput) (data : List UInt16) :
    (input.compositionend data).sent = input.sent ++ encode data := by
  unfold compositionend
  by_cases nothing : data = []
  · subst nothing
    have bytes : encode [] = [] := (encode_eq_nil_iff []).mpr rfl
    simp [bytes]
  · simp [nothing, sendString]

/-! ## The steps -/

theorem step_eq_some_iff {event : ℚ × ImeEvent} :
    input.step event = some next ↔
      input.now ≤ event.1 ∧
        handle
          { input with now := event.1, meant := input.meant ++ event.2.meant }
          event.2 = next := by
  simp [step]

theorem Sound.start : start.Sound where
  suppressUntil := rfl
  now := le_rfl

theorem Sound.step
    {event : ℚ × ImeEvent}
    (sound : input.Sound)
    (stepped : input.step event = some next) :
    next.Sound := by
  obtain ⟨time, event⟩ := event
  obtain ⟨later, rfl⟩ := step_eq_some_iff.mp stepped
  have now : 0 ≤ time := le_trans sound.now later
  cases event with
  | compositionstart => exact ⟨sound.suppressUntil, now⟩
  | compositionend data =>
      simp only [handle, compositionend]
      split
      · exact ⟨rfl, now⟩
      · exact ⟨rfl, now⟩
  | onData data origin =>
      simp only [handle, onData]
      split
      · exact ⟨sound.suppressUntil, now⟩
      · split
        · exact ⟨sound.suppressUntil, now⟩
        · exact ⟨sound.suppressUntil, now⟩

theorem meant_step
    {event : ℚ × ImeEvent}
    (stepped : input.step event = some next) :
    next.meant = input.meant ++ event.2.meant := by
  obtain ⟨time, event⟩ := event
  obtain ⟨_, rfl⟩ := step_eq_some_iff.mp stepped
  cases event with
  | compositionstart => rfl
  | compositionend data =>
      simp only [handle, compositionend]
      split <;> rfl
  | onData data origin =>
      simp only [handle, onData]
      split
      · rfl
      · split <;> rfl

/-- What the listeners send for an event. -/
def sends (input : ImeInput) : ℚ × ImeEvent → Bytes
  | (_, .compositionstart) => []
  | (_, .compositionend data) => encode data
  | (time, .onData data _) => if input.Near time then [] else encode data

theorem Sound.sent_step
    {event : ℚ × ImeEvent}
    (sound : input.Sound)
    (stepped : input.step event = some next) :
    next.sent = input.sent ++ input.sends event := by
  obtain ⟨time, event⟩ := event
  obtain ⟨later, rfl⟩ := step_eq_some_iff.mp stepped
  have soundNow : Sound
      { input with now := time, meant := input.meant ++ event.meant } :=
    ⟨sound.suppressUntil, le_trans sound.now later⟩
  cases event with
  | compositionstart => exact (List.append_nil _).symm
  | compositionend data => exact sent_compositionend _ data
  | onData data origin => exact soundNow.sent_onData data

/-- What is meant is sent exactly for an event that is apart. -/
theorem sends_eq_meant_iff (input : ImeInput) (event : ℚ × ImeEvent) :
    input.sends event = event.2.meant ↔ input.Apart event := by
  obtain ⟨time, event⟩ := event
  cases event with
  | compositionstart => simp [sends, ImeEvent.meant, Apart]
  | compositionend data => simp [sends, ImeEvent.meant, Apart]
  | onData data origin =>
      by_cases near : input.Near time
      · cases origin with
        | fresh =>
            simp only [sends, ImeEvent.meant, Apart, near, if_true, true_imp_iff]
            exact eq_comm.trans (encode_eq_nil_iff data)
        | composition => simp [sends, ImeEvent.meant, Apart, near]
      · cases origin with
        | fresh => simp [sends, ImeEvent.meant, Apart, near]
        | composition =>
            simp [sends, ImeEvent.meant, Apart, near, encode_eq_nil_iff]

/-- What was meant, and nothing else, has been sent. -/
def Exact (input : ImeInput) : Prop := input.sent = input.meant

/-- A step keeps the stream exact exactly for an event that is apart. -/
theorem exact_step_iff
    {event : ℚ × ImeEvent}
    (sound : input.Sound)
    (exactly : input.Exact)
    (stepped : input.step event = some next) :
    next.Exact ↔ input.Apart event := by
  rw [Exact, sound.sent_step stepped, meant_step stepped, exactly,
    List.append_cancel_left_eq]
  exact sends_eq_meant_iff input event

/-- What the user has meant to send by all events. -/
def allMeant (events : List (ℚ × ImeEvent)) : Bytes :=
  events.flatMap fun event => event.2.meant

theorem meant_of_run
    {events : List (ℚ × ImeEvent)}
    {final : ImeInput}
    (ran : run ImeInput.step input events = some final) :
    final.meant = input.meant ++ allMeant events := by
  induction events generalizing input with
  | nil =>
      cases ran
      simp [allMeant]
  | cons event events inductionHypothesis =>
      obtain ⟨next, stepped, rest⟩ := (run_cons_eq_some ImeInput.step).mp ran
      rw [inductionHypothesis rest, meant_step stepped]
      simp [allMeant]

/-- At every moment of the run exactly what was meant has been sent. -/
def SendsMeant (events : List (ℚ × ImeEvent)) : Prop :=
  ∀ earlier input, earlier <+: events →
    run ImeInput.step start earlier = some input →
      input.sent = allMeant earlier

/-- What is meant is sent, and nothing else, if and only if every chunk is near
a composition or apart from them, according to what it comes from. -/
theorem sendsMeant_iff
    {events : List (ℚ × ImeEvent)}
    {final : ImeInput}
    (ran : run ImeInput.step start events = some final) :
    SendsMeant events ↔ Follows ImeInput.step Apart start events := by
  have begins : start.Exact := rfl
  have exactly :
      (∀ earlier input, earlier <+: events →
          run ImeInput.step start earlier = some input → input.Exact) ↔
        Follows ImeInput.step Apart start events :=
    Follows.iff_forall_states
      (fun _ _ _ sound stepped => Sound.step sound stepped)
      (fun _ _ _ sound good stepped => exact_step_iff sound good stepped)
      Sound.start begins ran
  rw [← exactly, SendsMeant]
  refine forall_congr' fun earlier => forall_congr' fun input => ?_
  refine forall_congr' fun _ => forall_congr' fun reached => ?_
  have meant : input.meant = allMeant earlier := meant_of_run reached
  rw [Exact, meant]

/-- A composition with its intermediate state and its echo, and then a letter. -/
def slowTyping : List (ℚ × ImeEvent) :=
  [(0, .compositionstart), (100, .onData [0x314E] .composition),
    (200, .compositionend [0xD55C]), (201, .onData [0xD55C] .composition),
    (300, .onData [97] .fresh)]

theorem sendsMeant_slowTyping : SendsMeant slowTyping :=
  (sendsMeant_iff
    (Option.some_get
      (show (run _ start slowTyping).isSome by decide +kernel)).symm).mpr
    (by decide +kernel)

/-- The letter comes 30 ms after the end of the composition. -/
def fastTyping : List (ℚ × ImeEvent) :=
  [(0, .compositionstart), (100, .compositionend [0xD55C]),
    (130, .onData [97] .fresh)]

theorem sent_ne_allMeant_fastTyping :
    ((run ImeInput.step start fastTyping).get (by decide +kernel)).sent ≠
      allMeant fastTyping := by
  decide +kernel

end ImeInput
end Client
end LociTerm
