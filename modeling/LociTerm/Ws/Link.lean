import LociTerm.Ws.Frames
import LociTerm.Ws.Uplink
import LociTerm.Ws.WindDown
import Mathlib.Data.List.Infix

/-!
# Both ends of a terminal

A connection of the server with the browser at its other end.  Frames and
messages arrive in the order in which they were sent, and what is under way when
the line is lost does not arrive at all.
-/

namespace LociTerm
namespace Ws

namespace Protocol.Reaction

/-- What `sess.Write` is called with. -/
def written : Reaction → Bytes
  | .write data => data
  | .resize _ _ | .pong | .nothing => []

/-- What `Manager.Resize` is called with. -/
def managed : Reaction → List Tmux.Size
  | .resize cols rows => [⟨cols, rows⟩]
  | .write _ | .pong | .nothing => []

end Protocol.Reaction

instance (c : Connection) : Decidable c.PtyShut :=
  decidable_of_iff
    (c.attached.any (fun attached => !attached.session.ptmxOpen) = true)
    (by simp [Connection.PtyShut, Option.any_eq_true])

/-- The server reads a message. -/
def ConnectionAction.receives : ConnectionAction → Bool
  | .receive (some _) => true
  | _ => false

/-- A terminal from one end to the other. -/
structure Link where
  server : Connection
  display : Display
  /-- How many frames of the server the browser has handled. -/
  shown : Nat
  /-- What the browser has sent. -/
  sent : List Sent
  /-- How many messages the server has read. -/
  taken : Nat
  /-- What has been written to the PTY. -/
  typed : Bytes
  /-- The sizes that have been passed to `Manager.Resize`. -/
  managed : List Tmux.Size

/-- What happens at the two ends and between them. -/
inductive LinkAction
  | server (action : ConnectionAction)
  | send (sent : Sent)
  /-- The server reads the next message. -/
  | take
  /-- The browser handles the next frame. -/
  | deliver

namespace Link

/-- Behind the upgrade. -/
def start : Link := ⟨.start, .start, 0, [], 0, [], []⟩

/-- The step relation.  A write to a PTY that has been closed fails. -/
def step (link : Link) : LinkAction → Option Link
  | .server action =>
      -- The messages are those of the browser.
      if action.receives then none
      else
        (link.server.step action).map fun server =>
          { link with server := server }
  | .send sent => some { link with sent := link.sent ++ [sent] }
  | .take =>
      link.sent[link.taken]?.bind fun sent =>
        (link.server.step (.receive (some sent.message))).map fun server =>
          let reaction := Protocol.react sent.message
          { link with
            server := server
            taken := link.taken + 1
            typed :=
              if link.server.PtyShut then link.typed
              else link.typed ++ reaction.written
            managed := link.managed ++ reaction.managed }
  | .deliver =>
      link.server.frames[link.shown]?.map fun frame =>
        { link with
          display := link.display.onMessage frame
          shown := link.shown + 1 }

end Link

/-! ## What a move of the server leaves alone -/

namespace Connection

/-- Frames that have been sent stay sent. -/
theorem frames_moves {c next : Connection} (moves : c.Moves next) :
    c.frames <+: next.frames := by
  cases moves with
  | begin write =>
      refine ⟨[], ?_⟩
      rw [List.append_nil]
      exact (filterMap_begins c.wire write.frame).symm
  | finish write =>
      exact ⟨[write.frame], (filterMap_ends c.wire write.frame).symm⟩
  | refuse write | fail write => cases write <;> exact List.prefix_rfl
  | enterFirst side | enterLater side => cases side <;> exact List.prefix_rfl
  | shut side next => cases side <;> cases next <;> exact List.prefix_rfl
  | _ => exact List.prefix_rfl

/-- A PTY that has been closed stays closed. -/
theorem PtyShut.moves
    {c next : Connection}
    (shut : c.PtyShut)
    (sound : c.Sound)
    (moves : c.Moves next) :
    next.PtyShut := by
  obtain ⟨attached, found, closed⟩ := shut
  have kept : ∀ method, KeepsShut method → (c.onSession method).PtyShut :=
    fun method keeps =>
      ⟨_, congrArg (Option.map _) found, keeps.pty attached.session closed⟩
  cases moves with
  | attach other stage =>
      rw [(sound.opened.attaching stage).1] at found
      cases found
  | refuse write | finish write | fail write =>
      cases write <;> exact ⟨attached, found, closed⟩
  | onSession method keeps => exact kept method keeps
  | enterFirst side | enterLater side =>
      cases side <;> exact ⟨attached, found, closed⟩
  | shut side next =>
      cases next with
      | closeDone | closeConn => exact ⟨attached, found, closed⟩
      | closePTMX =>
          have shut := kept _ KeepsShut.closePTMX
          cases side <;> exact shut
  | detach => exact kept _ KeepsShut.close
  | _ => exact ⟨attached, found, closed⟩

/-- A client that has been refused has seen nothing but errors. -/
def Refused (c : Connection) : Prop :=
  c.attached = none → ∀ frame ∈ c.frames, ∃ message,
    frame = (Write.error message).frame

theorem Refused.moves
    {c next : Connection}
    (refused : c.Refused)
    (sound : c.Sound)
    (moves : c.Moves next) :
    next.Refused := by
  cases moves with
  | attach attached => exact nofun
  | begin write =>
      intro unattached frame member
      rw [frames, filterMap_begins] at member
      exact refused unattached frame member
  | finish write holds =>
      intro unattached frame member
      have missing : c.attached = none := by
        cases write <;> exact unattached
      have wants := sound.held write holds
      have unstarted := sound.opened.unattached missing
      rw [frames, filterMap_ends] at member
      rcases List.mem_append.mp member with old | new
      · refine refused missing frame ?_
        cases write <;> exact old
      · rw [List.mem_singleton.mp new]
        cases write with
        | error message => exact ⟨message, rfl⟩
        | attached recreated =>
            have present := (sound.opened.announcing recreated wants).1
            rw [recreated?, missing] at present
            cases present
        | chunk data =>
            rw [Wants, unstarted] at wants
            cases wants
        | pong =>
            rw [Wants, sound.opened.both.mp unstarted] at wants
            cases wants
  | refuse write | fail write => cases write <;> exact refused
  | onSession method =>
      exact fun unattached =>
        refused (onSession_attached_eq_none.mp unattached)
  | enterFirst side | enterLater side => cases side <;> exact refused
  | shut side next =>
      cases next with
      | closeDone | closeConn => exact refused
      | closePTMX =>
          cases side <;> exact fun unattached =>
            refused (onSession_attached_eq_none.mp unattached)
  | detach =>
      exact fun unattached =>
        refused (onSession_attached_eq_none.mp unattached)
  | _ => exact refused

end Connection
namespace Protocol.Reaction

/-- What the loop makes of a message is what was meant by it. -/
theorem of_message {sent : Sent} (valid : sent.Valid) :
    (react sent.message).written = sent.input ∧
      (react sent.message).managed = sent.sizes := by
  cases sent with
  | string text =>
      rw [Sent.message_string]
      exact ⟨rfl, rfl⟩
  | binary bytes =>
      rw [Sent.message_binary]
      exact ⟨rfl, rfl⟩
  | resize size =>
      have resized := Client.react_sendResize valid.1 valid.2
      rw [Sent.message, resized]
      simp [written, managed, Sent.input, Sent.sizes]
  | extra data =>
      rcases (extra_iff data).mp valid with nothing | pong
      · rw [Sent.message, nothing]
        exact ⟨rfl, rfl⟩
      · rw [Sent.message, pong]
        exact ⟨rfl, rfl⟩

end Protocol.Reaction

namespace Link

/-- The browser has handled the frames that have arrived, and the server the
messages; those that came behind the end of the PTY were lost. -/
structure Intact (link : Link) : Prop where
  sound : link.server.Sound
  refused : link.server.Refused
  valid : ∀ sent ∈ link.sent, sent.Valid
  shown : link.shown ≤ link.server.frames.length
  display : link.display =
    (link.server.frames.take link.shown).foldl Display.onMessage .start
  taken : link.taken ≤ link.sent.length
  typed : ∃ count ≤ link.taken,
    link.typed = (link.sent.take count).flatMap Sent.input ∧
      (¬link.server.PtyShut → count = link.taken)
  managed : link.managed = (link.sent.take link.taken).flatMap Sent.sizes

theorem Intact.start : start.Intact where
  sound := Connection.Sound.start
  refused := nofun
  valid := nofun
  shown := Nat.le_refl _
  display := rfl
  taken := Nat.le_refl _
  typed := ⟨0, Nat.le_refl _, rfl, fun _ => rfl⟩
  managed := rfl

/-- The server does something by itself. -/
theorem Intact.server
    {link : Link}
    (intact : link.Intact)
    {server : Connection}
    (moves : link.server.Moves server) :
    ({ link with server := server } : Link).Intact where
  sound := intact.sound.moves moves
  refused := intact.refused.moves intact.sound moves
  valid := intact.valid
  shown := intact.shown.trans (Connection.frames_moves moves).length_le
  display := by
    obtain ⟨more, frames⟩ := Connection.frames_moves moves
    rw [intact.display]
    change List.foldl _ _ _ = List.foldl _ _ (server.frames.take link.shown)
    rw [← frames, List.take_append_of_le_length intact.shown]
  taken := intact.taken
  typed := by
    obtain ⟨count, within, typed, all⟩ := intact.typed
    exact ⟨count, within, typed,
      fun unshut => all fun shut => unshut (shut.moves intact.sound moves)⟩
  managed := intact.managed

theorem Intact.send
    {link : Link}
    (intact : link.Intact)
    {sent : Sent}
    (valid : sent.Valid) :
    ({ link with sent := link.sent ++ [sent] } : Link).Intact where
  sound := intact.sound
  refused := intact.refused
  valid := by
    intro other member
    rcases List.mem_append.mp member with old | new
    · exact intact.valid other old
    · rw [List.mem_singleton.mp new]
      exact valid
  shown := intact.shown
  display := intact.display
  taken := by
    rw [List.length_append]
    exact Nat.le_add_right_of_le intact.taken
  typed := by
    obtain ⟨count, within, typed, all⟩ := intact.typed
    refine ⟨count, within, ?_, all⟩
    rw [List.take_append_of_le_length (within.trans intact.taken)]
    exact typed
  managed := by
    rw [List.take_append_of_le_length intact.taken]
    exact intact.managed

/-- The browser handles a frame. -/
theorem Intact.deliver
    {link : Link}
    (intact : link.Intact)
    {frame : ServerFrame}
    (next : link.server.frames[link.shown]? = some frame) :
    ({ link with
        display := link.display.onMessage frame
        shown := link.shown + 1 } : Link).Intact where
  sound := intact.sound
  refused := intact.refused
  valid := intact.valid
  shown := (List.getElem?_eq_some_iff.mp next).1
  display := by
    rw [List.take_add_one, next, Option.toList_some, List.foldl_append,
      ← intact.display]
    rfl
  taken := intact.taken
  typed := intact.typed
  managed := intact.managed

/-- The server reads a message. -/
theorem Intact.take
    {link : Link}
    (intact : link.Intact)
    {sent : Sent}
    (next : link.sent[link.taken]? = some sent)
    {server : Connection}
    (stepped : link.server.step (.receive (some sent.message)) = some server) :
    ({ link with
        server := server
        taken := link.taken + 1
        typed :=
          if link.server.PtyShut then link.typed
          else link.typed ++ (Protocol.react sent.message).written
        managed := link.managed ++
          (Protocol.react sent.message).managed } : Link).Intact := by
  have moves := Connection.moves_of_step stepped
  have moved := intact.server moves
  have further : ∀ {α : Type} (part : Sent → List α),
      (link.sent.take (link.taken + 1)).flatMap part =
        (link.sent.take link.taken).flatMap part ++ part sent := by
    intro α part
    rw [List.take_add_one, next]
    simp
  obtain ⟨written, managed⟩ := Protocol.Reaction.of_message
    (intact.valid sent (List.mem_of_getElem? next))
  refine
    { sound := moved.sound
      refused := moved.refused
      valid := intact.valid
      shown := moved.shown
      display := moved.display
      taken := (List.getElem?_eq_some_iff.mp next).1
      typed := ?_
      managed := ?_ }
  · obtain ⟨count, within, typed, all⟩ := intact.typed
    by_cases shut : link.server.PtyShut
    · rw [if_pos shut]
      exact ⟨count, Nat.le_succ_of_le within, typed,
        fun unshut => absurd (shut.moves intact.sound moves) unshut⟩
    · rw [if_neg shut]
      refine ⟨link.taken + 1, Nat.le_refl _, ?_, fun _ => rfl⟩
      rw [further, written, typed, all shut]
  · rw [further, managed, intact.managed]

theorem Intact.step
    {link next : Link}
    {action : LinkAction}
    (intact : link.Intact)
    (valid : ∀ sent, action = .send sent → sent.Valid)
    (stepped : link.step action = some next) :
    next.Intact := by
  cases action with
  | server action =>
      obtain ⟨_, moved⟩ := Option.ite_none_left_eq_some.mp stepped
      obtain ⟨server, acted, rfl⟩ := Option.map_eq_some_iff.mp moved
      exact intact.server (Connection.moves_of_step acted)
  | send sent =>
      cases stepped
      exact intact.send (valid sent rfl)
  | take =>
      obtain ⟨sent, waits, taken⟩ := Option.bind_eq_some_iff.mp stepped
      obtain ⟨server, received, rfl⟩ := Option.map_eq_some_iff.mp taken
      exact intact.take waits received
  | deliver =>
      obtain ⟨frame, waits, rfl⟩ := Option.map_eq_some_iff.mp stepped
      exact intact.deliver waits

theorem Intact.run
    {actions : List LinkAction}
    {link : Link}
    (valid : ∀ sent, .send sent ∈ actions → sent.Valid)
    (ran : LociTerm.run Link.step Link.start actions = some link) :
    link.Intact := by
  have every : ∀ action ∈ actions, ∀ sent, action = .send sent → sent.Valid :=
    fun action member sent same => valid sent (same ▸ member)
  have follows : Follows Link.step (fun _ _ => True) Link.start actions :=
    Follows.of_forall (fun _ _ => trivial) Link.start actions
  have permitted := follows.and_of_forall every
  exact invariant_of_run
    (fun _ _ _ intact condition stepped => intact.step condition.1 stepped)
    Intact.start permitted ran

end Link

/-! ## What is on the screen -/

/-- The output that a frame carries. -/
def ServerFrame.output : ServerFrame → Bytes
  | .binary data => data
  | .control _ => []

theorem Connection.sentBytes_eq (c : Connection) :
    c.sentBytes = c.frames.flatMap ServerFrame.output := by
  rfl

namespace Display

theorem onMessage_error (display : Display) (message : String) :
    display.onMessage (Write.error message).frame = display := by
  rw [Write.frame, onMessage_control]
  exact if_neg (show "error" ≠ "attached" by decide)

theorem onMessage_attached (display : Display) (recreated : Bool) :
    display.onMessage (Write.attached recreated).frame =
      { display with
        attached := true
        terminal := display.terminal ++ if recreated then banner else [] } := by
  rw [Write.frame, onMessage_control, if_pos rfl]
  cases recreated <;> simp

/-- The later frames of a connection add output. -/
theorem foldl_onMessage_later
    {frames : List ServerFrame}
    (later : ∀ frame ∈ frames, Later frame)
    (display : Display) :
    (frames.foldl onMessage display).attached = display.attached ∧
      (frames.foldl onMessage display).terminal =
        display.terminal ++ frames.flatMap ServerFrame.output := by
  induction frames generalizing display with
  | nil => simp
  | cons frame frames inductionHypothesis =>
      have others := inductionHypothesis
        (fun other member => later other (List.mem_cons_of_mem _ member))
        (display.onMessage frame)
      rw [List.foldl_cons, List.flatMap_cons, others.1, others.2]
      rcases later frame List.mem_cons_self with ⟨data, rfl⟩ | rfl
      · simp [onMessage, onBuffer, ServerFrame.output]
      · rw [Write.frame, onMessage_control, if_neg (by decide)]
        exact ⟨rfl, rfl⟩

end Display

namespace Link

/-- The screen of a client that has been attached. -/
theorem Intact.screen
    {link : Link}
    (intact : link.Intact)
    {attached : Attached}
    (found : link.server.attached = some attached) :
    link.display.attached = decide (0 < link.shown) ∧
      link.display.terminal =
        (if 0 < link.shown ∧ attached.recreated = true then banner else []) ++
          (link.server.frames.take link.shown).flatMap ServerFrame.output := by
  rw [intact.display]
  have shown := intact.shown
  rcases intact.sound.opened.announced found with none | ⟨rest, frames, later⟩
  · rw [none] at shown ⊢
    have unshown : link.shown = 0 := Nat.le_zero.mp shown
    rw [unshown]
    exact ⟨rfl, rfl⟩
  · rw [frames]
    cases link.shown with
    | zero => exact ⟨rfl, rfl⟩
    | succ count =>
        rw [List.take_succ_cons, List.foldl_cons, List.flatMap_cons,
          Display.onMessage_attached]
        have afterwards := Display.foldl_onMessage_later
          (fun frame (member : frame ∈ rest.take count) =>
            later frame (List.mem_of_mem_take member))
        rw [(afterwards _).1, (afterwards _).2]
        cases attached.recreated <;>
          simp [Display.start, ServerFrame.output, Write.frame]

/-- The screen of a client that has not. -/
theorem Intact.blank
    {link : Link}
    (intact : link.Intact)
    (unattached : link.server.attached = none) :
    link.display = Display.start := by
  have errors := intact.refused unattached
  have still : ∀ frames : List ServerFrame,
      (∀ frame ∈ frames, ∃ message, frame = (Write.error message).frame) →
        frames.foldl Display.onMessage .start = .start := by
    intro frames all
    induction frames with
    | nil => rfl
    | cons frame frames inductionHypothesis =>
        obtain ⟨message, rfl⟩ := all frame List.mem_cons_self
        rw [List.foldl_cons, Display.onMessage_error]
        exact inductionHypothesis
          fun other member => all other (List.mem_cons_of_mem _ member)
  rw [intact.display]
  exact still _ fun frame member => errors frame (List.mem_of_mem_take member)

/-- A terminal is a line in both directions.  Its screen has the banner of a
fresh shell, if the shell is fresh, and then what the PTY has said, from the
beginning and without a gap: all of it, once all frames have arrived and no
write of output has failed.  A client that is refused sees nothing.  The PTY has
been given what was typed, from the beginning and without a gap, and as long as
it is open all that the server has read; and the manager all the sizes. -/
theorem duplex
    {actions : List LinkAction}
    {link : Link}
    (valid : ∀ sent, .send sent ∈ actions → sent.Valid)
    (ran : LociTerm.run step start actions = some link) :
    (∀ attached, link.server.attached = some attached →
      ∃ screen,
        link.display.terminal =
          (if 0 < link.shown ∧ attached.recreated = true then banner else []) ++
            screen ∧
        screen <+: link.server.read ∧
        (link.shown = link.server.frames.length →
          link.server.inHand = [] →
          (∀ data, .chunk data ∉ link.server.failures) →
          screen = link.server.read)) ∧
    (link.server.attached = none → link.display = Display.start) ∧
    (∃ count ≤ link.taken,
      link.typed = (link.sent.take count).flatMap Sent.input ∧
        (¬link.server.PtyShut → count = link.taken)) ∧
    link.managed = (link.sent.take link.taken).flatMap Sent.sizes := by
  have intact := Intact.run valid ran
  have faithful := intact.sound.faithful
  refine ⟨fun attached found => ?_, intact.blank, intact.typed, intact.managed⟩
  refine ⟨_, (intact.screen found).2, ?_, fun arrived handed unfailed => ?_⟩
  · have first : (link.server.frames.take link.shown).flatMap
        ServerFrame.output <+: link.server.sentBytes := by
      rw [link.server.sentBytes_eq]
      exact List.IsPrefix.flatMap (List.take_prefix _ _) _
    exact first.trans faithful.in_order
  · have complete := faithful.complete unfailed
    rw [handed, List.append_nil] at complete
    rw [arrived, List.take_length, ← link.server.sentBytes_eq, complete]

/-- A shell is created, says its prompt, is typed to and answers; the last
frame is still under way when the client goes away. -/
def evening : List LinkAction :=
  [.server (.attach
      ⟨7, ⟨"lociterm-a", ⟨120, 40⟩, true, false, 0, 0, some 0⟩, true⟩),
    .server (.begin (.attached true)), .server .finish, .deliver,
    .server (.read (some [36, 32])), .send (.string ['한']),
    .server (.begin (.chunk [36, 32])), .send (.resize ⟨80, 24⟩), .take,
    .server .finish, .deliver, .take, .server (.read (some [79])),
    .server (.begin (.chunk [79])), .server .finish, .send (.binary [200]),
    .server (.receive none)]

theorem duplex_evening :
    ((LociTerm.run step start evening).get (by decide)).display.terminal =
      banner ++ [36, 32] ∧
    ((LociTerm.run step start evening).get (by decide)).typed =
      [237, 149, 156] ∧
    ((LociTerm.run step start evening).get (by decide)).managed =
      (((LociTerm.run step start evening).get (by decide)).sent.take 2).flatMap
        Sent.sizes := by
  have valid : ∀ sent, .send sent ∈ evening → sent.Valid := by
    intro sent member
    simp only [evening, List.mem_cons, LinkAction.send.injEq, reduceCtorEq,
      List.not_mem_nil, or_false, false_or] at member
    rcases member with rfl | rfl | rfl
    · exact trivial
    · exact ⟨by decide, by decide⟩
    · exact trivial
  exact ⟨by decide, by decide, (duplex valid
    (Option.some_get (show
      (LociTerm.run step start evening).isSome = true by decide)).symm).2.2.2⟩

end Link
end Ws
end LociTerm
