import LociTerm.Client.Input
import LociTerm.Client.Instances

/-!
# The mobile input bar

On a mobile device text is composed in an ordinary text area, and handed to the
socket of the session past xterm.  `sendToTerminal` returns whether there was
an open socket.  The bar does not ask, and clears the text area in any case.
-/

namespace LociTerm
namespace Client

open Ws.Protocol (Message)

/-- A message that is handed to a socket of the instance at a place. -/
structure Handed where
  place : Nat
  socket : Nat
  message : Message
  deriving DecidableEq

namespace Instances

/-- `inst.ws` of the instance of a session, if it is `OPEN`. -/
def openSocket (state : Instances) (sessionId : String) : Option (Nat × Nat) :=
  (state.map.get? sessionId).bind fun place =>
    (state.created[place]?).bind fun inst =>
      (inst.terminal.ws.filter fun socket =>
        inst.terminal.stateOf socket = some .opened).map fun socket =>
          (place, socket)

/-- `sendToTerminal`: what is handed to a socket, and what is returned. -/
def sendToTerminal
    (state : Instances)
    (sessionId : String)
    (data : List UInt16) : List Handed × Bool :=
  match state.openSocket sessionId with
  | some (place, socket) => ([⟨place, socket, sendString data⟩], true)
  | none => ([], false)

/-- The socket at this place is open, and belongs to the session. -/
def OpenFor
    (state : Instances)
    (sessionId : String)
    (place socket : Nat) : Prop :=
  state.map.get? sessionId = some place ∧
    ∃ inst, state.created[place]? = some inst ∧
      inst.terminal.stateOf socket = some .opened

theorem openFor_of_openSocket
    {state : Instances}
    {sessionId : String}
    {place socket : Nat}
    (found : state.openSocket sessionId = some (place, socket)) :
    state.OpenFor sessionId place socket := by
  obtain ⟨here, maps, rest⟩ := Option.bind_eq_some_iff.mp found
  obtain ⟨inst, stands, current⟩ := Option.bind_eq_some_iff.mp rest
  obtain ⟨ws, opened, same⟩ := Option.map_eq_some_iff.mp current
  cases same
  have state := (Option.filter_eq_some_iff.mp opened).2
  exact ⟨maps, inst, stands, of_decide_eq_true state⟩

end Instances

/-- A press of Send, by the button or by Enter. -/
structure Press where
  sessionId : Option String
  instances : Instances
  /-- What is in the text area, in UTF-16. -/
  text : List UInt16
  handed : List Handed
  /-- What is in the text area afterwards. -/
  left : List UInt16
  deriving DecidableEq

/-- What has happened to the text area. -/
inductive Entry
  | edited (text : List UInt16)
  | pressed (press : Press)
  deriving DecidableEq

/-- `MobileInputBar`, with the instances of the page. -/
structure InputBar where
  sessionId : Option String
  text : List UInt16
  instances : Instances
  /-- Newest first. -/
  history : List Entry
  deriving DecidableEq

/-- What happens to the input bar and around it. -/
inductive InputBarEvent
  /-- `onChange` -/
  | edit (text : List UInt16)
  | button
  | keyDown (enter shift : Bool)
  /-- The bar is rendered for another session. -/
  | session (sessionId : Option String)
  | instances (event : InstancesEvent)
  deriving DecidableEq

namespace Press

/-- The text and a carriage return have been handed to an open socket of the
session, once, and the text area is empty. -/
def Sent (press : Press) : Prop :=
  ∃ sessionId ∈ press.sessionId, ∃ place socket,
    press.instances.OpenFor sessionId place socket ∧
      press.handed = [⟨place, socket, sendString (press.text ++ [13])⟩] ∧
      press.left = []

/-- The text has been sent, or it has not and is still in the text area. -/
def Kept (press : Press) : Prop :=
  press.Sent ∨ press.handed = [] ∧ press.left = press.text

/-- Text that was not handed to a socket must still be there. -/
theorem kept_iff_of_not_handed {press : Press} (handed : press.handed = []) :
    press.Kept ↔ press.left = press.text := by
  constructor
  · rintro (⟨_, _, _, _, _, sent, _⟩ | ⟨_, same⟩)
    · rw [handed] at sent
      cases sent
    · exact same
  · intro same
    exact .inr ⟨handed, same⟩

end Press

/-- What the text area shows after what has happened to it. -/
def shown : List Entry → List UInt16
  | [] => []
  | .edited text :: _ => text
  | .pressed press :: _ => press.left

/-- Every press has found the text as it was left, and has kept it. -/
def Accounted : List Entry → Prop
  | [] => True
  | .edited _ :: earlier => Accounted earlier
  | .pressed press :: earlier =>
      press.text = shown earlier ∧ press.Kept ∧ Accounted earlier

namespace InputBar

/-- The bar as it is mounted. -/
def mounted (sessionId : Option String) (instances : Instances) : InputBar :=
  ⟨sessionId, [], instances, []⟩

/-- The session, if `!sessionId` does not hold. -/
def target (bar : InputBar) : Option String :=
  bar.sessionId.filter (· ≠ "")

/-- `handleSend` -/
def handleSend (bar : InputBar) : Press :=
  match bar.target with
  | some sessionId =>
      { sessionId := bar.sessionId
        instances := bar.instances
        text := bar.text
        handed :=
          (bar.instances.sendToTerminal sessionId (bar.text ++ [13])).1
        left := [] }
  | none => ⟨bar.sessionId, bar.instances, bar.text, [], bar.text⟩

/-- The bar after `handleSend`. -/
def send (bar : InputBar) : InputBar :=
  { bar with
    text := bar.handleSend.left
    history := .pressed bar.handleSend :: bar.history }

/-- The step relation.  The button is disabled without a session. -/
def step (bar : InputBar) : InputBarEvent → Option InputBar
  | .edit text =>
      some { bar with text := text, history := .edited text :: bar.history }
  | .button => if bar.target.isSome then some bar.send else none
  | .keyDown enter shift => some (if enter && !shift then bar.send else bar)
  | .session sessionId => some { bar with sessionId := sessionId }
  | .instances event =>
      (bar.instances.step event).map fun instances =>
        { bar with instances := instances }

/-- Everything that was composed has been sent once, or is visible until it is
edited. -/
structure LosesNothing (bar : InputBar) : Prop where
  visible : bar.text = shown bar.history
  accounted : Accounted bar.history

/-- There is nothing to send, or an open socket for it. -/
def CanSend (bar : InputBar) : Prop :=
  ∀ sessionId ∈ bar.target,
    bar.text = [] ∨ (bar.instances.openSocket sessionId).isSome = true

instance (bar : InputBar) : Decidable bar.CanSend :=
  inferInstanceAs (Decidable (∀ sessionId ∈ bar.target, _ ∨ _))

/-- Send is pressed only when there is nothing to send or an open socket. -/
def SendsToOpenSocket (bar : InputBar) : InputBarEvent → Prop
  | .button => bar.CanSend
  | .keyDown enter shift => (enter && !shift) = true → bar.CanSend
  | .edit _ | .session _ | .instances _ => True

instance (bar : InputBar) : DecidablePred bar.SendsToOpenSocket
  | .button => inferInstanceAs (Decidable bar.CanSend)
  | .keyDown _ _ => inferInstanceAs (Decidable (_ → bar.CanSend))
  | .edit _ | .session _ | .instances _ => inferInstanceAs (Decidable True)

/-! ## What a press does -/

variable {bar next : InputBar}

@[simp] theorem handleSend_text (bar : InputBar) :
    bar.handleSend.text = bar.text := by
  unfold handleSend
  split
  · rfl
  · rfl

/-- The text is kept exactly if it can be sent. -/
theorem kept_handleSend_iff (bar : InputBar) :
    bar.handleSend.Kept ↔ bar.CanSend := by
  unfold handleSend
  cases target : bar.target with
  | none => simp [Press.Kept, CanSend, target]
  | some sessionId =>
      have present : bar.sessionId = some sessionId :=
        (Option.filter_eq_some_iff.mp target).1
      cases found : bar.instances.openSocket sessionId with
      | none =>
          rw [Press.kept_iff_of_not_handed
            (by simp [Instances.sendToTerminal, found])]
          have closed : bar.CanSend ↔ bar.text = [] := by
            simp [CanSend, target, found]
          exact eq_comm.trans closed.symm
      | some pair =>
          obtain ⟨place, socket⟩ := pair
          have openFor := Instances.openFor_of_openSocket found
          have sent : Press.Sent
              { sessionId := bar.sessionId
                instances := bar.instances
                text := bar.text
                handed :=
                  (bar.instances.sendToTerminal sessionId (bar.text ++ [13])).1
                left := [] } := by
            refine ⟨sessionId, present, place, socket, openFor, ?_, rfl⟩
            simp [Instances.sendToTerminal, found]
          refine iff_of_true (.inl sent) ?_
          simp [CanSend, target, found]

theorem visible_send (bar : InputBar) : bar.send.text = shown bar.send.history :=
  rfl

theorem losesNothing_send_iff (visible : bar.text = shown bar.history) :
    bar.send.LosesNothing ↔ bar.LosesNothing ∧ bar.CanSend := by
  rw [← kept_handleSend_iff]
  constructor
  · rintro ⟨_, _, kept, accounted⟩
    exact ⟨⟨visible, accounted⟩, kept⟩
  · rintro ⟨⟨_, accounted⟩, kept⟩
    exact ⟨rfl, (handleSend_text bar).trans visible, kept, accounted⟩

/-! ## The steps of the bar -/

/-- Between two edits the text area shows what the last press has left. -/
theorem visible_step
    {event : InputBarEvent}
    (visible : bar.text = shown bar.history)
    (stepped : bar.step event = some next) :
    next.text = shown next.history := by
  cases event with
  | edit text =>
      cases stepped
      rfl
  | button =>
      obtain ⟨_, ⟨⟩⟩ := Option.ite_none_right_eq_some.mp stepped
      exact visible_send bar
  | keyDown enter shift =>
      cases stepped
      split
      · exact visible_send bar
      · exact visible
  | session sessionId =>
      cases stepped
      exact visible
  | instances event =>
      obtain ⟨instances, _, rfl⟩ := Option.map_eq_some_iff.mp stepped
      exact visible

/-- An event apart from Send loses nothing more. -/
theorem losesNothing_of_accounted
    (visible : bar.text = shown bar.history)
    (visibleNext : next.text = shown next.history)
    (accounted : Accounted next.history ↔ Accounted bar.history) :
    next.LosesNothing ↔ bar.LosesNothing ∧ True := by
  rw [and_true]
  constructor
  · intro nothing
    exact ⟨visible, accounted.mp nothing.accounted⟩
  · intro nothing
    exact ⟨visibleNext, accounted.mpr nothing.accounted⟩

theorem losesNothing_step_iff
    {event : InputBarEvent}
    (visible : bar.text = shown bar.history)
    (stepped : bar.step event = some next) :
    next.LosesNothing ↔ bar.LosesNothing ∧ bar.SendsToOpenSocket event := by
  have visibleNext := visible_step visible stepped
  cases event with
  | edit text =>
      cases stepped
      exact losesNothing_of_accounted visible visibleNext Iff.rfl
  | button =>
      obtain ⟨_, ⟨⟩⟩ := Option.ite_none_right_eq_some.mp stepped
      exact losesNothing_send_iff visible
  | keyDown enter shift =>
      cases stepped
      simp only [SendsToOpenSocket]
      split
      · rename_i sends
        rw [losesNothing_send_iff visible]
        exact and_congr_right fun _ => ⟨fun can _ => can, fun can => can sends⟩
      · rename_i ignored
        exact (and_iff_left fun sends => absurd sends ignored).symm
  | session sessionId =>
      cases stepped
      exact losesNothing_of_accounted visible visibleNext Iff.rfl
  | instances event =>
      obtain ⟨instances, _, rfl⟩ := Option.map_eq_some_iff.mp stepped
      exact losesNothing_of_accounted visible visibleNext Iff.rfl

/-- The bar loses nothing exactly when every press of Send finds an open socket
of the session or an empty text area. -/
theorem losesNothing_iff
    {sessionId : Option String}
    {instances : Instances}
    {events : List InputBarEvent}
    {final : InputBar}
    (ran : run step (mounted sessionId instances) events = some final) :
    final.LosesNothing ↔
      Follows step SendsToOpenSocket (mounted sessionId instances) events := by
  have both :
      final.LosesNothing ↔
        (mounted sessionId instances).LosesNothing ∧
          Follows step SendsToOpenSocket (mounted sessionId instances) events :=
    Follows.iff_of_run
      (fun _ _ _ visible stepped => visible_step visible stepped)
      (fun _ _ _ visible stepped => losesNothing_step_iff visible stepped)
      rfl ran
  rw [both]
  exact and_iff_right ⟨rfl, trivial⟩

/-- `ls` -/
def command : List UInt16 := [108, 115]

/-- A text is composed and sent on an open socket. -/
def openRun : List InputBarEvent :=
  [.instances (.effect "s" (some ⟨80, 24⟩)),
    .instances (.callback 0 .ticketArrives),
    .instances (.callback 0 (.socketOpen 0)), .session (some "s"),
    .edit command, .button]

theorem losesNothing_openRun :
    ((run step (mounted none .empty) openRun).get (by decide)).LosesNothing :=
  (losesNothing_iff (Option.some_get _).symm).mpr (by decide)

/-- The socket is lost between the edit and the press of Enter. -/
def lostRun : List InputBarEvent :=
  [.instances (.effect "s" (some ⟨80, 24⟩)),
    .instances (.callback 0 .ticketArrives),
    .instances (.callback 0 (.socketOpen 0)), .session (some "s"),
    .edit command, .instances (.callback 0 (.socketClose 0)),
    .keyDown true false]

theorem not_losesNothing_lostRun :
    ¬ ((run step (mounted none .empty) lostRun).get (by decide)).LosesNothing :=
  fun nothing =>
    absurd ((Press.kept_iff_of_not_handed rfl).mp nothing.accounted.2.1)
      (by decide)

end InputBar
end Client
end LociTerm
