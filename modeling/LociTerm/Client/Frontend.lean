import LociTerm.Client.Browser
import LociTerm.Client.Terminal

/-!
# The frontend

The app store, the instances of `useTerminal` and the component between them.
`TerminalView` renders the active session; the effect of a render runs later,
and before the next one.  An instance stays in the map when its tab is closed:
no component calls `disposeTerminal`.
-/

namespace LociTerm
namespace Client

/-- A deletion that has resolved. -/
inductive Deletion
  | session (id : String)
  | workspace (id : String)
  deriving DecidableEq

/-- The deletion takes the session along, given the workspace of every
session. -/
def Deletion.covers (owner : String → String) (id : String) :
    Deletion → Bool
  | session deleted => id = deleted
  | workspace deleted => owner id = deleted

/-- What has happened to the sessions. -/
inductive Note
  | deleted (deletion : Deletion)
  /-- A WebSocket has been created for the session. -/
  | opened (id : String)
  deriving DecidableEq

/-- The session has been deleted. -/
def deletedIn (owner : String → String) (id : String) (log : List Note) :
    Bool :=
  log.any fun
    | .deleted deletion => deletion.covers owner id
    | .opened _ => false

/-- The deletion that a step of the browser resolves. -/
def Browser.resolves (browser : Browser) : BrowserAction → Option Deletion
  | .reply id replies =>
      (browser.flights.get? id).bind fun flight =>
        match flight.pending, browser.app.resume flight.pending replies with
        | .deleteSession id, some (.returns _) => some (.session id)
        | .deleteWorkspace id, some (.returns _) => some (.workspace id)
        | _, _ => none
  | .call _ _ | .reject _ => none

/-- The store, the component and the instances of the terminals. -/
structure Frontend where
  browser : Browser
  instances : Table String Terminal
  /-- The `sessionId` of the last render, if `TerminalView` is mounted. -/
  rendered : Option (Option String)
  /-- The effect of the last render has yet to run. -/
  pending : Bool
  /-- The session whose effect has run last. -/
  effective : Option String
  /-- Newest first. -/
  log : List Note
  deriving DecidableEq

/-- What happens on the page of a terminal. -/
inductive FrontendAction
  | store (action : BrowserAction)
  /-- `TerminalView` renders, perhaps with another theme. -/
  | render (themed : Bool)
  | effect (container : Option Dimensions)
  | unmount
  /-- A timer, a ticket, an observer or a socket of an instance. -/
  | terminal (id : String) (event : TerminalEvent)
  deriving DecidableEq

/-- The event is not one of the component. -/
def TerminalEvent.isOwn : TerminalEvent → Bool
  | .effect _ | .cleanup | .dispose => false
  | _ => true

namespace Frontend

/-- The page as it loads. -/
def initial : Frontend := ⟨Browser.initial, Table.empty, none, false, none, []⟩

/-- `activeSessionId` of the store. -/
def activeSessionId (f : Frontend) : Option String :=
  f.browser.app.state.activeSessionId

/-- The session for which the effect of the last render is. -/
def target (f : Frontend) : Option String :=
  f.rendered.join.filter (· ≠ "")

/-- The instances after the cleanup of the last effect. -/
def cleaned (f : Frontend) : Table String Terminal :=
  match f.effective with
  | some id => f.instances.modify id Terminal.cleanup
  | none => f.instances

/-- The effect of `useTerminal`, which creates the instance if there is none. -/
def runEffect (f : Frontend) (container : Option Dimensions) : Frontend :=
  let f := { f with pending := false, instances := f.cleaned }
  match f.target with
  | some id =>
      let inst := (f.instances.get? id).getD Terminal.createInstance
      { f with
        instances := f.instances.set id (inst.effect container)
        effective := some id }
  | none => { f with effective := none }

/-- The step relation. -/
def step (f : Frontend) : FrontendAction → Option Frontend
  | .store action =>
      (f.browser.step action).map fun browser =>
        { f with
          browser := browser
          log := ((f.browser.resolves action).map Note.deleted).toList ++ f.log }
  | .render themed =>
      if f.pending then none
      else
        some { f with
          rendered := some f.activeSessionId
          pending := themed || f.rendered ≠ some f.activeSessionId }
  | .effect container =>
      if f.pending then some (f.runEffect container) else none
  | .unmount =>
      if f.rendered = none then none
      else
        some { f with
          instances := f.cleaned
          rendered := none
          pending := false
          effective := none }
  | .terminal id event =>
      if event.isOwn then
        (f.instances.get? id).bind fun inst =>
          (inst.step event).map fun next =>
            { f with
              instances := f.instances.set id next
              log :=
                if inst.sockets.length < next.sockets.length then
                  .opened id :: f.log
                else f.log }
      else none

/-- No effect has yet to run, and `TerminalView` shows the active session. -/
def Settled (f : Frontend) : Prop :=
  f.pending = false ∧ ∀ shown ∈ f.rendered, shown = f.activeSessionId

instance (f : Frontend) : Decidable f.Settled :=
  inferInstanceAs (Decidable (_ ∧ _))

/-! ## The moves of the frontend -/

/-- What one step does. -/
inductive Moves (f : Frontend) : FrontendAction → Frontend → Prop
  | store
      (action : BrowserAction)
      (browser : Browser)
      (stepped : f.browser.step action = some browser) :
      Moves f (.store action)
        { f with
          browser := browser
          log := ((f.browser.resolves action).map Note.deleted).toList ++ f.log }
  | render (themed : Bool) (settled : f.pending = false) :
      Moves f (.render themed)
        { f with
          rendered := some f.activeSessionId
          pending := themed || f.rendered ≠ some f.activeSessionId }
  | effect (container : Option Dimensions) (pending : f.pending = true) :
      Moves f (.effect container) (f.runEffect container)
  | unmount (mounted : f.rendered ≠ none) :
      Moves f .unmount
        { f with
          instances := f.cleaned
          rendered := none
          pending := false
          effective := none }
  | terminal
      (id : String)
      (event : TerminalEvent)
      (inst next : Terminal)
      (own : event.isOwn = true)
      (present : f.instances.get? id = some inst)
      (stepped : inst.step event = some next) :
      Moves f (.terminal id event)
        { f with
          instances := f.instances.set id next
          log :=
            if inst.sockets.length < next.sockets.length then
              .opened id :: f.log
            else f.log }

theorem moves_of_step
    {f next : Frontend}
    {action : FrontendAction}
    (stepped : f.step action = some next) :
    f.Moves action next := by
  cases action with
  | store action =>
      obtain ⟨browser, browserStepped, rfl⟩ := Option.map_eq_some_iff.mp stepped
      exact .store action browser browserStepped
  | render themed =>
      obtain ⟨settled, ⟨⟩⟩ := Option.ite_none_left_eq_some.mp stepped
      exact .render themed (Bool.eq_false_iff.mpr settled)
  | effect container =>
      obtain ⟨pending, ⟨⟩⟩ := Option.ite_none_right_eq_some.mp stepped
      exact .effect container pending
  | unmount =>
      obtain ⟨mounted, ⟨⟩⟩ := Option.ite_none_left_eq_some.mp stepped
      exact .unmount mounted
  | terminal id event =>
      obtain ⟨own, rest⟩ := Option.ite_none_right_eq_some.mp stepped
      obtain ⟨inst, present, handled⟩ := Option.bind_eq_some_iff.mp rest
      obtain ⟨after, instStepped, rfl⟩ := Option.map_eq_some_iff.mp handled
      exact .terminal id event inst after own present instStepped

/-- An effect changes nothing but the map and what it is for. -/
theorem log_runEffect (f : Frontend) (container : Option Dimensions) :
    (f.runEffect container).log = f.log := by
  unfold runEffect
  simp only
  split <;> rfl

end Frontend
end Client
end LociTerm
