import LociTerm.Ws.Phases

/-!
# The slot of the session

The manager keeps one attach client for the session.  It belongs to a line that
is served, and the pty of every other line that is served is closed.
-/

namespace LociTerm
namespace Ws

open Tmux Client

theorem client_injective
    {left right : Bool}
    {j k : Nat}
    (same : client left j = client right k) :
    (left, j) = (right, k) := by
  have equal : 2 * j + left.toNat = 2 * k + right.toNat := same
  cases left <;> cases right <;>
    simp only [Bool.toNat_true, Bool.toNat_false] at equal
  · obtain rfl : j = k := by omega
    rfl
  · omega
  · omega
  · obtain rfl : j = k := by omega
    rfl

theorem ownerOf_client (device : Bool) (k : Nat) :
    ownerOf (client device k) = device := by
  cases device <;> simp [ownerOf, client]

namespace Devices

/-- The line of a device at a place. -/
def lineAt (state : Devices) (place : Bool × Nat) : Option Line :=
  (state.device place.1).lines[place.2]?

/-- The attach client of a place runs on an open pty. -/
def Running (host : Host) (holder : Handle) : Prop :=
  ∃ session, host.heap.get? holder = some session ∧
    session.closed = false ∧ session.ptmxOpen = true

/-- The pty of an attach client is closed on the server's side. -/
def Ended (host : Host) (holder : Handle) : Prop :=
  ∃ session, host.heap.get? holder = some session ∧ session.ptmxOpen = false

/-- The slot belongs to a line that is served, and every other line that is
served has lost its attach client. -/
structure Slot
    (id : String)
    (host : Host)
    (line : Bool × Nat → Option Line) : Prop where
  holder : ∀ holder, host.sessions.get? id = some holder →
    Running host holder ∧
      ∃ place now, holder = client place.1 place.2 ∧ line place = some now ∧
        now.handler.serving = true
  others : ∀ place now, line place = some now →
    now.handler.serving = true →
      host.sessions.get? id = some (client place.1 place.2) ∨
        Ended host (client place.1 place.2)

namespace Slot

variable {id : String} {host : Host} {line : Bool × Nat → Option Line}
  {place : Bool × Nat} {moved : Line}

theorem start (server : Server) :
    Slot id (Host.newManager server) fun _ => none where
  holder := by simp [Host.newManager]
  others := nofun

/-- A line that moves without the manager is served as before. -/
theorem moves
    (slot : Slot id host line)
    (same : moved.handler.serving =
      (line place).any fun before => before.handler.serving) :
    Slot id host (Function.update line place (some moved)) where
  holder holder held := by
    obtain ⟨running, there, now, rfl, found, serving⟩ := slot.holder holder held
    by_cases here : there = place
    · subst here
      refine ⟨running, there, moved, rfl, Function.update_self .., ?_⟩
      rw [same, found]
      exact serving
    · exact ⟨running, there, now, rfl,
        (Function.update_of_ne here ..).trans found, serving⟩
  others there now found serving := by
    by_cases here : there = place
    · subst here
      cases (Function.update_self ..).symm.trans found
      rw [same] at serving
      obtain ⟨before, was, served⟩ := (Option.any_eq_true ..).mp serving
      exact slot.others there before was served
    · rw [Function.update_of_ne here] at found
      exact slot.others there now found serving

/-- A line that is not served does not hold the slot. -/
theorem not_holder
    {now : Line}
    (slot : Slot id host line)
    (found : line place = some now)
    (unserved : now.handler.serving = false) :
    host.sessions.get? id ≠ some (client place.1 place.2) := by
  intro held
  obtain ⟨_, there, other, same, here, serving⟩ := slot.holder _ held
  have equal : place = there := client_injective same
  subst equal
  cases found.symm.trans here
  rw [unserved] at serving
  cases serving

/-- The handler of a line that does not hold the slot closes its own client. -/
theorem ends
    {next : Host}
    (slot : Slot id host line)
    (free : host.sessions.get? id ≠ some (client place.1 place.2))
    (sessions : next.sessions.get? id = host.sessions.get? id)
    (heap : ∀ other, other ≠ client place.1 place.2 →
      next.heap.get? other = host.heap.get? other)
    (unserved : moved.handler.serving = false) :
    Slot id next (Function.update line place (some moved)) where
  holder holder held := by
    rw [sessions] at held
    obtain ⟨⟨session, running⟩, there, now, rfl, found, serving⟩ :=
      slot.holder holder held
    have other : client there.1 there.2 ≠ client place.1 place.2 := by
      intro same
      exact free (same ▸ held)
    have away : there ≠ place := fun here => other (here ▸ rfl)
    refine ⟨⟨session, by rwa [heap _ other]⟩, there, now, rfl, ?_, serving⟩
    exact (Function.update_of_ne away ..).trans found
  others there now found serving := by
    by_cases here : there = place
    · subst here
      cases (Function.update_self ..).symm.trans found
      rw [unserved] at serving
      cases serving
    · rw [Function.update_of_ne here] at found
      have other : client there.1 there.2 ≠ client place.1 place.2 :=
        fun same => here (client_injective same)
      rw [sessions]
      refine (slot.others there now found serving).imp_right ?_
      rintro ⟨session, lost⟩
      exact ⟨session, by rwa [heap _ other]⟩

end Slot

/-- What an `Attach` call does to the map and to the attach clients. -/
theorem serve_attach (id : String) (host : Host) (holder : Handle) :
    ∃ next, serve id host holder .attach = some next ∧
      next.sessions = host.sessions.set id holder ∧
      (host.sessions.get? id ≠ some holder → Running next holder) ∧
      ∀ other, other ≠ holder →
        next.heap.get? other =
          if host.sessions.get? id = some other then
            (host.heap.get? other).map Session.close
          else host.heap.get? other := by
  obtain ⟨started, recreated, session, attached, sessions, heap, running⟩ :=
    host.attach_of_no_faults (attachCall id holder) rfl
  refine ⟨started.attachPublish (attachCall id holder), ?_, ?_, ?_, ?_⟩
  · rw [serve, attached]
  · rw [Host.sessions_attachPublish, sessions]
    rfl
  · intro free
    have other : started.sessions.get? (attachCall id holder).id ≠
        some holder := by
      rwa [sessions]
    refine ⟨session, ?_, running⟩
    rw [Host.get?_heap_attachPublish, if_neg other, heap]
    exact Table.get?_set_self ..
  · intro other away
    have kept :
        (host.heap.set (attachCall id holder).handle session).get? other =
          host.heap.get? other :=
      Table.get?_set_of_ne _ _ (Ne.symm away)
    rw [Host.get?_heap_attachPublish, sessions, heap, kept]
    rfl

namespace Slot

variable {id : String} {host next : Host} {line : Bool × Nat → Option Line}
  {place : Bool × Nat} {now moved : Line}

/-- The line that has just attached holds the slot, and the line that held it
loses its client. -/
theorem attach
    (slot : Slot id host line)
    (found : line place = some now)
    (unserved : now.handler.serving = false)
    (served : serve id host (client place.1 place.2) .attach = some next)
    (serving : moved.handler.serving = true) :
    Slot id next (Function.update line place (some moved)) := by
  have free := slot.not_holder found unserved
  obtain ⟨result, serves, sessions, running, heap⟩ :=
    serve_attach id host (client place.1 place.2)
  cases serves.symm.trans served
  constructor
  · intro holder held
    rw [sessions, Table.get?_set_self] at held
    cases held
    exact ⟨running free, place, moved, rfl, Function.update_self .., serving⟩
  · intro there after here served
    by_cases same : there = place
    · subst same
      exact .inl (by rw [sessions, Table.get?_set_self])
    · rw [Function.update_of_ne same] at here
      have away : client there.1 there.2 ≠ client place.1 place.2 :=
        fun equal => same (client_injective equal)
      refine .inr ?_
      unfold Ended
      rw [heap _ away]
      rcases slot.others there after here served with held | ⟨session, at', lost⟩
      · obtain ⟨⟨session, at', open', _⟩, _⟩ := slot.holder _ held
        rw [if_pos held, at']
        exact ⟨session.close, rfl, Session.ptmxOpen_close (.inl open')⟩
      · rw [at']
        split
        · exact ⟨session.close, rfl, Session.ptmxOpen_close (.inr lost)⟩
        · exact ⟨session, rfl, lost⟩

/-- The pump of a line ends when the line has lost its attach client. -/
theorem pumpEnds
    (slot : Slot id host line)
    (served : serve id host (client place.1 place.2) .pumpEnds = some next)
    (unserved : moved.handler.serving = false) :
    next.sessions = host.sessions ∧
      Slot id next (Function.update line place (some moved)) := by
  obtain ⟨lost, closes⟩ := Option.ite_none_right_eq_some.mp served
  cases closes
  obtain ⟨session, found, ended⟩ := (Option.any_eq_true ..).mp lost
  refine ⟨rfl, slot.ends ?_ rfl ?_ unserved⟩
  · intro held
    obtain ⟨⟨other, here, _, running⟩, _⟩ := slot.holder _ held
    cases found.symm.trans here
    rw [running] at ended
    cases ended
  · intro other away
    exact (Table.get?_modify ..).trans (if_neg away)

/-- `Detach` finds the slot taken by another line. -/
theorem detach
    (slot : Slot id host line)
    (found : line place = some now)
    (finished : now.handler.serving = false)
    (served : serve id host (client place.1 place.2) .detach = some next)
    (unserved : moved.handler.serving = false) :
    next.sessions = host.sessions ∧
      Slot id next (Function.update line place (some moved)) := by
  cases served
  have free := slot.not_holder found finished
  simp only [Host.detach, if_neg free]
  refine ⟨Host.sessions_close .., slot.ends free ?_ ?_ unserved⟩
  · rw [Host.sessions_close]
  · intro other away
    rw [Host.get?_heap_close, if_neg away]

/-- An event of a line leaves the slot to a line that is served. -/
theorem lineStep
    {event : LineEvent}
    (slot : Slot id host line)
    (found : line place = some now)
    (moves : Line.Moves now event moved)
    (served : serve id host (client place.1 place.2) event = some next) :
    Slot id next (Function.update line place (some moved)) ∧
      (next.sessions.get? id).isSome =
        (event = .attach || (host.sessions.get? id).isSome) := by
  cases moves with
  | upgrade received | writeAttached received | socketOpen handler upgraded
  | socketAttached handler written | socketClose handler finished =>
      cases served
      refine ⟨slot.moves ?_, rfl⟩
      rw [found]
      rfl
  | attach received =>
      refine ⟨slot.attach found rfl served rfl, ?_⟩
      obtain ⟨result, serves, sessions, _⟩ :=
        serve_attach id host (client place.1 place.2)
      cases serves.symm.trans served
      rw [sessions, Table.get?_set_self]
      rfl
  | pumpEnds received =>
      have ended : next.sessions = host.sessions ∧
          Slot id next (Function.update line place (some ⟨.shut, received⟩)) :=
        slot.pumpEnds served rfl
      refine ⟨ended.2, ?_⟩
      rw [ended.1]
      rfl
  | detach received =>
      have detached : next.sessions = host.sessions ∧
          Slot id next
            (Function.update line place (some ⟨.returned, received⟩)) :=
        slot.detach found rfl served rfl
      refine ⟨detached.2, ?_⟩
      rw [detached.1]
      rfl

end Slot
end Devices

end Ws
end LociTerm
