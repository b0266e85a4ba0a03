import LociTerm.Client.Instances

/-!
# Disposed instances

`disposeTerminal` closes the socket of an instance and clears its timers, but a
ticket may still be on its way, and the close event of the socket sets the
reconnect timer again.  Both callbacks ask `instances.has(sid)` before they go
on, and so mistake a new instance under the same session id for their own.
-/

namespace LociTerm
namespace Client

namespace Instance

/-- Since it was disposed the instance has created no socket, and it has
written nothing for a socket created since then. -/
structure StaysDead (inst : Instance) : Prop where
  sockets : ∀ count ∈ inst.disposed, inst.terminal.sockets.length ≤ count
  written : ∀ count ∈ inst.disposed, ∀ socket ∈ inst.written, socket < count

instance (inst : Instance) : Decidable inst.StaysDead :=
  decidable_of_iff
    ((∀ count ∈ inst.disposed, inst.terminal.sockets.length ≤ count) ∧
      ∀ count ∈ inst.disposed, ∀ socket ∈ inst.written, socket < count)
    ⟨fun both => ⟨both.1, both.2⟩, fun dead => ⟨dead.1, dead.2⟩⟩

/-- What is remembered of an instance goes with its sockets. -/
structure Sound (inst : Instance) : Prop where
  disposed : ∀ count ∈ inst.disposed, count ≤ inst.terminal.sockets.length
  written : ∀ socket ∈ inst.written, socket < inst.terminal.sockets.length

variable {inst : Instance}

/-- An instance that has not been disposed has nothing to keep. -/
theorem StaysDead.of_not_disposed (alive : inst.disposed = none) :
    inst.StaysDead where
  sockets := by simp [alive]
  written := by simp [alive]

/-- A disposed instance is found dead. -/
theorem Sound.dispose (sound : inst.Sound) :
    inst.dispose.Sound ∧ inst.dispose.StaysDead := by
  refine ⟨⟨?_, ?_⟩, ⟨?_, ?_⟩⟩
  · simp [Instance.dispose]
  · simpa [Instance.dispose] using sound.written
  · simp [Instance.dispose]
  · simpa [Instance.dispose] using sound.written

/-- A handler that creates no socket keeps the instance as dead as it was. -/
theorem staysDead_of_same_length
    {terminal : Terminal}
    (same : terminal.sockets.length = inst.terminal.sockets.length) :
    StaysDead { inst with terminal := terminal } ↔ inst.StaysDead := by
  constructor
  · rintro ⟨sockets, written⟩
    exact ⟨fun count disposed => same ▸ sockets count disposed, written⟩
  · rintro ⟨sockets, written⟩
    exact ⟨fun count disposed => same.symm ▸ sockets count disposed, written⟩

/-- A new socket is one too many for a disposed instance. -/
theorem staysDead_of_new_socket
    {terminal : Terminal}
    (sound : inst.Sound)
    (more : terminal.sockets.length = inst.terminal.sockets.length + 1) :
    StaysDead { inst with terminal := terminal } ↔
      inst.StaysDead ∧ inst.disposed = none := by
  constructor
  · rintro ⟨sockets, written⟩
    have alive : inst.disposed = none := by
      cases disposed : inst.disposed with
      | none => rfl
      | some count =>
          have atMost := sockets count disposed
          have atLeast := sound.disposed count disposed
          simp only [more] at atMost
          omega
    exact ⟨.of_not_disposed alive, alive⟩
  · rintro ⟨_, alive⟩
    exact .of_not_disposed alive

/-- Output of a socket that was there keeps the instance as dead as it was. -/
theorem staysDead_of_output
    {socket : Nat}
    (here : socket < inst.terminal.sockets.length) :
    StaysDead { inst with written := socket :: inst.written } ↔
      inst.StaysDead := by
  constructor
  · rintro ⟨sockets, written⟩
    exact ⟨sockets, fun count disposed other member =>
      written count disposed other (List.mem_cons_of_mem _ member)⟩
  · rintro ⟨sockets, written⟩
    refine ⟨sockets, fun count disposed other member => ?_⟩
    rcases List.mem_cons.mp member with rfl | earlier
    · exact Nat.lt_of_lt_of_le here (sockets count disposed)
    · exact written count disposed other earlier

theorem Sound.of_length
    {terminal : Terminal}
    (sound : inst.Sound)
    (grown : inst.terminal.sockets.length ≤ terminal.sockets.length) :
    Sound { inst with terminal := terminal } where
  disposed count disposed :=
    Nat.le_trans (sound.disposed count disposed) grown
  written socket member :=
    Nat.lt_of_lt_of_le (sound.written socket member) grown

end Instance

namespace Instances

/-- Every disposed instance stays dead. -/
def StaysDead (state : Instances) : Prop :=
  ∀ inst ∈ state.created, inst.StaysDead

instance (state : Instances) : Decidable state.StaysDead :=
  inferInstanceAs (Decidable (∀ inst ∈ state.created, inst.StaysDead))

/-- No ticket arrives for a disposed instance while another one stands in the
map under its session id. -/
def NotReplaced (state : Instances) : InstancesEvent → Prop
  | .callback place .ticketArrives =>
      ∀ inst ∈ state.created[place]?, inst.disposed ≠ none →
        state.has inst.sessionId = false
  | _ => True

instance (state : Instances) : DecidablePred state.NotReplaced
  | .callback place .ticketArrives =>
      inferInstanceAs (Decidable (∀ inst ∈ state.created[place]?, _ → _))
  | .effect _ _ | .disposeTerminal _ | .output _ _
  | .callback _ (.effect _) | .callback _ .cleanup | .callback _ (.layout _)
  | .callback _ .resizeObserver | .callback _ .resizeDebounce
  | .callback _ .ticketFails | .callback _ (.socketOpen _)
  | .callback _ (.socketAttached _) | .callback _ (.socketClosing _)
  | .callback _ (.socketError _) | .callback _ (.socketClose _)
  | .callback _ .reconnectTimer | .callback _ .dispose =>
      inferInstanceAs (Decidable True)

/-- The map leads to instances that are not disposed. -/
structure Sound (state : Instances) : Prop where
  each : ∀ inst ∈ state.created, inst.Sound
  map : ∀ sessionId place, state.map.get? sessionId = some place →
    ∃ inst, state.created[place]? = some inst ∧ inst.sessionId = sessionId ∧
      inst.disposed = none

/-! ## One instance is changed -/

/-- A property of all instances, when one of them is replaced. -/
theorem forall_mem_set_iff
    {α : Type}
    {property : α → Prop}
    {condition : Prop}
    {values : List α}
    {place : Nat}
    {old new : α}
    (here : values[place]? = some old)
    (changes : property new ↔ property old ∧ condition) :
    (∀ value ∈ values.set place new, property value) ↔
      (∀ value ∈ values, property value) ∧ condition := by
  constructor
  · intro every
    have inside : place < values.length := (List.getElem?_eq_some_iff.mp here).1
    have kept := changes.mp (every new (List.mem_set inside new))
    refine ⟨fun value member => ?_, kept.2⟩
    obtain ⟨index, found⟩ := List.mem_iff_getElem?.mp member
    by_cases same : place = index
    · subst same
      cases here.symm.trans found
      exact kept.1
    · apply every
      apply List.mem_of_getElem?
      rw [List.getElem?_set_ne same]
      exact found
  · rintro ⟨every, holds⟩ value member
    rcases List.mem_or_eq_of_mem_set member with before | rfl
    · exact every value before
    · exact changes.mpr ⟨every old (List.mem_of_getElem? here), holds⟩

variable {state next : Instances}

theorem advance_eq_some_iff {place : Nat} {event : TerminalEvent} :
    state.advance place event = some next ↔
      ∃ inst terminal, state.created[place]? = some inst ∧
        (state.found inst).step event = some terminal ∧
        { state with
          created :=
            state.created.set place { inst with terminal := terminal } } =
          next := by
  simp only [advance, Option.bind_eq_some_iff, Option.map_eq_some_iff]
  tauto

/-- A handler revives an instance only with a ticket, and only when the
instance has been replaced. -/
theorem staysDead_of_advance
    {place : Nat}
    {event : TerminalEvent}
    (sound : state.Sound)
    (advanced : state.advance place event = some next) :
    next.StaysDead ↔
      state.StaysDead ∧
        (event = .ticketArrives → ∀ inst ∈ state.created[place]?,
          inst.disposed ≠ none → state.has inst.sessionId = false) := by
  obtain ⟨inst, terminal, here, stepped, rfl⟩ :=
    advance_eq_some_iff.mp advanced
  have sockets := Terminal.length_sockets_of_step stepped
  apply forall_mem_set_iff here
  split at sockets
  · rename_i creates
    have has : state.has inst.sessionId = true := creates.2
    rw [Instance.staysDead_of_new_socket
      (sound.each inst (List.mem_of_getElem? here)) sockets]
    simp [creates.1, here, has]
  · rename_i quiet
    rw [Instance.staysDead_of_same_length sockets]
    refine (and_iff_left ?_).symm
    intro arrives other member _
    cases here.symm.trans member
    exact Bool.eq_false_iff.mpr fun has => quiet ⟨arrives, has⟩

/-- An instance may change that keeps its session id and its disposal. -/
theorem Sound.set
    {place : Nat}
    {old new : Instance}
    (sound : state.Sound)
    (here : state.created[place]? = some old)
    (soundNew : new.Sound)
    (sessionId : new.sessionId = old.sessionId)
    (disposed : new.disposed = old.disposed) :
    Sound { state with created := state.created.set place new } where
  each inst member := by
    rcases List.mem_or_eq_of_mem_set member with before | rfl
    · exact sound.each inst before
    · exact soundNew
  map other there found := by
    obtain ⟨inst, stands, same, alive⟩ := sound.map other there found
    by_cases equal : place = there
    · subst equal
      cases here.symm.trans stands
      have inside := (List.getElem?_eq_some_iff.mp here).1
      exact ⟨new, List.getElem?_set_self inside, sessionId.trans same,
        disposed.trans alive⟩
    · refine ⟨inst, ?_, same, alive⟩
      rw [List.getElem?_set_ne equal]
      exact stands

theorem Sound.advance
    {place : Nat}
    {event : TerminalEvent}
    (sound : state.Sound)
    (advanced : state.advance place event = some next) :
    next.Sound := by
  obtain ⟨inst, terminal, here, stepped, rfl⟩ :=
    advance_eq_some_iff.mp advanced
  have sockets := Terminal.length_sockets_of_step stepped
  have grown : inst.terminal.sockets.length ≤ terminal.sockets.length := by
    have same : (state.found inst).sockets = inst.terminal.sockets := rfl
    rw [same] at sockets
    split at sockets
    · omega
    · omega
  exact sound.set here
    ((sound.each inst (List.mem_of_getElem? here)).of_length grown) rfl rfl

theorem Sound.empty : empty.Sound where
  each := by simp [Instances.empty]
  map := by simp [Instances.empty]

/-- A new instance takes a session id that is not in the map. -/
theorem Sound.createInstance (sound : state.Sound) (sessionId : String) :
    (state.createInstance sessionId).Sound where
  each inst member := by
    rcases List.mem_append.mp member with before | new
    · exact sound.each inst before
    · cases List.mem_singleton.mp new
      exact ⟨by simp, by simp⟩
  map other place found := by
    simp only [Instances.createInstance, Table.get?_set] at found ⊢
    split at found
    · rename_i same
      cases found
      exact ⟨_, List.getElem?_concat_length, same, rfl⟩
    · obtain ⟨inst, here, kept⟩ := sound.map other place found
      have inside := (List.getElem?_eq_some_iff.mp here).1
      exact ⟨inst, (List.getElem?_append_left inside).trans here, kept⟩

theorem staysDead_createInstance (state : Instances) (sessionId : String) :
    (state.createInstance sessionId).StaysDead ↔ state.StaysDead := by
  have alive : Instance.StaysDead
      ⟨sessionId, Terminal.createInstance, none, []⟩ :=
    .of_not_disposed rfl
  constructor
  · intro every inst member
    exact every inst (List.mem_append_left _ member)
  · intro every inst member
    rcases List.mem_append.mp member with before | new
    · exact every inst before
    · cases List.mem_singleton.mp new
      exact alive

/-- The effect acts on an instance of the map, and creates no socket. -/
theorem Sound.effect
    {sessionId : String}
    {container : Option Dimensions}
    (sound : state.Sound)
    (handled : state.effect sessionId container = some next) :
    next.Sound ∧ (next.StaysDead ↔ state.StaysDead) := by
  unfold Instances.effect at handled
  split at handled
  · refine ⟨sound.advance handled, ?_⟩
    rw [staysDead_of_advance sound handled]
    simp
  · have soundNew := sound.createInstance sessionId
    refine ⟨soundNew.advance handled, ?_⟩
    rw [staysDead_of_advance soundNew handled, staysDead_createInstance]
    simp

/-- The instance that is disposed is one of the map, and leaves it. -/
theorem Sound.disposeTerminal (sound : state.Sound) (sessionId : String) :
    (state.disposeTerminal sessionId).Sound ∧
      ((state.disposeTerminal sessionId).StaysDead ↔ state.StaysDead) := by
  unfold Instances.disposeTerminal
  split
  · rename_i place found
    obtain ⟨inst, here, own, alive⟩ := sound.map sessionId place found
    have inside := (List.getElem?_eq_some_iff.mp here).1
    have soundInst := sound.each inst (List.mem_of_getElem? here)
    obtain ⟨soundNew, dead⟩ := soundInst.dispose
    have replaced : state.created.modify place Instance.dispose =
        state.created.set place inst.dispose := by
      ext1 index
      rw [List.getElem?_modify, List.getElem?_set]
      by_cases same : place = index
      · subst same
        rw [if_pos rfl, if_pos inside, here]
        simp
      · simp [same]
    rw [replaced]
    refine ⟨⟨?_, ?_⟩, ?_⟩
    · intro other member
      rcases List.mem_or_eq_of_mem_set member with before | rfl
      · exact sound.each other before
      · exact soundNew
    · intro other there stays
      rw [Table.get?_erase] at stays
      split at stays
      · cases stays
      · rename_i different
        obtain ⟨another, stands, same, kept⟩ := sound.map other there stays
        refine ⟨another, ?_, same, kept⟩
        rw [List.getElem?_set_ne]
        · exact stands
        · rintro rfl
          cases here.symm.trans stands
          exact different (own.symm.trans same)
    · have keeps : inst.dispose.StaysDead ↔ inst.StaysDead ∧ True :=
        iff_of_true dead ⟨.of_not_disposed alive, trivial⟩
      have every := forall_mem_set_iff here keeps
      rwa [and_true] at every
  · exact ⟨sound, Iff.rfl⟩

/-- An instance writes for a socket that is there. -/
theorem Sound.output
    {place socket : Nat}
    (sound : state.Sound)
    (wrote : state.output place socket = some next) :
    next.Sound ∧ (next.StaysDead ↔ state.StaysDead) := by
  obtain ⟨inst, here, rest⟩ := Option.bind_eq_some_iff.mp wrote
  obtain ⟨opened, same⟩ := Option.ite_none_right_eq_some.mp rest
  cases same
  have soundInst := sound.each inst (List.mem_of_getElem? here)
  have inside : socket < inst.terminal.sockets.length := by
    by_contra beyond
    have missing : inst.terminal.sockets[socket]? = none :=
      List.getElem?_eq_none (Nat.not_lt.mp beyond)
    simp [Terminal.stateOf, missing] at opened
  constructor
  · refine sound.set here ⟨soundInst.disposed, ?_⟩ rfl rfl
    intro other member
    rcases List.mem_cons.mp member with rfl | earlier
    · exact inside
    · exact soundInst.written other earlier
  · have keeps : Instance.StaysDead
          { inst with written := socket :: inst.written } ↔
        inst.StaysDead ∧ True :=
      (Instance.staysDead_of_output inside).trans (and_true _).to_iff.symm
    have every := forall_mem_set_iff here keeps
    rwa [and_true] at every

/-! ## The steps of the page -/

theorem Sound.step
    {event : InstancesEvent}
    (sound : state.Sound)
    (stepped : state.step event = some next) :
    next.Sound ∧
      (next.StaysDead ↔ state.StaysDead ∧ state.NotReplaced event) := by
  cases event with
  | effect sessionId container =>
      simp only [NotReplaced, and_true]
      simp only [Instances.step] at stepped
      split at stepped
      · cases stepped
        exact ⟨sound, Iff.rfl⟩
      · exact sound.effect stepped
  | disposeTerminal sessionId =>
      cases stepped
      simpa only [NotReplaced, and_true] using sound.disposeTerminal sessionId
  | callback place event =>
      obtain ⟨_, advanced⟩ := Option.ite_none_right_eq_some.mp stepped
      refine ⟨sound.advance advanced, ?_⟩
      rw [staysDead_of_advance sound advanced]
      cases event <;> simp [NotReplaced]
  | output place socket =>
      simpa only [NotReplaced, and_true] using sound.output stepped

/-- Disposed instances stay dead exactly in the runs in which no ticket arrives
for one of them after it has been replaced. -/
theorem staysDead_iff
    {events : List InstancesEvent}
    {final : Instances}
    (ran : run Instances.step empty events = some final) :
    final.StaysDead ↔ Follows Instances.step NotReplaced empty events := by
  have begins : empty.StaysDead := by
    intro inst member
    simp [empty] at member
  have both :
      final.StaysDead ↔
        empty.StaysDead ∧ Follows Instances.step NotReplaced empty events :=
    Follows.iff_of_run
      (fun _ _ _ sound stepped => (Sound.step sound stepped).1)
      (fun _ _ _ sound stepped => (Sound.step sound stepped).2)
      Sound.empty ran
  rw [both]
  exact and_iff_right begins

/-- The instance is disposed while its socket is open.  The close event sets
the timer, whose callback finds nothing in the map. -/
def closedForGood : List InstancesEvent :=
  [.effect "s" (some ⟨80, 24⟩), .callback 0 .ticketArrives,
    .callback 0 (.socketOpen 0), .output 0 0, .disposeTerminal "s",
    .callback 0 (.socketClose 0), .callback 0 .reconnectTimer,
    .effect "s" (some ⟨80, 24⟩), .callback 1 .ticketArrives]

theorem staysDead_closedForGood :
    ((run Instances.step empty closedForGood).get (by decide)).StaysDead :=
  (staysDead_iff (Option.some_get _).symm).mpr (by decide)

/-- The new instance is there when the timer fires, so the old one connects and
writes again. -/
def revived : List InstancesEvent :=
  [.effect "s" (some ⟨80, 24⟩), .callback 0 .ticketArrives,
    .callback 0 (.socketOpen 0), .output 0 0, .disposeTerminal "s",
    .effect "s" (some ⟨80, 24⟩), .callback 0 (.socketClose 0),
    .callback 0 .reconnectTimer, .callback 0 .ticketArrives,
    .callback 0 (.socketOpen 1), .output 0 1]

theorem not_staysDead_revived :
    ¬ ((run Instances.step empty revived).get (by decide)).StaysDead := by
  decide

end Instances
end Client
end LociTerm
