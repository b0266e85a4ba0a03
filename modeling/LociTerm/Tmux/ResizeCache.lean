import LociTerm.Tmux.ExactNames

/-!
# The resize cache

`Resize` skips the tmux command when the size it is given is the last one it
sent for the id.  The cache is keyed by id, while a tmux session that ends
otherwise than by `KillSession` of its id leaves the id to a new one, which
starts at the size of its `new-session`; and tmux resolves the targets of the
commands by its own rule.  A `Resize` that returns nil is delivered to the tmux
session of its id exactly when its command reaches that session, and the cached
size was not sent to an earlier one.
-/

namespace LociTerm
namespace Tmux

/-- The sizes that the tmux session of an id has been sent since its
`new-session`, newest first. -/
def Host.resizes? (host : Host) (id : String) : Option (List Size) :=
  (host.server.live.get? (tmuxName id)).map TmuxSession.resizes

/-- The tmux session of an id has been sent a size, and no other size
since. -/
def Host.Delivered (host : Host) (id : String) (size : Size) : Prop :=
  ∃ earlier, host.resizes? id = some (size :: earlier)

instance (host : Host) (id : String) (size : Size) :
    Decidable (host.Delivered id size) :=
  decidable_of_iff ((host.resizes? id).bind List.head? = some size) (by
    unfold Host.Delivered
    rcases host.resizes? id with _ | _ | ⟨last, earlier⟩ <;> simp)

/-! ## What the calls do to the sizes -/

@[simp] theorem resizes?_close (host : Host) (client : Handle) (id : String) :
    (host.close client).resizes? id = host.resizes? id := by
  unfold Host.resizes?
  rw [Host.get?_live_close]
  split
  · simp [Function.comp_def]
  · rfl

theorem resizes?_killTmux (host : Host) (killed id : String) :
    (host.killTmux killed).resizes? id =
      if killed = id then none else host.resizes? id := by
  unfold Host.resizes? Host.killTmux
  by_cases same : killed = id <;> simp [same]

theorem resizes?_attachPublish
    (host : Host)
    (call : AttachCall)
    (id : String) :
    (host.attachPublish call).resizes? id = host.resizes? id := by
  unfold Host.attachPublish
  split
  · exact resizes?_close host _ id
  · rfl

theorem sizes_detach (host : Host) (id : String) (client : Handle) :
    (host.detach id (some client)).lastSize = host.lastSize ∧
      ∀ other, (host.detach id (some client)).resizes? other =
        host.resizes? other := by
  simp only [Host.detach]
  split
  · exact ⟨by simp, fun other => by rw [resizes?_close]; rfl⟩
  · simp

/-- What `Resize` does to the sizes when it is skipped, fails or is sent. -/
theorem sizes_resize
    (host : Host)
    (id : String)
    (size : Size)
    (fails : Bool) :
    (host.lastSize.get? id = some size ∧
        host.resize id size fails = (host, true)) ∨
      (host.lastSize.get? id ≠ some size ∧
        host.resize id size fails = (host, false)) ∨
      (host.lastSize.get? id ≠ some size ∧
        (host.resize id size fails).2 = true ∧
        (host.resize id size fails).1.lastSize =
          host.lastSize.set id size ∧
        ∃ earlier, host.resizes? id = some earlier ∧
          ∀ other, (host.resize id size fails).1.resizes? other =
            if id = other then some (size :: earlier)
            else host.resizes? other) := by
  rcases host.resize_cases id size fails with
    skipped | failed | ⟨uncached, rfl, session, live, sent⟩
  · exact Or.inl skipped
  · exact Or.inr (Or.inl failed)
  · rw [sent]
    refine Or.inr (Or.inr ⟨uncached, rfl, rfl, session.resizes, ?_, ?_⟩)
    · simp [Host.resizes?, live]
    · intro other
      by_cases same : id = other <;>
        simp [Host.resizes?, Table.get?_set, same]

namespace Resolving

variable (fnmatch : String → String → Bool)

/-- A new attach client changes no size, whatever session it joins. -/
theorem sizes_newSession
    {host started : Host}
    {call : AttachCall}
    (begun : newSession fnmatch host call = some started) :
    started.lastSize = host.lastSize ∧
      ∀ id, started.resizes? id = host.resizes? id := by
  unfold newSession at begun
  split at begun
  · cases begun
  · cases begun
    refine ⟨rfl, fun id => ?_⟩
    unfold Host.resizes?
    cases target fnmatch host call.id with
    | none => rfl
    | some name =>
        by_cases same : tmuxName id = name <;>
          simp [same, Function.comp_def]

theorem sizes_attachExisting
    (host : Host)
    (call : AttachCall)
    (recreated : Bool) :
    (attachExisting fnmatch host call recreated).1.lastSize = host.lastSize ∧
      ∀ id, (attachExisting fnmatch host call recreated).1.resizes? id =
        host.resizes? id := by
  unfold attachExisting
  split
  · exact ⟨rfl, fun _ => rfl⟩
  · next started begun =>
      obtain ⟨last, sizes⟩ := sizes_newSession fnmatch begun
      exact ⟨(Host.lastSize_attachPublish _ _).trans last,
        fun id => (resizes?_attachPublish _ _ id).trans (sizes id)⟩

/-- `Attach` leaves the cache as it is, and a tmux session that it creates has
been sent no size. -/
theorem sizes_attach (host : Host) (call : AttachCall) :
    (attach fnmatch host call).1.lastSize = host.lastSize ∧
      ∀ id, (attach fnmatch host call).1.resizes? id = host.resizes? id ∨
        host.resizes? id = none ∧
          (attach fnmatch host call).1.resizes? id = some [] := by
  unfold attach
  split
  · obtain ⟨last, sizes⟩ := sizes_attachExisting fnmatch host call false
    exact ⟨last, fun id => Or.inl (sizes id)⟩
  · cases succeeded : host.attachCreate call with
    | none => exact ⟨rfl, fun _ => Or.inl rfl⟩
    | some created =>
        obtain ⟨last, sizes⟩ := sizes_attachExisting fnmatch created call true
        obtain ⟨_, gone, rfl⟩ := Host.attachCreate_eq_some succeeded
        refine ⟨last, fun id => ?_⟩
        simp only [sizes]
        by_cases same : call.id = id
        · subst same
          simp [Host.resizes?, gone]
        · simp [Host.resizes?, Table.get?_set, same]

/-- `KillSession` ends the session that its target names. -/
theorem sizes_killSession (host : Host) (killed : String) :
    (killSession fnmatch host killed).lastSize = host.lastSize.erase killed ∧
      ∀ id, (killSession fnmatch host killed).resizes? id =
        if target fnmatch host killed = some (tmuxName id) then none
        else host.resizes? id := by
  have locked (id : String) :
      (host.killLocked killed).resizes? id = host.resizes? id := by
    unfold Host.killLocked
    split
    · exact resizes?_close host _ id
    · rfl
  simp only [killSession, target_killLocked]
  cases target fnmatch host killed with
  | none => exact ⟨host.lastSize_killLocked killed, fun id => by simp [locked]⟩
  | some name =>
      refine ⟨host.lastSize_killLocked killed, fun id => ?_⟩
      by_cases same : name = tmuxName id
      · simp [Host.resizes?, same]
      · have kept := locked id
        unfold Host.resizes? at kept ⊢
        simp [same, kept]

end Resolving

/-! ## Runs of one call at a time -/

/-- One call, or a tmux session that ends by itself: its shell exits or the
tmux server restarts. -/
inductive Event
  | call (call : Call)
  | sessionEnds (id : String)
  deriving DecidableEq

/-- A host with the history that the cache does not record. -/
structure Sequential where
  host : Host
  /-- The tmux sessions that have ended since a `Resize` last sent them a size,
  by themselves or by a `KillSession` of another id. -/
  lost : List String
  deriving DecidableEq

namespace Sequential

/-- A new manager on a tmux server that may have sessions already. -/
def start (server : Server) : Sequential := ⟨Host.newManager server, []⟩

section Steps

variable (fnmatch : String → String → Bool)

/-- The lost sessions after a call. -/
def lostAfter (state : Sequential) : Call → List String
  | .resize id size fails =>
      if state.host.lastSize.get? id ≠ some size ∧
          (Resolving.resize fnmatch state.host id size fails).2 = true then
        state.lost.filter (· ≠ tmuxName id)
      else state.lost
  | .kill id =>
      ((Resolving.target fnmatch state.host id).filter
        (· ≠ tmuxName id)).toList ++ state.lost
  | .attach _ | .detach _ _ => state.lost

/-- The effect of one event. -/
def step (state : Sequential) : Event → Option Sequential
  | .call call =>
      some ⟨Resolving.serve fnmatch state.host call,
        state.lostAfter fnmatch call⟩
  | .sessionEnds id =>
      if state.host.tmuxSessionExists id then
        some ⟨state.host.killTmux id, tmuxName id :: state.lost⟩
      else none

/-- A `Resize` that returns nil leaves the tmux session of its id at the size
it was given. -/
def ResizeDelivers (state : Sequential) : Event → Prop
  | .call (.resize id size fails) =>
      (Resolving.resize fnmatch state.host id size fails).2 = true →
        (Resolving.resize fnmatch state.host id size fails).1.Delivered id size
  | _ => True

/-- The same, when no tmux session of the id needs no resize. -/
def ResizeDeliversIfAny (state : Sequential) : Event → Prop
  | .call (.resize id size fails) =>
      (Resolving.resize fnmatch state.host id size fails).2 = true →
        (Resolving.resize fnmatch state.host id size fails).1.Gone id ∨
          (Resolving.resize fnmatch state.host id size fails).1.Delivered
            id size
  | _ => True

instance (state : Sequential) :
    ∀ event, Decidable (state.ResizeDeliversIfAny fnmatch event)
  | .call (.resize _ _ _) => inferInstanceAs (Decidable (_ → _ ∨ _))
  | .call (.attach _) | .call (.detach _ _) | .call (.kill _)
  | .sessionEnds _ => isTrue trivial

/-- A `Resize` that runs its command does not send it to the session of
another id. -/
def ReachesOwn (state : Sequential) : Event → Prop
  | .call (.resize id size fails) =>
      state.host.lastSize.get? id ≠ some size → fails = false →
        Resolving.Clear fnmatch state.host id
  | _ => True

end Steps

/-- A `Resize` does not find its size cached from a tmux session that has been
lost. -/
def CacheCurrent (state : Sequential) : Event → Prop
  | .call (.resize id size _) =>
      ¬(state.host.lastSize.get? id = some size ∧ tmuxName id ∈ state.lost)
  | _ => True

/-- A `Resize` does not find its size cached from a tmux session that has been
lost when another one has taken its place. -/
def CacheCurrentIfAny (state : Sequential) : Event → Prop
  | .call (.resize id size _) =>
      ¬(state.host.lastSize.get? id = some size ∧ tmuxName id ∈ state.lost ∧
        ¬state.host.Gone id)
  | _ => True

/-- The cached size of an id is the last one sent to its tmux session, unless
the session it was sent to has been lost; then no later one has been sent a
size. -/
structure Accounted (state : Sequential) : Prop where
  sent : ∀ id size, state.host.lastSize.get? id = some size →
    tmuxName id ∉ state.lost → state.host.Delivered id size
  unsent : ∀ id size, state.host.lastSize.get? id = some size →
    tmuxName id ∈ state.lost → state.host.resizes? id = none ∨
      state.host.resizes? id = some []

variable {fnmatch : String → String → Bool} {state next : Sequential}

theorem Accounted.start (server : Server) : (start server).Accounted := by
  constructor <;> simp [Sequential.start, Host.newManager]

/-- Calls that leave the cache, the lost sessions and the sizes of the existing
ones as they are keep the accounting. -/
theorem Accounted.ofSameSizes
    (accounted : state.Accounted)
    (sameLast : next.host.lastSize = state.host.lastSize)
    (sameLost : next.lost = state.lost)
    (sizes : ∀ id, next.host.resizes? id = state.host.resizes? id ∨
      state.host.resizes? id = none ∧ next.host.resizes? id = some []) :
    next.Accounted := by
  constructor
  · intro id size cached current
    rw [sameLast] at cached
    rw [sameLost] at current
    obtain ⟨earlier, delivered⟩ := accounted.sent id size cached current
    rcases sizes id with same | ⟨absent, _⟩
    · exact ⟨earlier, same.trans delivered⟩
    · rw [absent] at delivered
      cases delivered
  · intro id size cached lost
    rw [sameLast] at cached
    rw [sameLost] at lost
    rcases sizes id with same | ⟨_, created⟩
    · rw [same]
      exact accounted.unsent id size cached lost
    · exact Or.inr created

/-- Sessions that end, and are recorded as lost if their size is cached, keep
the accounting. -/
theorem Accounted.ofEnded
    (accounted : state.Accounted)
    (cached : ∀ id size, next.host.lastSize.get? id = some size →
      state.host.lastSize.get? id = some size)
    (lost : ∀ id size, next.host.lastSize.get? id = some size →
      tmuxName id ∈ next.lost →
        tmuxName id ∈ state.lost ∨ next.host.resizes? id = none)
    (sizes : ∀ id, next.host.resizes? id = state.host.resizes? id ∨
      next.host.resizes? id = none)
    (recorded : ∀ id size, next.host.lastSize.get? id = some size →
      tmuxName id ∉ next.lost → tmuxName id ∉ state.lost ∧
        next.host.resizes? id = state.host.resizes? id) :
    next.Accounted := by
  constructor
  · intro id size here current
    obtain ⟨before, same⟩ := recorded id size here current
    obtain ⟨earlier, delivered⟩ :=
      accounted.sent id size (cached id size here) before
    exact ⟨earlier, same.trans delivered⟩
  · intro id size here member
    rcases lost id size here member with before | ended
    · rcases sizes id with same | ended
      · rw [same]
        exact accounted.unsent id size (cached id size here) before
      · exact Or.inl ended
    · exact Or.inl ended

/-- A command that reaches its own session is the one on exact names. -/
theorem resize_of_reachesOwn
    {id : String}
    {size : Size}
    {fails : Bool}
    (reaches : state.ReachesOwn fnmatch (.call (.resize id size fails))) :
    Resolving.resize fnmatch state.host id size fails =
      state.host.resize id size fails := by
  by_cases cached : state.host.lastSize.get? id = some size
  · simp only [Resolving.resize, Host.resize, if_pos cached]
  · cases fails with
    | true => simp [Resolving.resize, Host.resize, cached]
    | false =>
        exact Resolving.resize_of_clear fnmatch (reaches cached rfl) size false

theorem Accounted.resize
    {id : String}
    {size : Size}
    {fails : Bool}
    (reaches : state.ReachesOwn fnmatch (.call (.resize id size fails)))
    (accounted : state.Accounted) :
    (⟨(Resolving.resize fnmatch state.host id size fails).1,
      state.lostAfter fnmatch (.resize id size fails)⟩ :
        Sequential).Accounted := by
  simp only [lostAfter, resize_of_reachesOwn reaches]
  rcases sizes_resize state.host id size fails with
    ⟨cached, skipped⟩ | ⟨_, failed⟩ | ⟨uncached, sent, last, earlier, _, sizes⟩
  · apply accounted.ofSameSizes <;> simp [cached, skipped]
  · apply accounted.ofSameSizes <;> simp [failed]
  · rw [if_pos ⟨uncached, sent⟩]
    constructor
    · intro other otherSize cached current
      rw [last, Table.get?_set] at cached
      by_cases same : id = other
      · subst same
        rw [if_pos rfl] at cached
        cases cached
        exact ⟨earlier, by rw [sizes, if_pos rfl]⟩
      · rw [if_neg same] at cached
        have different : tmuxName other ≠ tmuxName id := fun equal =>
          same (tmuxName_injective equal).symm
        obtain ⟨others, delivered⟩ := accounted.sent other otherSize cached
          fun member => current (by simp [member, different])
        exact ⟨others, by rw [sizes, if_neg same, delivered]⟩
    · intro other otherSize cached member
      obtain ⟨member, different⟩ := List.mem_filter.mp member
      have same : id ≠ other := by
        rintro rfl
        simp at different
      rw [last, Table.get?_set_of_ne _ _ same] at cached
      simp only [sizes, if_neg same]
      exact accounted.unsent other otherSize cached member

/-- A kill clears the cached size of its id, and what it ends under another id
is lost. -/
theorem Accounted.kill (accounted : state.Accounted) (killed : String) :
    (⟨Resolving.killSession fnmatch state.host killed,
      state.lostAfter fnmatch (.kill killed)⟩ : Sequential).Accounted := by
  obtain ⟨last, sizes⟩ :=
    Resolving.sizes_killSession fnmatch state.host killed
  have other {id : String} {size : Size}
      (cached : (Resolving.killSession fnmatch state.host killed).lastSize.get?
        id = some size) :
      killed ≠ id ∧ state.host.lastSize.get? id = some size := by
    rw [last, Table.get?_erase] at cached
    by_cases same : killed = id <;> simp_all
  have lost_iff {id : String} (different : killed ≠ id) :
      tmuxName id ∈ state.lostAfter fnmatch (.kill killed) ↔
        Resolving.target fnmatch state.host killed = some (tmuxName id) ∨
          tmuxName id ∈ state.lost := by
    have names : tmuxName id ≠ tmuxName killed := fun same =>
      different (tmuxName_injective same).symm
    simp [lostAfter, Option.filter_eq_some_iff, names]
  apply accounted.ofEnded
  · exact fun id size cached => (other cached).2
  · intro id size cached member
    rcases (lost_iff (other cached).1).mp member with ended | before
    · exact Or.inr ((sizes id).trans (if_pos ended))
    · exact Or.inl before
  · intro id
    rw [sizes]
    split
    · exact Or.inr rfl
    · exact Or.inl rfl
  · intro id size cached current
    rw [lost_iff (other cached).1, not_or] at current
    exact ⟨current.2, (sizes id).trans (if_neg current.1)⟩

/-- Every event keeps the accounting, if a `Resize` reaches its own session. -/
theorem Accounted.step
    {event : Event}
    (accounted : state.Accounted)
    (reaches : state.ReachesOwn fnmatch event)
    (stepped : state.step fnmatch event = some next) :
    next.Accounted := by
  cases event with
  | call call =>
      obtain rfl := Option.some.inj stepped
      cases call with
      | attach attach =>
          obtain ⟨last, sizes⟩ :=
            Resolving.sizes_attach fnmatch state.host attach
          exact accounted.ofSameSizes last rfl sizes
      | detach id client =>
          obtain ⟨last, sizes⟩ := sizes_detach state.host id client
          exact accounted.ofSameSizes last rfl fun other =>
            Or.inl (sizes other)
      | resize id size fails => exact accounted.resize reaches
      | kill killed => exact accounted.kill killed
  | sessionEnds ended =>
      simp only [Sequential.step] at stepped
      split at stepped
      · cases stepped
        apply accounted.ofEnded
        · exact fun _ _ cached => cached
        · intro id size _ member
          rcases List.mem_cons.mp member with same | before
          · exact Or.inr (by
              rw [resizes?_killTmux, if_pos (tmuxName_injective same.symm)])
          · exact Or.inl before
        · intro id
          rw [resizes?_killTmux]
          split
          · exact Or.inr rfl
          · exact Or.inl rfl
        · intro id size _ current
          rw [List.mem_cons, not_or] at current
          have different : ended ≠ id := fun same =>
            current.1 (congrArg tmuxName same.symm)
          exact ⟨current.2, by rw [resizes?_killTmux, if_neg different]⟩
      · cases stepped

/-- A `Resize` that is sent to the session of another id has none of its own
that it is delivered to. -/
theorem reachesOwn_of_delivers
    {event : Event}
    (delivers : state.ResizeDelivers fnmatch event) :
    state.ReachesOwn fnmatch event := by
  rcases event with (_ | _ | ⟨id, size, fails⟩ | _) | _
  case call.resize =>
    rintro uncached rfl other mistaken
    have aimed : Resolving.target fnmatch state.host id = some other :=
      (Resolving.target_eq_some_iff fnmatch).mpr (Or.inr mistaken)
    obtain ⟨session, live⟩ := Option.isSome_iff_exists.mp
      ((Table.mem_keys_iff _ _).mp mistaken.2.1)
    have apart : other ≠ tmuxName id := by
      rintro rfl
      exact mistaken.1 mistaken.2.1
    have gone := (Table.get?_eq_none_iff _ _).mpr mistaken.1
    simp [ResizeDelivers, Resolving.resize, uncached, aimed,
      Server.resizeWindow, live, Host.Delivered, Host.resizes?,
      Table.get?_set_of_ne _ _ apart, gone] at delivers
  all_goals trivial

/-- A size cached from a lost tmux session is not delivered; every other
successful `Resize` that reaches its own session is. -/
theorem Accounted.delivers_iff
    {event : Event}
    (accounted : state.Accounted)
    (reaches : state.ReachesOwn fnmatch event) :
    state.ResizeDelivers fnmatch event ↔ state.CacheCurrent event := by
  rcases event with (_ | _ | ⟨id, size, fails⟩ | _) | _
  case call.resize =>
    simp only [ResizeDelivers, CacheCurrent, resize_of_reachesOwn reaches]
    rcases sizes_resize state.host id size fails with
      ⟨cached, skipped⟩ | ⟨uncached, failed⟩ | ⟨uncached, sent, _, _, _, sizes⟩
    · simp only [skipped, cached, true_and, forall_true_left]
      constructor
      · rintro ⟨earlier, delivered⟩ lost
        rcases accounted.unsent id size cached lost with none | empty
        · rw [none] at delivered
          cases delivered
        · rw [empty] at delivered
          cases delivered
      · exact accounted.sent id size cached
    · simp [failed, uncached]
    · simp [Host.Delivered, sizes, sent, uncached]
  all_goals exact Iff.rfl

theorem Accounted.deliversIfAny_iff
    {event : Event}
    (accounted : state.Accounted)
    (reaches : state.ReachesOwn fnmatch event) :
    state.ResizeDeliversIfAny fnmatch event ↔
      state.CacheCurrentIfAny event := by
  rcases event with (_ | _ | ⟨id, size, fails⟩ | _) | _
  case call.resize =>
    have delivers := accounted.delivers_iff reaches
    simp only [ResizeDelivers, CacheCurrent, resize_of_reachesOwn reaches]
      at delivers
    simp only [ResizeDeliversIfAny, CacheCurrentIfAny,
      resize_of_reachesOwn reaches]
    rcases sizes_resize state.host id size fails with
      ⟨cached, skipped⟩ | ⟨uncached, failed⟩ | ⟨uncached, sent, _, _, _, sizes⟩
    · -- The host is unchanged, so whether a tmux session exists is too.
      simp only [skipped, cached, true_and, forall_true_left] at delivers ⊢
      tauto
    · simp [failed, uncached]
    · simp [Host.Delivered, sizes, sent, uncached]
  all_goals exact Iff.rfl

/-- Along every run, all successful `Resize` calls are delivered exactly when
each command reaches the session of its own id and none of them finds its size
cached from a tmux session that has been lost.  Where the commands reach their
own sessions, those that find no tmux session may be left out on both sides. -/
theorem resize_delivers_iff_cacheCurrent
    (fnmatch : String → String → Bool)
    (server : Server)
    (events : List Event) :
    (Follows (step fnmatch) (ResizeDelivers fnmatch) (start server) events ↔
        Follows (step fnmatch)
          (fun state event =>
            state.ReachesOwn fnmatch event ∧ state.CacheCurrent event)
          (start server) events) ∧
      (Follows (step fnmatch)
          (fun state event => state.ReachesOwn fnmatch event ∧
            state.ResizeDeliversIfAny fnmatch event)
          (start server) events ↔
        Follows (step fnmatch)
          (fun state event =>
            state.ReachesOwn fnmatch event ∧ state.CacheCurrentIfAny event)
          (start server) events) := by
  constructor
  · refine Follows.congr_of_kept ?_ ?_ (Accounted.start server)
    · exact fun state event next accounted delivers =>
        accounted.step (reachesOwn_of_delivers delivers)
    · intro state event accounted
      refine ⟨fun delivers => ?_, fun condition => ?_⟩
      · have reaches := reachesOwn_of_delivers delivers
        exact ⟨reaches, (accounted.delivers_iff reaches).mp delivers⟩
      · exact (accounted.delivers_iff condition.1).mpr condition.2
  · refine Follows.congr_of_kept ?_ ?_ (Accounted.start server)
    · exact fun state event next accounted delivers =>
        accounted.step delivers.1
    · exact fun state event accounted =>
        and_congr_right fun reaches => accounted.deliversIfAny_iff reaches

/-- A shell exits, its client attaches to a new one and sends its size again. -/
def resizeAfterExit : List Event :=
  [.call (.attach ⟨0, "a", ⟨120, 40⟩, ⟨false, false⟩⟩),
    .call (.resize "a" ⟨80, 24⟩ false),
    .sessionEnds "a",
    .call (.detach "a" 0),
    .call (.attach ⟨1, "a", ⟨120, 40⟩, ⟨false, false⟩⟩),
    .call (.resize "a" ⟨80, 24⟩ false)]

/-- The new shell is never sent the size that `Resize` reports as set. -/
theorem not_delivers_resizeAfterExit :
    ¬∀ fnmatch server events,
      Follows (step fnmatch) (ResizeDeliversIfAny fnmatch) (start server)
        events := by
  intro delivers
  exact absurd (delivers Resolving.literal Server.fresh resizeAfterExit)
    (by decide)

end Sequential
end Tmux
end LociTerm
