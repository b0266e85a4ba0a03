import LociTerm.Client.Terminal

/-!
# One live socket

An instance keeps the latest of its sockets only, so an earlier one that is
still live would go on writing to the terminal unseen.  `connectWebSocket` is
guarded by a flag and by the ready state of that latest socket.  The flag is
cleared by the events of any socket, while a ticket request is under way, and
then the guard lets a second attempt pass.
-/

namespace LociTerm
namespace Client
namespace Terminal

/-- The socket at this place is `CONNECTING` or `OPEN`. -/
def LiveAt (t : Terminal) (k : Nat) : Prop :=
  ∃ socket, t.sockets[k]? = some socket ∧ socket.Live

/-- At most one of the sockets is live, and if there is one it is `inst.ws`. -/
structure OneLive (t : Terminal) : Prop where
  unique : ∀ j k, t.LiveAt j → t.LiveAt k → j = k
  current : ∀ k, t.LiveAt k → t.ws = some k

/-- No attempt passes the guard of `connectWebSocket` while another one waits
for its ticket. -/
def AttemptsAlone (t : Terminal) : TerminalEvent → Prop
  | .effect _ =>
      (t.ws = none ∨ t.readyState = some .closed) → t.passes = true →
        t.tickets = 0
  | .reconnectTimer => t.passes = true → t.tickets = 0
  | _ => True

instance (t : Terminal) : DecidablePred t.AttemptsAlone
  | .effect _ => inferInstanceAs (Decidable (_ → _))
  | .reconnectTimer => inferInstanceAs (Decidable (_ → _))
  | .cleanup | .layout _ | .resizeObserver | .resizeDebounce | .ticketArrives
  | .ticketFails | .socketOpen _ | .socketAttached _ | .socketClosing _
  | .socketError _ | .socketClose _ | .dispose =>
      inferInstanceAs (Decidable True)

/-! ## What a step does to the sockets -/

/-- A live socket at the current place shows in the ready state. -/
theorem not_passes_of_liveAt
    {t : Terminal}
    {k : Nat}
    (current : t.ws = some k)
    (live : t.LiveAt k) :
    t.passes = false := by
  obtain ⟨socket, found, connecting | opened⟩ := live
  · simp [passes, readyState, Terminal.socket, current, found, connecting]
  · simp [passes, readyState, Terminal.socket, current, found, opened]

/-- Changing a socket makes none live that was not. -/
theorem LiveAt.of_modifySocket
    {t : Terminal}
    {k j : Nat}
    {change : Socket → Socket}
    (keeps : ∀ socket, t.sockets[k]? = some socket →
      (change socket).Live → socket.Live)
    (live : (t.modifySocket k change).LiveAt j) :
    t.LiveAt j := by
  obtain ⟨changed, found, alive⟩ := live
  simp only [modifySocket, List.getElem?_modify] at found
  split at found
  · rename_i place
    subst place
    obtain ⟨socket, here, rfl⟩ := Option.map_eq_some_iff.mp found
    exact ⟨socket, here, keeps socket here alive⟩
  · obtain ⟨socket, here, rfl⟩ := Option.map_eq_some_iff.mp found
    exact ⟨socket, here, alive⟩

/-- Nothing is asked for, and no socket becomes live. -/
structure Quiet (t next : Terminal) : Prop where
  ws : next.ws = t.ws
  tickets : next.tickets ≤ t.tickets
  live : ∀ k, next.LiveAt k → t.LiveAt k

/-- Every other field may change. -/
theorem Quiet.of_fields
    {t next : Terminal}
    (ws : next.ws = t.ws)
    (tickets : next.tickets ≤ t.tickets)
    (sockets : next.sockets = t.sockets) :
    Quiet t next :=
  ⟨ws, tickets, fun k live => by simpa [LiveAt, sockets] using live⟩

variable {t u : Terminal}

theorem Quiet.modifySocket
    (quiet : Quiet t u)
    {k : Nat}
    {change : Socket → Socket}
    (keeps : ∀ socket, u.sockets[k]? = some socket →
      (change socket).Live → socket.Live) :
    Quiet t (u.modifySocket k change) :=
  ⟨quiet.ws, quiet.tickets,
    fun j live => quiet.live j (LiveAt.of_modifySocket keeps live)⟩

theorem Quiet.sendResize (quiet : Quiet t u) (dims : Dimensions) :
    Quiet t (u.sendResize dims) := by
  unfold Terminal.sendResize
  split
  · split
    · have sent : Quiet t { u with lastSent := some dims } :=
        ⟨quiet.ws, quiet.tickets, quiet.live⟩
      exact sent.modifySocket fun _ _ live => live
    · exact quiet
  · exact quiet

/-- An attempt has passed the guard and asks for its ticket. -/
structure Asks (t next : Terminal) : Prop where
  passes : t.passes = true
  ws : next.ws = t.ws
  tickets : next.tickets = t.tickets + 1
  sockets : next.sockets = t.sockets

/-- A ticket has arrived, and the socket for it is created. -/
structure Creates (t next : Terminal) : Prop where
  waiting : 0 < t.tickets
  ws : next.ws = some t.sockets.length
  tickets : next.tickets = t.tickets - 1
  sockets : next.sockets = t.sockets ++ [⟨.connecting, false, []⟩]

theorem Quiet.onattached (t : Terminal) (k : Nat) :
    Quiet t (t.onattached k) := by
  have attached : Quiet t { t with attached := true } :=
    Quiet.of_fields rfl (Nat.le_refl _) rfl
  have told :
      Quiet t ({ t with attached := true }.modifySocket k fun socket =>
        { socket with told := true }) :=
    attached.modifySocket fun _ _ live => live
  exact onattached_keeps told fun _ dims quiet => quiet.sendResize dims

theorem Quiet.onResizeDebounce (t : Terminal) :
    Quiet t t.onResizeDebounce := by
  have cleared : Quiet t { t with resizeDebounceTimer := false } :=
    Quiet.of_fields rfl (Nat.le_refl _) rfl
  exact onResizeDebounce_keeps cleared fun _ dims quiet => quiet.sendResize dims

theorem Quiet.onResizeObserver (t : Terminal) :
    Quiet t t.onResizeObserver := by
  unfold Terminal.onResizeObserver
  dsimp only
  split
  · split
    · exact Quiet.of_fields rfl (Nat.le_refl _) rfl
    · exact Quiet.of_fields rfl (Nat.le_refl _) rfl
  · exact Quiet.of_fields rfl (Nat.le_refl _) rfl

theorem Quiet.dispose (t : Terminal) : Quiet t t.dispose := by
  have removed : Quiet t
      { t with
        reconnectTimer := false
        resizeDebounceTimer := false
        mounted := false
        registered := false } :=
    Quiet.of_fields rfl (Nat.le_refl _) rfl
  unfold Terminal.dispose
  dsimp only
  split
  · refine removed.modifySocket fun socket _ live => ?_
    by_contra dead
    rw [if_neg dead] at live
    exact dead live
  · exact removed

/-- A step asks for a ticket, creates a socket or does neither. -/
theorem step_cases
    {t next : Terminal}
    {event : TerminalEvent}
    (stepped : t.step event = some next) :
    Quiet t next ∨ Creates t next ∨
      (Asks t next ∧ (t.AttemptsAlone event → t.tickets = 0)) := by
  unfold step at stepped
  split at stepped
  · rename_i enabled
    cases stepped
    cases event with
    | effect container =>
        simp only [handle, effect]
        split
        · rename_i closed
          rcases connectWebSocket_cases (t.mount container) with
            ⟨passes, asks⟩ | same
          · rw [asks]
            exact .inr (.inr ⟨⟨passes, rfl, rfl, rfl⟩,
              fun alone => alone closed passes⟩)
          · rw [same]
            exact .inl (Quiet.of_fields rfl (Nat.le_refl _) rfl)
        · exact .inl (Quiet.of_fields rfl (Nat.le_refl _) rfl)
    | cleanup => exact .inl (Quiet.of_fields rfl (Nat.le_refl _) rfl)
    | layout container => exact .inl (Quiet.of_fields rfl (Nat.le_refl _) rfl)
    | resizeObserver => exact .inl (Quiet.onResizeObserver t)
    | resizeDebounce => exact .inl (Quiet.onResizeDebounce t)
    | ticketArrives =>
        simp only [handle, ticketArrives]
        split
        · exact .inr (.inl ⟨enabled, rfl, rfl, rfl⟩)
        · exact .inl (Quiet.of_fields rfl (Nat.sub_le _ _) rfl)
    | ticketFails => exact .inl (Quiet.of_fields rfl (Nat.sub_le _ _) rfl)
    | socketOpen k =>
        have opens : Quiet t
            { t with
              connecting := false
              reconnectAttempts := 0
              attached := false } :=
          Quiet.of_fields rfl (Nat.le_refl _) rfl
        refine .inl (opens.modifySocket fun socket found _ => .inl ?_)
        simpa [Enabled, stateOf, found] using enabled
    | socketAttached k => exact .inl (Quiet.onattached t k)
    | socketClosing k =>
        have same : Quiet t t := Quiet.of_fields rfl (Nat.le_refl _) rfl
        refine .inl (same.modifySocket ?_)
        rintro socket _ (closing | closing)
        · cases closing
        · cases closing
    | socketError k => exact .inl (Quiet.of_fields rfl (Nat.le_refl _) rfl)
    | socketClose k =>
        have cleared : Quiet t { t with connecting := false } :=
          Quiet.of_fields rfl (Nat.le_refl _) rfl
        have closes :
            Quiet t ({ t with connecting := false }.modifySocket k
              fun socket => { socket with readyState := .closed }) := by
          refine cleared.modifySocket ?_
          rintro socket _ (closed | closed)
          · cases closed
          · cases closed
        exact .inl ⟨closes.ws, closes.tickets, closes.live⟩
    | reconnectTimer =>
        simp only [handle, onReconnectTimer]
        split
        · rcases connectWebSocket_cases { t with reconnectTimer := false } with
            ⟨passes, asks⟩ | same
          · rw [asks]
            exact .inr (.inr ⟨⟨passes, rfl, rfl, rfl⟩,
              fun alone => alone passes⟩)
          · rw [same]
            exact .inl (Quiet.of_fields rfl (Nat.le_refl _) rfl)
        · exact .inl (Quiet.of_fields rfl (Nat.le_refl _) rfl)
    | dispose => exact .inl (Quiet.dispose t)
  · cases stepped

/-! ## One attempt at a time -/

/-- At most one attempt is under way, and while one waits for its ticket no
socket is live. -/
structure Single (t : Terminal) : Prop where
  current : ∀ k, t.LiveAt k → t.ws = some k
  tickets : t.tickets ≤ 1
  waiting : 0 < t.tickets → ∀ k, ¬ t.LiveAt k

namespace Single

theorem createInstance : createInstance.Single where
  current := by simp [LiveAt, Terminal.createInstance]
  tickets := by simp [Terminal.createInstance]
  waiting := by simp [Terminal.createInstance]

theorem quiet (single : t.Single) (quiet : Quiet t u) : u.Single where
  current k live := quiet.ws.trans (single.current k (quiet.live k live))
  tickets := Nat.le_trans quiet.tickets single.tickets
  waiting := by
    intro waits k live
    exact single.waiting (Nat.lt_of_lt_of_le waits quiet.tickets) k
      (quiet.live k live)

/-- The only attempt under way becomes the only live socket. -/
theorem creates (single : t.Single) (creates : Creates t u) : u.Single where
  current := by
    rintro k ⟨socket, found, live⟩
    rw [creates.sockets] at found
    rcases Nat.lt_trichotomy k t.sockets.length with before | rfl | after
    · rw [List.getElem?_append_left before] at found
      exact absurd ⟨socket, found, live⟩ (single.waiting creates.waiting k)
    · exact creates.ws
    · rw [List.getElem?_eq_none (by simp; omega)] at found
      cases found
  tickets := by
    have most := single.tickets
    rw [creates.tickets]
    omega
  waiting := by
    intro waits
    have most := single.tickets
    rw [creates.tickets] at waits
    omega

/-- The guard has seen that no socket is live. -/
theorem asks
    (single : t.Single)
    (asks : Asks t u)
    (alone : t.tickets = 0) :
    u.Single := by
  have dead (k : Nat) : ¬ u.LiveAt k := by
    rintro ⟨socket, found, live⟩
    rw [asks.sockets] at found
    have here : t.LiveAt k := ⟨socket, found, live⟩
    have passes := asks.passes
    rw [not_passes_of_liveAt (single.current k here) here] at passes
    cases passes
  exact
    { current := fun k live => absurd live (dead k)
      tickets := by simp [asks.tickets, alone]
      waiting := fun _ => dead }

theorem step
    {event : TerminalEvent}
    (single : t.Single)
    (alone : t.AttemptsAlone event)
    (stepped : t.step event = some u) :
    u.Single := by
  rcases step_cases stepped with quiet | creates | ⟨asks, waits⟩
  · exact single.quiet quiet
  · exact single.creates creates
  · exact single.asks asks (waits alone)

theorem oneLive (single : t.Single) : t.OneLive where
  unique j k first second := by
    have same := (single.current j first).symm.trans (single.current k second)
    exact Option.some.inj same
  current := single.current

end Single

/-! ## The instance that is not disposed -/

/-- While every attempt passes the guard alone, an instance has at most one
live socket, and that is `inst.ws`. -/
theorem oneLive_of_attemptsAlone
    {events : List TerminalEvent}
    {final : Terminal}
    (alone : Follows Terminal.step AttemptsAlone createInstance events)
    (ran : run Terminal.step createInstance events = some final) :
    final.registered = true → final.OneLive := by
  intro _
  have single : final.Single :=
    invariant_of_run
      (fun _ _ _ single alone stepped => single.step alone stepped)
      Single.createInstance alone ran
  exact single.oneLive

/-- The ticket request fails once and is made again, the socket opens and is
lost, and the reconnect succeeds. -/
def reconnectingRun : List TerminalEvent :=
  [.effect (some ⟨80, 24⟩), .ticketFails, .reconnectTimer, .ticketArrives,
    .socketOpen 0, .socketAttached 0, .socketClose 0, .reconnectTimer,
    .ticketArrives, .socketOpen 1]

theorem oneLive_reconnectingRun :
    ((run Terminal.step createInstance reconnectingRun).get
      (by decide)).OneLive :=
  oneLive_of_attemptsAlone (by decide) (Option.some_get _).symm (by decide)

/-! ## Attempts that overlap -/

/-- An attempt that passes the guard while another one waits. -/
theorem tickets_of_not_attemptsAlone
    {event : TerminalEvent}
    (registered : t.registered = true)
    (overlaps : ¬ t.AttemptsAlone event)
    (stepped : t.step event = some u) :
    u.registered = true ∧ 2 ≤ u.tickets := by
  unfold Terminal.step at stepped
  split at stepped
  · cases stepped
    cases event with
    | effect container =>
        obtain ⟨closed, passes, waits⟩ :
            (t.ws = none ∨ t.readyState = some .closed) ∧ t.passes = true ∧
              t.tickets ≠ 0 := by
          simpa only [AttemptsAlone, Classical.not_imp] using overlaps
        have begins : (t.mount container).passes = true := passes
        simp only [handle, effect]
        rw [if_pos closed, connectWebSocket, if_pos begins]
        exact ⟨registered, Nat.succ_le_succ (Nat.pos_of_ne_zero waits)⟩
    | reconnectTimer =>
        obtain ⟨passes, waits⟩ : t.passes = true ∧ t.tickets ≠ 0 := by
          simpa only [AttemptsAlone, Classical.not_imp] using overlaps
        have begins : Terminal.passes { t with reconnectTimer := false } = true :=
          passes
        simp only [handle, onReconnectTimer]
        rw [if_pos registered, connectWebSocket, if_pos begins]
        exact ⟨registered, Nat.succ_le_succ (Nat.pos_of_ne_zero waits)⟩
    | cleanup | layout container | resizeObserver | resizeDebounce
    | ticketArrives | ticketFails | socketOpen k | socketAttached k
    | socketClosing k | socketError k | socketClose k | dispose =>
        exact absurd trivial overlaps
  · cases stepped

/-- A step that the condition leaves out reaches two live sockets as soon as
both tickets arrive. -/
theorem not_oneLive_of_not_attemptsAlone
    {event : TerminalEvent}
    (registered : t.registered = true)
    (overlaps : ¬ t.AttemptsAlone event)
    (stepped : t.step event = some u) :
    ∃ final, run Terminal.step u [.ticketArrives, .ticketArrives] = some final ∧
      final.registered = true ∧ ¬ final.OneLive := by
  obtain ⟨stays, waits⟩ :=
    tickets_of_not_attemptsAlone registered overlaps stepped
  have first : 0 < u.tickets := by omega
  have second : 0 < u.tickets - 1 := by omega
  refine ⟨u.ticketArrives.ticketArrives, ?_, ?_, fun live => ?_⟩
  · simp [run, Terminal.step, Enabled, handle, Terminal.ticketArrives, stays,
      first, second]
  · simp [Terminal.ticketArrives, stays]
  · have same : u.sockets.length = u.sockets.length + 1 := by
      refine live.unique _ _ ⟨⟨.connecting, false, []⟩, ?_, .inl rfl⟩
        ⟨⟨.connecting, false, []⟩, ?_, .inl rfl⟩
      · simp [Terminal.ticketArrives, stays]
      · simp [Terminal.ticketArrives, stays]
    exact absurd same (by omega)

/-- The tab is selected again before the timer of the failed request fires.
Its socket opens and is being closed when the timer fires, so another attempt
begins; the end of the first socket clears the flag of that attempt. -/
def overlappingRun : List TerminalEvent :=
  [.effect (some ⟨80, 24⟩), .ticketFails, .cleanup, .effect (some ⟨80, 24⟩),
    .ticketArrives, .socketOpen 0, .socketClosing 0, .reconnectTimer,
    .socketClose 0, .reconnectTimer, .ticketArrives, .ticketArrives]

/-- Two attempts under way lead to two live sockets. -/
theorem not_oneLive_overlappingRun :
    ¬ ∀ events final,
      run Terminal.step createInstance events = some final →
        final.registered = true → final.OneLive := by
  intro always
  have live := always overlappingRun _ (Option.some_get (by decide)).symm
    (by decide)
  have same : 1 = 2 :=
    live.unique 1 2 ⟨⟨.connecting, false, []⟩, by decide, .inl rfl⟩
      ⟨⟨.connecting, false, []⟩, by decide, .inl rfl⟩
  exact absurd same (by decide)

end Terminal
end Client
end LociTerm
