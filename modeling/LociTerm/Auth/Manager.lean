import LociTerm.Library.Table

/-!
# The auth manager

Session tokens and WebSocket tickets with their expiry times.  Each operation
is one section under the manager's mutex; `validateSession` reads under one
lock and deletes under another.  Times are in nanoseconds.
-/

namespace LociTerm
namespace Auth

/-- `7 * 24 * time.Hour` -/
def sessionLifetime : Nat := 7 * 24 * 3600 * 1000000000

/-- `30 * time.Second` -/
def ticketLifetime : Nat := 30 * 1000000000

/-- `authManager` -/
structure Manager where
  sessions : Table String Nat
  wsTickets : Table String Nat
  deriving DecidableEq

namespace Manager

/-- `newAuthManager` -/
def new : Manager := ⟨Table.empty, Table.empty⟩

/-- `createSession`, with the token it draws. -/
def createSession (manager : Manager) (token : String) (now : Nat) :
    Manager :=
  { manager with
    sessions := manager.sessions.set token (now + sessionLifetime) }

/-- The first section of `validateSession`. -/
def lookupSession (manager : Manager) (token : String) : Option Nat :=
  manager.sessions.get? token

/-- `time.Now().After(expiry)` -/
def after (now expiry : Nat) : Bool := expiry < now

/-- `time.Now().Before(expiry)` -/
def before (now expiry : Nat) : Bool := now < expiry

/-- `deleteSession`, and the second section of `validateSession`. -/
def deleteSession (manager : Manager) (token : String) : Manager :=
  { manager with sessions := manager.sessions.erase token }

/-- `validateSession` without other goroutines. -/
def validateSession (manager : Manager) (token : String) (now : Nat) :
    Manager × Bool :=
  match manager.lookupSession token with
  | none => (manager, false)
  | some expiry =>
      if after now expiry then (manager.deleteSession token, false)
      else (manager, true)

/-- `createWebSocketTicket`, with the token it draws. -/
def createWebSocketTicket
    (manager : Manager)
    (token : String)
    (now : Nat) : Manager :=
  { manager with
    wsTickets := manager.wsTickets.set token (now + ticketLifetime) }

/-- `consumeWebSocketTicket` -/
def consumeWebSocketTicket
    (manager : Manager)
    (token : String)
    (now : Nat) : Manager × Bool :=
  if token = "" then (manager, false)
  else
    match manager.wsTickets.get? token with
    | none => (manager, false)
    | some expiry =>
        ({ manager with wsTickets := manager.wsTickets.erase token },
          before now expiry)

/-! ## The two maps are apart -/

@[simp] theorem wsTickets_createSession
    (manager : Manager)
    (token : String)
    (now : Nat) :
    (manager.createSession token now).wsTickets = manager.wsTickets := rfl

@[simp] theorem wsTickets_deleteSession
    (manager : Manager)
    (token : String) :
    (manager.deleteSession token).wsTickets = manager.wsTickets := rfl

@[simp] theorem sessions_createWebSocketTicket
    (manager : Manager)
    (token : String)
    (now : Nat) :
    (manager.createWebSocketTicket token now).sessions =
      manager.sessions := rfl

@[simp] theorem sessions_consumeWebSocketTicket
    (manager : Manager)
    (token : String)
    (now : Nat) :
    (manager.consumeWebSocketTicket token now).1.sessions =
      manager.sessions := by
  unfold consumeWebSocketTicket
  split
  · rfl
  · split <;> rfl

/-- A lookup removes the ticket, accepted or not. -/
theorem wsTickets_consumeWebSocketTicket
    (manager : Manager)
    {token : String}
    (now : Nat)
    (nonempty : token ≠ "")
    (other : String) :
    (manager.consumeWebSocketTicket token now).1.wsTickets.get? other =
      if token = other then none else manager.wsTickets.get? other := by
  unfold consumeWebSocketTicket
  rw [if_neg nonempty]
  split
  · next absent =>
      by_cases same : token = other
      · simp [← same, absent]
      · simp [same]
  · exact Table.get?_erase _ _ _

/-! ## Entries come from the two `create` operations alone -/

/-- No entry is new. -/
structure Within (smaller larger : Manager) : Prop where
  sessions : ∀ token expiry, smaller.sessions.get? token = some expiry →
    larger.sessions.get? token = some expiry
  wsTickets : ∀ ticket expiry, smaller.wsTickets.get? ticket = some expiry →
    larger.wsTickets.get? ticket = some expiry

theorem Within.refl (manager : Manager) : manager.Within manager :=
  ⟨fun _ _ entry => entry, fun _ _ entry => entry⟩

theorem Within.trans
    {first second third : Manager}
    (left : first.Within second)
    (right : second.Within third) :
    first.Within third where
  sessions token expiry entry :=
    right.sessions token expiry (left.sessions token expiry entry)
  wsTickets ticket expiry entry :=
    right.wsTickets ticket expiry (left.wsTickets ticket expiry entry)

theorem deleteSession_within (manager : Manager) (token : String) :
    (manager.deleteSession token).Within manager where
  sessions other expiry entry := by
    simp only [deleteSession, Table.get?_erase] at entry
    split at entry
    · cases entry
    · exact entry
  wsTickets _ _ entry := entry

theorem validateSession_within
    (manager : Manager)
    (token : String)
    (now : Nat) :
    (manager.validateSession token now).1.Within manager := by
  unfold validateSession
  split
  · exact Within.refl manager
  · split
    · exact manager.deleteSession_within token
    · exact Within.refl manager

theorem consumeWebSocketTicket_within
    (manager : Manager)
    (token : String)
    (now : Nat) :
    (manager.consumeWebSocketTicket token now).1.Within manager := by
  refine ⟨fun other expiry entry => by simpa using entry, ?_⟩
  intro other expiry entry
  by_cases empty : token = ""
  · simpa [consumeWebSocketTicket, empty] using entry
  · rw [wsTickets_consumeWebSocketTicket manager now empty] at entry
    split at entry
    · cases entry
    · exact entry

/-! ## Which tokens are accepted -/

/-- `validateSession` accepts the tokens whose entry has not expired. -/
theorem validateSession_iff
    {manager : Manager}
    {token : String}
    {now : Nat} :
    (manager.validateSession token now).2 = true ↔
      ∃ expiry, manager.sessions.get? token = some expiry ∧
        now ≤ expiry := by
  unfold validateSession lookupSession
  cases entry : manager.sessions.get? token with
  | none => simp
  | some expiry =>
      by_cases expired : expiry < now
      · simp [after, expired]
      · simp [after, expired, Nat.le_of_not_lt expired]

/-- `consumeWebSocketTicket` accepts the tickets whose entry has not
expired. -/
theorem consumeWebSocketTicket_iff
    {manager : Manager}
    {token : String}
    {now : Nat} :
    (manager.consumeWebSocketTicket token now).2 = true ↔
      token ≠ "" ∧ ∃ expiry, manager.wsTickets.get? token = some expiry ∧
        now < expiry := by
  unfold consumeWebSocketTicket
  by_cases empty : token = ""
  · simp [empty]
  · cases entry : manager.wsTickets.get? token <;> simp [empty, before]

end Manager
end Auth
end LociTerm
