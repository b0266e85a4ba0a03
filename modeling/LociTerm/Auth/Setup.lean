import LociTerm.Auth.Manager
import LociTerm.Library.Run
import LociTerm.Store.Sqlite

/-!
# Setting the first password

`Setup` asks whether a password is stored, hashes the one it is sent, and
stores the hash.  Requests are interleaved between the store calls, which all
succeed.  No other handler stores a hash.
-/

namespace LociTerm
namespace Auth

open Store

/-- Where a `Setup` request stands once `HasPassword` has reported none. -/
inductive SetupStage
  /-- The body and its hash are next. -/
  | checked
  /-- `SetPasswordHash` is next. -/
  | hashed (hash : String)
  /-- `createSession` is next. -/
  | stored
  deriving DecidableEq

/-- The answer to a `Setup` request. -/
inductive SetupAnswer
  /-- `{ ok: true }`, with a session cookie. -/
  | ok (token : String)
  | error (status : Nat) (message : String)
  deriving DecidableEq

/-- The server with the `Setup` requests under way. -/
structure SetupServer where
  now : Nat
  db : Database
  auth : Manager
  requests : Table Nat SetupStage
  answers : List (Nat × SetupAnswer)
  deriving DecidableEq

/-- One step of a request. -/
inductive SetupAction
  | clock (later : Nat)
  | hasPassword (id : Nat)
  /-- The body is decoded, if it can be, and what it holds is hashed, which
  fails when it is too long. -/
  | generateFromPassword (id : Nat) (password hash : Option String)
  | setPasswordHash (id : Nat)
  | createSession (id : Nat) (token : String)
  deriving DecidableEq

namespace SetupServer

/-- A new server without a password. -/
def start : SetupServer :=
  { now := 0
    db := Database.empty
    auth := Manager.new
    requests := Table.empty
    answers := [] }

/-- The request is answered. -/
def answer (server : SetupServer) (id : Nat) (answer : SetupAnswer) :
    SetupServer :=
  { server with
    requests := server.requests.erase id
    answers := (id, answer) :: server.answers }

/-- The request moves on. -/
def proceed (server : SetupServer) (id : Nat) (stage : SetupStage) :
    SetupServer :=
  { server with requests := server.requests.set id stage }

/-- `Setup` with the decoded body and the hash. -/
def generateFromPassword
    (server : SetupServer)
    (id : Nat)
    (password hash : Option String) : SetupServer :=
  if password.getD "" = "" then
    server.answer id (.error 400 "password is required")
  else
    match hash with
    | none => server.answer id (.error 500 "failed to hash password")
    | some hash => server.proceed id (.hashed hash)

/-- `Setup` with `SetPasswordHash`. -/
def setPasswordHash (server : SetupServer) (id : Nat) (hash : String) :
    SetupServer :=
  { server with
    db := server.db.setPasswordHash hash
    requests := server.requests.set id .stored }

/-- `Setup` with `createSession`, `setCookie` and its answer. -/
def createSession (server : SetupServer) (id : Nat) (token : String) :
    SetupServer :=
  { server with
    auth := server.auth.createSession token server.now
    requests := server.requests.erase id
    answers := (id, .ok token) :: server.answers }

/-- The step relation. -/
def step (server : SetupServer) : SetupAction → Option SetupServer
  | .clock later =>
      if server.now ≤ later then some { server with now := later } else none
  | .hasPassword id =>
      if (server.requests.get? id).isSome then none
      else if server.db.hasPassword then
        some (server.answer id (.error 400 "password already configured"))
      else some (server.proceed id .checked)
  | .generateFromPassword id password hash =>
      match server.requests.get? id with
      | some .checked => some (server.generateFromPassword id password hash)
      | _ => none
  | .setPasswordHash id =>
      match server.requests.get? id with
      | some (.hashed hash) => some (server.setPasswordHash id hash)
      | _ => none
  | .createSession id token =>
      match server.requests.get? id with
      | some .stored => some (server.createSession id token)
      | _ => none

/-- How many requests have been answered with a session. -/
def accepted (server : SetupServer) : Nat :=
  server.answers.countP fun (_, answer) =>
    match answer with
    | .ok _ => true
    | .error _ _ => false

/-- No other request has stored a hash since this one asked. -/
def StoresFirst (server : SetupServer) : SetupAction → Prop
  | .setPasswordHash _ => server.db.hasPassword = false
  | _ => True

instance (server : SetupServer) : DecidablePred server.StoresFirst
  | .setPasswordHash _ => inferInstanceAs (Decidable (_ = false))
  | .clock _ | .hasPassword _ | .generateFromPassword _ _ _
  | .createSession _ _ => isTrue trivial

/-! ## One request has stored its hash -/

/-- At most one request is past `SetPasswordHash`, answered or not, and none
without a stored hash. -/
structure Settled (server : SetupServer) : Prop where
  unset : server.db.passwordHash = none →
    server.accepted = 0 ∧ ∀ id, server.requests.get? id ≠ some .stored
  one : ∀ id, server.requests.get? id = some .stored →
    server.accepted = 0 ∧
      ∀ other, server.requests.get? other = some .stored → other = id
  bound : server.accepted ≤ 1

namespace Settled

theorem start : SetupServer.start.Settled where
  unset := fun _ => ⟨rfl, fun _ found => by cases found⟩
  one := fun _ found => by cases found
  bound := by decide

variable {server : SetupServer}

/-- The request comes to a stage before `SetPasswordHash`. -/
theorem proceed
    (settled : server.Settled)
    (id : Nat)
    {stage : SetupStage}
    (early : stage ≠ .stored) :
    (server.proceed id stage).Settled := by
  have before (other : Nat)
      (found : (server.proceed id stage).requests.get? other =
        some .stored) :
      server.requests.get? other = some .stored := by
    simp only [SetupServer.proceed, Table.get?_set] at found
    split at found
    · exact absurd (Option.some.inj found) early
    · exact found
  refine ⟨fun noHash => ?_, fun other found => ?_, settled.bound⟩
  · exact ⟨(settled.unset noHash).1,
      fun other found => (settled.unset noHash).2 other (before other found)⟩
  · obtain ⟨noneAccepted, unique⟩ := settled.one other (before other found)
    exact ⟨noneAccepted, fun third stored => unique third (before third stored)⟩

/-- The request is answered with an error. -/
theorem refuse
    (settled : server.Settled)
    (id status : Nat)
    (message : String) :
    (server.answer id (.error status message)).Settled := by
  have same : (server.answer id (.error status message)).accepted =
      server.accepted := by
    simp [SetupServer.accepted, SetupServer.answer]
  have before (other : Nat)
      (found : (server.answer id (.error status message)).requests.get?
        other = some .stored) :
      server.requests.get? other = some .stored := by
    simp only [SetupServer.answer, Table.get?_erase] at found
    split at found
    · cases found
    · exact found
  refine ⟨fun noHash => ?_, fun other found => ?_, ?_⟩
  · rw [same]
    exact ⟨(settled.unset noHash).1,
      fun other found => (settled.unset noHash).2 other (before other found)⟩
  · rw [same]
    obtain ⟨noneAccepted, unique⟩ := settled.one other (before other found)
    exact ⟨noneAccepted, fun third stored => unique third (before third stored)⟩
  · rw [same]
    exact settled.bound

/-- The first hash is stored. -/
theorem store
    (settled : server.Settled)
    (id : Nat)
    (hash : String)
    (first : server.db.passwordHash = none) :
    (server.setPasswordHash id hash).Settled := by
  obtain ⟨noneAccepted, noneStored⟩ := settled.unset first
  refine ⟨fun noHash => ?_, fun other found => ?_, settled.bound⟩
  · cases noHash
  · have only (third : Nat)
        (stored : (server.setPasswordHash id hash).requests.get? third =
          some .stored) : third = id := by
      simp only [SetupServer.setPasswordHash, Table.get?_set] at stored
      split at stored
      · next same => exact same.symm
      · exact absurd stored (noneStored third)
    refine ⟨noneAccepted, fun third stored => ?_⟩
    rw [only third stored, only other found]

/-- The request that has stored its hash is answered. -/
theorem accept
    (settled : server.Settled)
    {id : Nat}
    {token : String}
    (stored : server.requests.get? id = some .stored) :
    (server.createSession id token).Settled := by
  obtain ⟨noneAccepted, unique⟩ := settled.one id stored
  have once : (server.createSession id token).accepted = 1 := by
    simpa [SetupServer.accepted, SetupServer.createSession] using noneAccepted
  have gone (other : Nat) :
      (server.createSession id token).requests.get? other ≠ some .stored := by
    intro found
    simp only [SetupServer.createSession, Table.get?_erase] at found
    split at found
    · cases found
    · next different => exact different (unique other found).symm
  refine ⟨fun noHash => ?_, fun other found => absurd found (gone other), ?_⟩
  · exact absurd stored ((settled.unset noHash).2 id)
  · exact Nat.le_of_eq once

end Settled

/-- What a step keeps, when every hash that is stored is the first. -/
theorem Settled.step
    {server next : SetupServer}
    {action : SetupAction}
    (settled : server.Settled)
    (first : server.StoresFirst action)
    (stepped : server.step action = some next) :
    next.Settled ∧ ∀ hash, server.db.passwordHash = some hash →
      next.db.passwordHash = some hash := by
  cases action with
  | clock later =>
      simp only [SetupServer.step] at stepped
      split at stepped <;> cases stepped
      exact ⟨⟨settled.unset, settled.one, settled.bound⟩, fun _ kept => kept⟩
  | hasPassword id =>
      simp only [SetupServer.step] at stepped
      split at stepped
      · cases stepped
      · split at stepped <;> cases stepped
        · exact ⟨settled.refuse id _ _, fun _ kept => kept⟩
        · exact ⟨settled.proceed id (by simp), fun _ kept => kept⟩
  | generateFromPassword id password hash =>
      simp only [SetupServer.step] at stepped
      split at stepped <;> cases stepped
      unfold SetupServer.generateFromPassword
      split
      · exact ⟨settled.refuse id _ _, fun _ kept => kept⟩
      · split
        · exact ⟨settled.refuse id _ _, fun _ kept => kept⟩
        · exact ⟨settled.proceed id (by simp), fun _ kept => kept⟩
  | setPasswordHash id =>
      simp only [SetupServer.step] at stepped
      split at stepped <;> cases stepped
      next hash found =>
        have noHash : server.db.passwordHash = none := by
          simpa [StoresFirst, Database.hasPassword] using first
        refine ⟨settled.store id hash noHash, fun other kept => ?_⟩
        rw [noHash] at kept
        cases kept
  | createSession id token =>
      simp only [SetupServer.step] at stepped
      split at stepped <;> cases stepped
      next stored => exact ⟨settled.accept stored, fun _ kept => kept⟩

/-! ## Whole runs -/

/-- When no request stores a hash after another has since its check, at most
one is answered with a session, and the first stored hash stays. -/
theorem first_password_wins
    {actions rest : List SetupAction}
    {middle final : SetupServer}
    (first : Follows step StoresFirst start (actions ++ rest))
    (ran : run step start actions = some middle)
    (ranOn : run step middle rest = some final) :
    final.accepted ≤ 1 ∧ ∀ hash, middle.db.passwordHash = some hash →
      final.db.passwordHash = some hash := by
  obtain ⟨firstBefore, firstAfter⟩ := (Follows.append_iff ran).mp first
  have settled : middle.Settled :=
    invariant_of_run
      (fun _ _ _ settled first stepped => (Settled.step settled first stepped).1)
      Settled.start firstBefore ran
  have preserved : ∀ (server : SetupServer) action next,
      (server.Settled ∧ ∀ hash, middle.db.passwordHash = some hash →
        server.db.passwordHash = some hash) → server.StoresFirst action →
      server.step action = some next →
      next.Settled ∧ ∀ hash, middle.db.passwordHash = some hash →
        next.db.passwordHash = some hash := by
    rintro server action next ⟨settled, kept⟩ first stepped
    obtain ⟨settledNext, keptNext⟩ := Settled.step settled first stepped
    exact ⟨settledNext, fun hash stored => keptNext hash (kept hash stored)⟩
  obtain ⟨settledFinal, kept⟩ := invariant_of_run preserved
    ⟨settled, fun _ stored => stored⟩ firstAfter ranOn
  exact ⟨settledFinal.bound, kept⟩

/-- The second request asks after the first has stored its hash. -/
def soloRun : List SetupAction :=
  [.hasPassword 1, .generateFromPassword 1 (some "one") (some "hash one"),
    .setPasswordHash 1]

/-- The second request asks, and the first one gets its session. -/
def lateRun : List SetupAction :=
  [.hasPassword 2, .createSession 1 "token one"]

theorem first_password_wins_lateRun :
    ((run step ((run step start soloRun).get (by decide)) lateRun).get
        (by decide)).accepted ≤ 1 ∧
      ∀ hash, ((run step start soloRun).get
          (by decide)).db.passwordHash = some hash →
        ((run step ((run step start soloRun).get (by decide)) lateRun).get
          (by decide)).db.passwordHash = some hash :=
  first_password_wins (by decide) (Option.some_get _).symm
    (Option.some_get _).symm

/-- Both requests ask before either stores its hash. -/
def racingRun : List SetupAction :=
  [.hasPassword 1, .hasPassword 2,
    .generateFromPassword 1 (some "one") (some "hash one"),
    .generateFromPassword 2 (some "two") (some "hash two"),
    .setPasswordHash 1]

/-- The second hash replaces the first, and both get a session. -/
def overtakenRun : List SetupAction :=
  [.setPasswordHash 2, .createSession 1 "token one",
    .createSession 2 "token two"]

/-- Both are answered with a session, and the second hash replaces the first. -/
theorem not_first_password_wins :
    ∃ actions rest middle final, run step start actions = some middle ∧
      run step middle rest = some final ∧ ¬final.accepted ≤ 1 ∧
      ¬∀ hash, middle.db.passwordHash = some hash →
        final.db.passwordHash = some hash := by
  refine ⟨racingRun, overtakenRun, (run step start racingRun).get (by decide),
    (run step ((run step start racingRun).get (by decide)) overtakenRun).get
      (by decide), (Option.some_get _).symm, (Option.some_get _).symm,
    by decide, fun kept => ?_⟩
  exact absurd (kept "hash one" (by decide)) (by decide)

end SetupServer
end Auth
end LociTerm
