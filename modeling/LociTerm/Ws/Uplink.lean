import LociTerm.Client.Input
import LociTerm.Tmux.Server

/-!
# From the client to the PTY

The loop of `HandleTerminal` that reads the WebSocket, over the messages of a
client: what has been typed reaches the PTY byte for byte, the sizes reach the
PTY and the manager in order, and no other frame does anything to either.
-/

namespace LociTerm
namespace Ws

open Protocol

/-- What the loop from WebSocket to PTY has done. -/
structure Uplink where
  /-- The bytes that `sess.Write` has written to the PTY. -/
  written : Bytes
  /-- The sizes that `sess.Resize` has set. -/
  sizes : List Tmux.Size
  /-- The sizes that have been passed on to `Manager.Resize`. -/
  managed : List Tmux.Size
  pongs : Nat
  running : Bool
  deriving DecidableEq

namespace Uplink

/-- The loop at its start. -/
def start : Uplink := ⟨[], [], [], 0, true⟩

/-- One round of the loop.  The write to the PTY or of a pong may fail: the loop
ignores the one and ends at the other. -/
def step (uplink : Uplink) (input : Message × Bool) : Option Uplink :=
  let (message, fails) := input
  if uplink.running then
    some (match react message with
      | .write data =>
          if fails then uplink
          else { uplink with written := uplink.written ++ data }
      | .resize cols rows =>
          { uplink with
            sizes := uplink.sizes ++ [⟨cols, rows⟩]
            managed := uplink.managed ++ [⟨cols, rows⟩] }
      | .pong =>
          if fails then { uplink with running := false }
          else { uplink with pongs := uplink.pongs + 1 }
      | .nothing => uplink)
  else none

end Uplink

/-- What is sent on an open socket: a string that is well-formed UTF-16, a
binary string of `xterm.js`, a size, or any text frame that asks for none. -/
inductive Sent
  | string (text : List Char)
  | binary (bytes : Bytes)
  | resize (size : Tmux.Size)
  | extra (data : Bytes)

namespace Sent

/-- The message that is sent. -/
def message : Sent → Message
  | string text => Client.sendString (Unicode.utf16 text)
  | binary bytes => Client.onBinary (bytes.map UInt8.toUInt16)
  | resize size => Client.sendResize size.cols.toNat size.rows.toNat
  | extra data => .text data

/-- A size is positive, and an extra frame asks for none. -/
def Valid : Sent → Prop
  | string _ | binary _ => True
  | resize size => 0 < size.cols ∧ 0 < size.rows
  | extra data => Extra data

/-- The bytes that are meant for the PTY. -/
def input : Sent → Bytes
  | string text => Unicode.utf8 text
  | binary bytes => bytes
  | resize _ | extra _ => []

/-- The sizes that are meant for the terminal. -/
def sizes : Sent → List Tmux.Size
  | resize size => [size]
  | string _ | binary _ | extra _ => []

theorem message_string (text : List Char) :
    (string text).message = .binary (Unicode.utf8 text) := by
  rw [message, Client.sendString, Unicode.fromUtf16_utf16]

theorem message_binary (bytes : Bytes) :
    (binary bytes).message = .binary bytes := by
  rw [message, Client.onBinary, List.map_map]
  have same : UInt16.toUInt8 ∘ UInt8.toUInt16 = id := by
    funext b
    exact UInt8.toUInt8_toUInt16 b
  rw [same, List.map_id]

end Sent

namespace Uplink

/-- An extra frame writes nothing, sets no size and does not end the loop. -/
theorem step_extra
    {uplink : Uplink}
    (running : uplink.running = true)
    {data : Bytes}
    (extra : Extra data) :
    ∃ pongs, uplink.step (.text data, false) =
      some { uplink with pongs := pongs } := by
  obtain ⟨written, sizes, managed, pongs, _⟩ := uplink
  cases running
  rcases (extra_iff data).mp extra with nothing | pong
  · exact ⟨pongs, by simp [step, nothing]⟩
  · exact ⟨pongs + 1, by simp [step, pong]⟩

/-- One message of the client. -/
theorem step_sent
    {uplink : Uplink}
    (running : uplink.running = true)
    {sent : Sent}
    (valid : sent.Valid) :
    ∃ pongs, uplink.step (sent.message, false) =
      some
        { written := uplink.written ++ sent.input
          sizes := uplink.sizes ++ sent.sizes
          managed := uplink.managed ++ sent.sizes
          pongs := pongs
          running := true } := by
  cases sent with
  | string text =>
      refine ⟨uplink.pongs, ?_⟩
      rw [Sent.message_string]
      simp [step, running, react, Sent.input, Sent.sizes]
  | binary bytes =>
      refine ⟨uplink.pongs, ?_⟩
      rw [Sent.message_binary]
      simp [step, running, react, Sent.input, Sent.sizes]
  | resize size =>
      refine ⟨uplink.pongs, ?_⟩
      have resized := Client.react_sendResize valid.1 valid.2
      simp [step, running, Sent.message, resized, Sent.input, Sent.sizes]
  | extra data =>
      obtain ⟨pongs, stepped⟩ := step_extra running valid
      refine ⟨pongs, ?_⟩
      rw [Sent.message, stepped]
      simp [running, Sent.input, Sent.sizes]

/-- Every message of the client, from any state of the loop. -/
theorem run_sent
    (uplink : Uplink)
    (running : uplink.running = true)
    {sent : List Sent}
    (valid : ∀ one ∈ sent, one.Valid) :
    ∃ pongs, run step uplink (sent.map fun one => (one.message, false)) =
      some
        { written := uplink.written ++ sent.flatMap Sent.input
          sizes := uplink.sizes ++ sent.flatMap Sent.sizes
          managed := uplink.managed ++ sent.flatMap Sent.sizes
          pongs := pongs
          running := true } := by
  induction sent generalizing uplink with
  | nil => exact ⟨uplink.pongs, by simp [← running]⟩
  | cons first sent inductionHypothesis =>
      obtain ⟨pongs, stepped⟩ :=
        step_sent running (valid first List.mem_cons_self)
      obtain ⟨last, ran⟩ := inductionHypothesis
        { written := uplink.written ++ first.input
          sizes := uplink.sizes ++ first.sizes
          managed := uplink.managed ++ first.sizes
          pongs := pongs
          running := true }
        rfl fun one member => valid one (List.mem_cons_of_mem first member)
      refine ⟨last, ?_⟩
      rw [List.map_cons, run_cons_eq_some]
      refine ⟨_, stepped, ?_⟩
      rw [ran]
      simp [List.flatMap_cons]

/-- What a client sends is what the PTY and the manager receive. -/
theorem delivers_sent
    {sent : List Sent}
    (valid : ∀ one ∈ sent, one.Valid) :
    (∃ after,
      run step start (sent.map fun one => (one.message, false)) = some after ∧
        after.written = sent.flatMap Sent.input ∧
        after.sizes = sent.flatMap Sent.sizes ∧
        after.managed = sent.flatMap Sent.sizes ∧
        after.running = true) ∧
    ∀ uplink : Uplink, uplink.running = true → ∀ data, Extra data →
      ∃ pongs, uplink.step (.text data, false) =
        some { uplink with pongs := pongs } := by
  constructor
  · obtain ⟨pongs, ran⟩ := run_sent start rfl valid
    exact ⟨_, ran, rfl, rfl, rfl, rfl⟩
  · intro uplink running data extra
    exact step_extra running extra

/-- A Korean word, an escape sequence, a mouse report beyond ASCII and a size,
among frames that are no sizes. -/
def typing : List Sent :=
  [.string ['한', '글'], .extra (ascii "\x7b\"type\":\"ping\"\x7d"),
    .binary [27, 91, 77, 200], .extra (ascii "resize"),
    .resize ⟨80, 24⟩,
    .extra (ascii "\x7b\"type\":\"resize\",\"cols\":-1,\"rows\":70000\x7d")]

theorem delivers_sent_typing :
    ∃ after,
      run step start (typing.map fun one => (one.message, false)) = some after ∧
        after.written =
          [237, 149, 156, 234, 184, 128, 27, 91, 77, 200] ∧
        after.sizes = [⟨80, 24⟩] ∧
        after.managed = [⟨80, 24⟩] ∧
        after.running = true :=
  (delivers_sent (by
    intro one member
    simp only [typing, List.mem_cons, List.not_mem_nil, or_false] at member
    rcases member with rfl | rfl | rfl | rfl | rfl | rfl
    · exact trivial
    · exact (extra_iff _).mpr (by decide)
    · exact trivial
    · exact (extra_iff _).mpr (by decide)
    · exact ⟨by decide, by decide⟩
    · exact (extra_iff _).mpr (by decide))).1

end Uplink
end Ws
end LociTerm
