import Mathlib.Data.List.Basic

/-!
# What the gate reads of a request

The session cookie, the headers of a WebSocket upgrade, and the ticket of the
query.
-/

namespace LociTerm
namespace Auth

/-- The parts of an `http.Request` that `requireAuth` reads. -/
structure Request where
  /-- The cookies by name, in the order of the headers. -/
  cookies : List (String × String)
  /-- `r.Header.Get("Upgrade")` -/
  upgrade : String
  /-- `r.Header.Get("Connection")` -/
  connection : String
  /-- The query parameters, in order. -/
  query : List (String × String)
  deriving DecidableEq

/-- Simple case folding of a character, as far as it leads to ASCII: besides
the capitals, the Kelvin sign folds to `k` and the long s to `s`. -/
def foldChar (c : Char) : Char :=
  if 'A' ≤ c ∧ c ≤ 'Z' then Char.ofNat (c.toNat + 32)
  else if c.toNat = 0x212A then 'k'
  else if c.toNat = 0x017F then 's'
  else c

/-- `strings.EqualFold` when the right operand is of ASCII characters. -/
def equalFold (left right : List Char) : Bool :=
  left.map foldChar = right.map foldChar

/-- `unicode.IsSpace` -/
def isSpace (c : Char) : Bool :=
  [0x09, 0x0A, 0x0B, 0x0C, 0x0D, 0x20, 0x85, 0xA0, 0x1680, 0x2028, 0x2029,
    0x202F, 0x205F, 0x3000].contains c.toNat ||
    (0x2000 ≤ c.toNat && c.toNat ≤ 0x200A)

/-- `strings.TrimSpace` -/
def trimSpace (text : List Char) : List Char :=
  ((text.dropWhile isSpace).reverse.dropWhile isSpace).reverse

/-- `headerHasToken` -/
def headerHasToken (header token : String) : Bool :=
  (header.toList.splitOn ',').any fun part =>
    equalFold (trimSpace part) token.toList

/-- `isWebSocketUpgrade` -/
def isWebSocketUpgrade (request : Request) : Bool :=
  equalFold request.upgrade.toList "websocket".toList &&
    headerHasToken request.connection "upgrade"

/-- `getTokenFromRequest` -/
def getTokenFromRequest (request : Request) : String :=
  (request.cookies.lookup "lociterm_session").getD ""

/-- `r.URL.Query().Get("ticket")` -/
def ticketParameter (request : Request) : String :=
  (request.query.lookup "ticket").getD ""

/-- A browser's upgrade request and a plain one. -/
example :
    isWebSocketUpgrade ⟨[], "WebSocket", "keep-alive, Upgrade", []⟩ = true ∧
      isWebSocketUpgrade ⟨[], "websocket", "keep-alive", []⟩ = false := by
  decide

end Auth
end LociTerm
