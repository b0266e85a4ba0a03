import LociTerm.Ws.Protocol

/-!
# What a terminal sends

The messages of the browser on an open socket.  A JavaScript string is a list of
UTF-16 code units.
-/

namespace LociTerm
namespace Client

open Ws.Protocol
open Json (Token Mode scan lex parse)

/-- `sendString`: `ws.send(new TextEncoder().encode(data))` -/
def sendString (data : List UInt16) : Message :=
  .binary (Unicode.utf8 (Unicode.fromUtf16 data))

/-- `terminal.onBinary`: one byte for each code unit. -/
def onBinary (data : List UInt16) : Message :=
  .binary (data.map UInt16.toUInt8)

/-- `JSON.stringify({ type: 'resize', cols, rows })` -/
def resizeText (cols rows : Nat) : Bytes :=
  ascii "\x7b\"type\":\"resize\",\"cols\":" ++
    (decimal cols ++ (ascii ",\"rows\":" ++ (decimal rows ++ ascii "\x7d")))

/-- The message of `sendResize`. -/
def sendResize (cols rows : Nat) : Message := .text (resizeText cols rows)

/-! ## How the server reads a resize -/

/-- The members that the client has written. -/
def resizeMembers (cols rows : Nat) : List (String × Json.Value) :=
  [("type", .string "resize"), ("cols", .number (decimal cols)),
    ("rows", .number (decimal rows))]

theorem scan_type :
    scan .between (ascii "\x7b\"type\":\"resize\",\"cols\":") =
      some ([.openObject, .string (ascii "type"), .colon,
        .string (ascii "resize"), .comma, .string (ascii "cols"), .colon],
        .between) := by
  decide

/-- Behind a number, a comma begins the next member. -/
theorem scan_rows (cols : Nat) :
    scan (.number (decimal cols)) (ascii ",\"rows\":") =
      some ([.number (decimal cols), .comma, .string (ascii "rows"), .colon],
        .between) := by
  have comma : Json.advance (.number (decimal cols)) (byte ',') =
      some ([.number (decimal cols), .comma], .between) :=
    Json.advance_behind_decimal (by decide) (by decide) cols
  have rest : scan .between (ascii "\"rows\":") =
      some ([.string (ascii "rows"), .colon], .between) := by
    decide
  change scan _ (byte ',' :: ascii "\"rows\":") = _
  simp [scan, comma, rest]

theorem scan_end (rows : Nat) :
    scan (.number (decimal rows)) (ascii "\x7d") =
      some ([.number (decimal rows), .closeObject], .between) := by
  have brace : Json.advance (.number (decimal rows)) (byte '\x7d') =
      some ([.number (decimal rows), .closeObject], .between) :=
    Json.advance_behind_decimal (by decide) (by decide) rows
  change scan _ (byte '\x7d' :: []) = _
  simp [scan, brace]

theorem lex_resizeText (cols rows : Nat) :
    lex (resizeText cols rows) =
      some [.openObject, .string (ascii "type"), .colon,
        .string (ascii "resize"), .comma, .string (ascii "cols"), .colon,
        .number (decimal cols), .comma, .string (ascii "rows"), .colon,
        .number (decimal rows), .closeObject] := by
  rw [lex, resizeText, Json.scan_append scan_type,
    Json.scan_append (Json.scan_decimal cols),
    Json.scan_append (scan_rows cols),
    Json.scan_append (Json.scan_decimal rows), scan_end]
  rfl

theorem parse_resizeText (cols rows : Nat) :
    parse maxNestingDepth (resizeText cols rows) =
      some (.object (resizeMembers cols rows)) := by
  have type : Json.unquote (ascii "type") = "type" := by decide
  have resize : Json.unquote (ascii "resize") = "resize" := by decide
  have colsKey : Json.unquote (ascii "cols") = "cols" := by decide
  have rowsKey : Json.unquote (ascii "rows") = "rows" := by decide
  rw [parse, lex_resizeText, Option.bind_some, resizeMembers, ← type, ← resize,
    ← colsKey, ← rowsKey]
  rfl

/-- A size of 16 bits is read as it was written. -/
theorem parseUint16_decimal (n : UInt16) :
    parseUint16 (decimal n.toNat) = some n := by
  have digits : (decimal n.toNat).all Json.isDigit = true :=
    List.all_eq_true.mpr fun b member => Json.isDigit_of_mem_decimal member
  rw [parseUint16, decimalValue_decimal, if_pos ⟨digits, n.toNat_lt⟩]
  simp

/-- The server resizes to what the client has measured. -/
theorem react_sendResize
    {cols rows : UInt16}
    (colsPositive : 0 < cols)
    (rowsPositive : 0 < rows) :
    react (sendResize cols.toNat rows.toNat) = .resize cols rows := by
  have type : field? "type" = some .type := by decide
  have colsField : field? "cols" = some .cols := by decide
  have rowsField : field? "rows" = some .rows := by decide
  have stored : (resizeMembers cols.toNat rows.toNat).foldlM
      ControlMessage.store .zero =
        some { ControlMessage.zero with
          type := "resize", cols := cols, rows := rows } := by
    simp [resizeMembers, ControlMessage.store, ControlMessage.assign, type,
      colsField, rowsField, parseUint16_decimal]
  simp only [sendResize, react, unmarshal, parse_resizeText, stored]
  simp [colsPositive, rowsPositive]

end Client
end LociTerm
