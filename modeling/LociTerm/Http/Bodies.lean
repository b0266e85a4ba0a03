import LociTerm.Api.Workspaces
import LociTerm.Library.JsonStream
import LociTerm.Library.JsonStrings
import LociTerm.Ws.Protocol

/-!
# The bodies of requests and responses

How a handler decodes the one text field of a request body, what `writeJSON`
puts into a response, and what the client finds there.  The client reads what
the server has written, and the server what the client has.
-/

namespace LociTerm
namespace Http

open Json

/-! ## Decoding a request -/

/-- What `Decode` leaves in a struct with one text field, and whether it
returns an error. -/
structure Decoded where
  value : String
  failed : Bool
  deriving DecidableEq

/-- The key names the field, without regard to case. -/
def names (field key : String) : Bool :=
  key.toList.map Ws.Protocol.foldRune = field.toList.map Ws.Protocol.foldRune

/-- One member of the object.  Behind a value of another type, decoding goes
on. -/
def Decoded.store
    (field : String)
    (decoded : Decoded)
    (member : String × Value) : Decoded :=
  if names field member.1 then
    match member.2 with
    | .null => decoded
    | .string value => { decoded with value := value }
    | _ => { decoded with failed := true }
  else decoded

/-- `json.NewDecoder(r.Body).Decode(&req)` -/
def decodeField (field : String) (body : Bytes) : Decoded :=
  match decode Ws.Protocol.maxNestingDepth body with
  | some (.object members) =>
      members.foldl (Decoded.store field) ⟨"", false⟩
  | some .null => ⟨"", false⟩
  | some _ | none => ⟨"", true⟩

/-- `JSON.stringify({ field: text })`, where the text is UTF-16. -/
def fieldBody (field : String) (text : List UInt16) : Bytes :=
  (Document.object [(Unicode.utf16 field.toList, .string text)]).print
    jsQuoting

/-- A text that has been typed is decoded as it was, with U+FFFD in the place of
lone surrogates, whatever comes behind the object. -/
theorem decodeField_fieldBody
    (field : String)
    (text : List UInt16)
    (behind : Bytes) :
    decodeField field (fieldBody field text ++ behind) =
      ⟨String.ofList (Unicode.fromUtf16 text), false⟩ := by
  have fits : (Document.object
      [(Unicode.utf16 field.toList, .string text)]).depth ≤
        Ws.Protocol.maxNestingDepth := by
    simp [Document.depth, Document.depthMembers, Ws.Protocol.maxNestingDepth]
  have decoded := Document.decode_print jsQuoting fits behind
  have key : String.ofList
      (Unicode.fromUtf16 (Unicode.utf16 field.toList)) = field := by
    rw [Unicode.fromUtf16_utf16]
    exact String.ofList_toList
  rw [decodeField, fieldBody, decoded]
  simp [Document.value, Document.valueMembers, jsQuoting, key, Decoded.store,
    names]

/-! ## Writing a response -/

theorem isNumber_decimal_sign (n : Nat) :
    isNumber (byte '-' :: decimal n) = true := by
  have valid := isNumber_decimal n
  have signed : (decimal n).head? ≠ some (byte '-') := by
    intro sign
    exact absurd (isDigit_of_mem_decimal (List.mem_of_head? sign)) (by decide)
  simpa [isNumber, signed] using valid

/-- An `int` as it is printed. -/
def intNumeral (n : Int) : Numeral :=
  if n < 0 then
    ⟨byte '-' :: decimal n.natAbs, isNumber_decimal_sign n.natAbs⟩
  else ⟨decimal n.natAbs, isNumber_decimal n.natAbs⟩

/-- The integer that a literal says. -/
def readInt (literal : Bytes) : Int :=
  match literal with
  | b :: digits =>
      if b = byte '-' then -(decimalValue digits : Int)
      else decimalValue literal
  | [] => 0

theorem readInt_decimal (n : Nat) : readInt (decimal n) = n := by
  cases printed : decimal n with
  | nil => exact absurd printed (decimal_ne_nil n)
  | cons b digits =>
      have digit : isDigit b = true :=
        isDigit_of_mem_decimal (n := n) (by simp [printed])
      have unsigned : b ≠ byte '-' := by
        rintro rfl
        exact absurd digit (by decide)
      rw [readInt, if_neg unsigned, ← printed, decimalValue_decimal]

theorem readInt_intNumeral (n : Int) : readInt (intNumeral n).literal = n := by
  unfold intNumeral
  split
  · next negative =>
      simp only [readInt, if_pos, decimalValue_decimal]
      omega
  · next positive =>
      rw [readInt_decimal]
      omega

/-- A field with `omitempty`. -/
def omitted (name : String) (text : Option String) :
    List (String × Document String) :=
  (text.map fun text => (name, Document.string text)).toList

/-- A workspace as `encoding/json` writes it. -/
def workspaceDocument (workspace : Client.Workspace) : Document String :=
  .object
    [("id", .string workspace.id),
      ("name", .string workspace.name),
      ("sortOrder", .number (intNumeral workspace.sortOrder)),
      ("createdAt", .string workspace.createdAt),
      ("updatedAt", .string workspace.updatedAt)]

/-- A session as `encoding/json` writes it. -/
def sessionDocument (session : Client.Session) : Document String :=
  .object
    ([("id", .string session.id),
      ("workspaceId", .string session.workspaceId),
      ("title", .string session.title)] ++
      (omitted "shell" session.shell ++ (omitted "cwd" session.cwd ++
        [("sortOrder", .number (intNumeral session.sortOrder)),
          ("createdAt", .string session.createdAt),
          ("updatedAt", .string session.updatedAt)])))

/-- `map[string]string{"error": message}` -/
def errorDocument (message : String) : Document String :=
  .object [("error", .string message)]

/-- `map[string]bool{"ok": true}` -/
def okDocument : Document String := .object [("ok", .bool true)]

/-- `json.NewEncoder(w).Encode(v)` ends with a line feed. -/
def encode (document : Document String) : Bytes :=
  document.print goQuoting ++ [byte '\n']

/-! ## Reading a response -/

/-- `JSON.parse`, whose nesting is bounded by memory alone. -/
def parseJSON (body : Bytes) : Option Value := parse body.length body

theorem parseJSON_encode
    {document : Document String}
    (shallow : document.depth ≤ 2) :
    parseJSON (encode document) = some (document.value goQuoting) := by
  refine Document.parse_print_line goQuoting document ?_
  cases document with
  | array elements | object members =>
      refine shallow.trans ?_
      simp [encode, Document.print]
  | null | bool value | number numeral | string text => exact Nat.zero_le _

/-- A property of an object; of two members with one key the last one
counts. -/
def property (name : String) : Value → Option Value
  | .object members =>
      ((members.filter fun member => member.1 = name).getLast?).map Prod.snd
  | _ => none

/-- A property that is a string. -/
def textProperty (name : String) (value : Value) : Option String :=
  match property name value with
  | some (.string text) => some text
  | _ => none

/-- A property that is an integer. -/
def numberProperty (name : String) (value : Value) : Option Int :=
  match property name value with
  | some (.number literal) => some (readInt literal)
  | _ => none

/-- What the client finds in a workspace. -/
def readWorkspace (value : Value) : Option Client.Workspace := do
  let id ← textProperty "id" value
  let name ← textProperty "name" value
  let sortOrder ← numberProperty "sortOrder" value
  let createdAt ← textProperty "createdAt" value
  let updatedAt ← textProperty "updatedAt" value
  return ⟨id, name, sortOrder, createdAt, updatedAt⟩

/-- What the client finds in a session. -/
def readSession (value : Value) : Option Client.Session := do
  let id ← textProperty "id" value
  let workspaceId ← textProperty "workspaceId" value
  let title ← textProperty "title" value
  let sortOrder ← numberProperty "sortOrder" value
  let createdAt ← textProperty "createdAt" value
  let updatedAt ← textProperty "updatedAt" value
  return ⟨id, workspaceId, title, textProperty "shell" value,
    textProperty "cwd" value, sortOrder, createdAt, updatedAt⟩

theorem readWorkspace_document (workspace : Client.Workspace) :
    readWorkspace ((workspaceDocument workspace).value goQuoting) =
      some workspace := by
  simp [readWorkspace, workspaceDocument, Document.value,
    Document.valueMembers, goQuoting, textProperty, numberProperty, property,
    readInt_intNumeral]

theorem readSession_document (session : Client.Session) :
    readSession ((sessionDocument session).value goQuoting) =
      some session := by
  obtain ⟨id, workspaceId, title, shell, cwd, sortOrder, createdAt,
    updatedAt⟩ := session
  cases shell <;> cases cwd <;>
    simp [readSession, sessionDocument, omitted, Document.value,
      Document.valueMembers, goQuoting, textProperty, numberProperty,
      property, readInt_intNumeral]

end Http
end LociTerm
