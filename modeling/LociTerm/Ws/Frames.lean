import LociTerm.Http.Bodies
import LociTerm.Ws.Connection

/-!
# The frames of the server

A control message as `conn.WriteJSON` writes it, what `json.Unmarshal` makes of
it, and what the handler of the browser does with a frame.
-/

namespace LociTerm
namespace Ws

open Json Http

namespace Protocol

/-- A member with `omitempty`. -/
def optional (zero : Bool) (field : Field) (document : Document String) :
    List (String × Document String) :=
  if zero then [] else [(field.name, document)]

/-- A size as a JSON number. -/
def sizeDocument (size : UInt16) : Document String :=
  .number (intNumeral size.toNat)

/-- A control message as JSON. -/
def ControlMessage.document (message : ControlMessage) : Document String :=
  .object
    ((Field.type.name, .string message.type) ::
      (optional (message.cols = 0) .cols (sizeDocument message.cols) ++
      (optional (message.rows = 0) .rows (sizeDocument message.rows) ++
      (optional (message.shell = "") .shell (.string message.shell) ++
      (optional (message.message = "") .message (.string message.message) ++
      (optional (message.title = "") .title (.string message.title) ++
        optional (!message.recreated) .recreated (.bool message.recreated)))))))

/-- `conn.WriteJSON` -/
def marshal (message : ControlMessage) : Bytes := encode message.document

theorem depth_document (message : ControlMessage) :
    message.document.depth ≤ 1 := by
  have flat : ∀ (zero : Bool) (field : Field) (document : Document String)
      (rest : List (String × Document String)),
      document.depth = 0 →
        Document.depthMembers (optional zero field document ++ rest) =
          Document.depthMembers rest := by
    intro zero field document rest leaf
    cases zero <;> simp [optional, Document.depthMembers, leaf]
  have last := flat (!message.recreated) .recreated (.bool message.recreated)
    [] rfl
  rw [List.append_nil] at last
  rw [ControlMessage.document, Document.depth, Document.depthMembers,
    flat _ _ _ _ rfl, flat _ _ _ _ rfl, flat _ _ _ _ rfl, flat _ _ _ _ rfl,
    flat _ _ _ _ rfl, last]
  exact Nat.le_refl _

/-! ## From server to server -/

theorem field?_name (field : Field) : field? field.name = some field := by
  cases field <;> decide

theorem store_name (ctrl : ControlMessage) (field : Field) (value : Value) :
    ctrl.store (field.name, value) = ctrl.assign field value := by
  rw [ControlMessage.store, field?_name]

/-- The fold over the members of an object. -/
def gather (ctrl : ControlMessage) (members : List (String × Document String)) :
    Option ControlMessage :=
  (Document.valueMembers goQuoting members).foldlM ControlMessage.store ctrl

theorem gather_cons
    {ctrl after : ControlMessage}
    {field : Field}
    {document : Document String}
    (assigned : ctrl.assign field (document.value goQuoting) = some after)
    (rest : List (String × Document String)) :
    gather ctrl ((field.name, document) :: rest) = gather after rest := by
  have named : goQuoting.meaning field.name = field.name := rfl
  rw [gather, Document.valueMembers, named, List.foldlM_cons, store_name,
    assigned]
  rfl

/-- A member that is omitted stands for the value that the field has. -/
theorem gather_optional
    {ctrl after : ControlMessage}
    {zero : Bool}
    {field : Field}
    {document : Document String}
    (omitted : zero = true → after = ctrl)
    (assigned : ctrl.assign field (document.value goQuoting) = some after)
    (rest : List (String × Document String)) :
    gather ctrl (optional zero field document ++ rest) = gather after rest := by
  cases zero with
  | true => rw [omitted rfl, optional, if_pos rfl, List.nil_append]
  | false => exact gather_cons assigned rest

theorem parseUint16_sizeDocument (size : UInt16) :
    (sizeDocument size).value goQuoting = .number (decimal size.toNat) ∧
      parseUint16 (decimal size.toNat) = some size := by
  have bound := size.toNat_lt
  have positive : ¬(size.toNat : Int) < 0 := by omega
  have digits : (decimal size.toNat).all isDigit = true :=
    List.all_eq_true.mpr fun _ member => isDigit_of_mem_decimal member
  constructor
  · rw [sizeDocument, Document.value, intNumeral, if_neg positive]
    rfl
  · rw [parseUint16, decimalValue_decimal, if_pos ⟨digits, bound⟩]
    simp

/-- Every control message is read as it was written. -/
theorem unmarshal_marshal (message : ControlMessage) :
    unmarshal (marshal message) = some message := by
  have fits : message.document.depth ≤ maxNestingDepth :=
    (depth_document message).trans (by decide)
  have parsed : parse maxNestingDepth (marshal message) =
      some (message.document.value goQuoting) :=
    Document.parse_print_line goQuoting message.document fits
  obtain ⟨type, cols, rows, shell, text, title, recreated⟩ := message
  obtain ⟨colsValue, colsParsed⟩ := parseUint16_sizeDocument cols
  obtain ⟨rowsValue, rowsParsed⟩ := parseUint16_sizeDocument rows
  rw [unmarshal, parsed]
  calc gather .zero
        ((Field.type.name, .string type) ::
          (optional (cols = 0) .cols (sizeDocument cols) ++
          (optional (rows = 0) .rows (sizeDocument rows) ++
          (optional (shell = "") .shell (.string shell) ++
          (optional (text = "") .message (.string text) ++
          (optional (title = "") .title (.string title) ++
            optional (!recreated) .recreated (.bool recreated)))))))
    _ = gather ⟨type, 0, 0, "", "", "", false⟩ _ := gather_cons rfl _
    _ = gather ⟨type, cols, 0, "", "", "", false⟩ _ :=
        gather_optional (by simp)
          (by simp [colsValue, ControlMessage.assign, colsParsed]) _
    _ = gather ⟨type, cols, rows, "", "", "", false⟩ _ :=
        gather_optional (by simp)
          (by simp [rowsValue, ControlMessage.assign, rowsParsed]) _
    _ = gather ⟨type, cols, rows, shell, "", "", false⟩ _ :=
        gather_optional (by simp) rfl _
    _ = gather ⟨type, cols, rows, shell, text, "", false⟩ _ :=
        gather_optional (by simp) rfl _
    _ = gather ⟨type, cols, rows, shell, text, title, false⟩ _ :=
        gather_optional (by simp) rfl _
    _ = gather ⟨type, cols, rows, shell, text, title, recreated⟩ [] := by
        rw [← List.append_nil (optional _ _ _)]
        exact gather_optional (by simp) rfl []

end Protocol

/-! ## From server to browser -/

/-- What a terminal of the browser shows, as far as its frames have been
handled. -/
structure Display where
  /-- `inst.attached` -/
  attached : Bool
  /-- What has been passed to `terminal.write`, in order. -/
  terminal : Bytes
  /-- The calls of `markSessionOutput`. -/
  outputs : Nat
  deriving DecidableEq

/-- `terminal.writeln` ends with a line break. -/
def banner : Bytes :=
  [27] ++ ascii "[2m[lociterm] previous tmux session was lost; started fresh" ++
    [27] ++ ascii "[0m" ++ [13, 10]

/-- A digit other than zero. -/
def isPositiveDigit (b : UInt8) : Bool := isDigit b && b ≠ byte '0'

/-- `if (value)`.  A number that is too small for a double counts as true. -/
def truthy : Option Value → Bool
  | none | some .null => false
  | some (.bool value) => value
  | some (.string text) => text ≠ ""
  | some (.number literal) =>
      (literal.takeWhile fun b => b ≠ byte 'e' ∧ b ≠ byte 'E').any
        isPositiveDigit
  | some (.array _) | some (.object _) => true

namespace Display

/-- Behind `ws.onopen`. -/
def start : Display := ⟨false, [], 0⟩

/-- `ws.onmessage` with an `ArrayBuffer`. -/
def onBuffer (display : Display) (data : Bytes) : Display :=
  { display with
    terminal := display.terminal ++ data
    outputs := display.outputs + 1 }

/-- `ws.onmessage` with a text.  The size that it sends is that of the client's
`Terminal`. -/
def onText (display : Display) (data : Bytes) : Display :=
  match parseJSON data with
  | none => display
  | some message =>
      if textProperty "type" message = some "attached" then
        { display with
          attached := true
          terminal :=
            if truthy (property "recreated" message) then
              display.terminal ++ banner
            else display.terminal }
      else display

/-- `ws.onmessage` -/
def onMessage (display : Display) : ServerFrame → Display
  | .binary data => display.onBuffer data
  | .control message => display.onText (Protocol.marshal message)

end Display

namespace Protocol

/-- A member with another name does not matter. -/
theorem filter_optional
    {name : String}
    {field : Field}
    (other : field.name ≠ name)
    (zero : Bool)
    (document : Document String)
    (rest : List (String × Document String)) :
    (Document.valueMembers goQuoting
        (optional zero field document ++ rest)).filter (·.1 = name) =
      (Document.valueMembers goQuoting rest).filter (·.1 = name) := by
  have named : goQuoting.meaning field.name = field.name := rfl
  cases zero <;> simp [optional, Document.valueMembers, named, other]

theorem textProperty_type (message : ControlMessage) :
    textProperty "type" (message.document.value goQuoting) =
      some message.type := by
  have last (zero : Bool) (document : Document String) :=
    filter_optional (show Field.recreated.name ≠ "type" by decide) zero
      document []
  simp only [List.append_nil] at last
  have type : goQuoting.meaning Field.type.name = "type" := rfl
  simp only [textProperty, property, ControlMessage.document, Document.value,
    Document.valueMembers, type, List.filter_cons,
    decide_true]
  rw [filter_optional (by decide), filter_optional (by decide),
    filter_optional (by decide), filter_optional (by decide),
    filter_optional (by decide), last]
  rfl

theorem recreated_document (message : ControlMessage) :
    truthy (property "recreated" (message.document.value goQuoting)) =
      message.recreated := by
  have other : ¬goQuoting.meaning Field.type.name = "recreated" := by decide
  simp only [property, ControlMessage.document, Document.value,
    Document.valueMembers]
  rw [List.filter_cons_of_neg (by simpa using other),
    filter_optional (by decide), filter_optional (by decide),
    filter_optional (by decide), filter_optional (by decide),
    filter_optional (by decide)]
  cases message.recreated <;> rfl

end Protocol

namespace Display

/-- What the handler does with a control message. -/
theorem onMessage_control
    (display : Display)
    (message : Protocol.ControlMessage) :
    display.onMessage (.control message) =
      if message.type = "attached" then
        { display with
          attached := true
          terminal :=
            if message.recreated then display.terminal ++ banner
            else display.terminal }
      else display := by
  have shallow : message.document.depth ≤ 2 :=
    (Protocol.depth_document message).trans (by decide)
  simp only [onMessage, onText, Protocol.marshal, parseJSON_encode shallow,
    Protocol.textProperty_type, Protocol.recreated_document,
    Option.some.injEq]

end Display
end Ws
end LociTerm
