import LociTerm.Library.Json
import Mathlib.Data.List.Induction

/-!
# The control protocol

The text frames of a terminal are JSON.  `json.Unmarshal` matches the keys of an
object to the fields of a `ControlMessage` without regard to case, leaves a
field alone for `null`, and fails if any known field has a value of another
type.
-/

namespace LociTerm
namespace Ws
namespace Protocol

open Json

/-- `ControlMessage` -/
structure ControlMessage where
  type : String
  cols : UInt16
  rows : UInt16
  shell : String
  message : String
  title : String
  recreated : Bool
  deriving DecidableEq

/-- `var ctrl ControlMessage` -/
def ControlMessage.zero : ControlMessage := ⟨"", 0, 0, "", "", "", false⟩

/-- The fields, in order. -/
inductive Field
  | type
  | cols
  | rows
  | shell
  | message
  | title
  | recreated
  deriving DecidableEq

namespace Field

/-- The fields in the order of the struct. -/
def all : List Field := [type, cols, rows, shell, message, title, recreated]

/-- The name in the struct tag. -/
def name : Field → String
  | type => "type"
  | cols => "cols"
  | rows => "rows"
  | shell => "shell"
  | message => "message"
  | title => "title"
  | recreated => "recreated"

end Field

/-- `foldRune`: the long s and the kelvin sign fold to ASCII letters. -/
def foldRune (c : Char) : Char :=
  if c.toNat = 0x17F then 'S'
  else if c.toNat = 0x212A then 'K'
  else c.toUpper

/-- The field that a key names. -/
def field? (key : String) : Option Field :=
  Field.all.find? fun field =>
    key.toList.map foldRune = field.name.toList.map foldRune

/-- `strconv.ParseUint` and `OverflowUint` for 16 bits. -/
def parseUint16 (literal : Bytes) : Option UInt16 :=
  if literal.all isDigit ∧ decimalValue literal < 0x10000 then
    some (decimalValue literal).toUInt16
  else none

namespace ControlMessage

/-- The value of one member; `none` is an `UnmarshalTypeError`. -/
def assign (ctrl : ControlMessage) : Field → Value → Option ControlMessage
  | _, .null => some ctrl
  | .type, .string value => some { ctrl with type := value }
  | .cols, .number literal =>
      (parseUint16 literal).map fun value => { ctrl with cols := value }
  | .rows, .number literal =>
      (parseUint16 literal).map fun value => { ctrl with rows := value }
  | .shell, .string value => some { ctrl with shell := value }
  | .message, .string value => some { ctrl with message := value }
  | .title, .string value => some { ctrl with title := value }
  | .recreated, .bool value => some { ctrl with recreated := value }
  | _, _ => none

/-- One member of the object; an unknown key is skipped. -/
def store (ctrl : ControlMessage) (member : String × Value) :
    Option ControlMessage :=
  match field? member.1 with
  | some field => ctrl.assign field member.2
  | none => some ctrl

end ControlMessage

/-- The scanner of `encoding/json` allows no deeper nesting. -/
def maxNestingDepth : Nat := 10000

/-- `json.Unmarshal(data, &ctrl)`.  The handler drops a message that brings an
error, so that it does not matter what has been assigned by then. -/
def unmarshal (data : Bytes) : Option ControlMessage :=
  match parse maxNestingDepth data with
  | some (.object members) => members.foldlM ControlMessage.store .zero
  | some .null => some .zero
  | _ => none

/-! ## The messages of a client -/

/-- What `conn.ReadMessage` returns. -/
inductive Message
  | binary (data : Bytes)
  | text (data : Bytes)
  deriving DecidableEq

/-- What the handler does with a message. -/
inductive Reaction
  | write (data : Bytes)
  | resize (cols rows : UInt16)
  | pong
  | nothing
  deriving DecidableEq

/-- The body of the loop from WebSocket to PTY. -/
def react : Message → Reaction
  | .binary data => .write data
  | .text data =>
      match unmarshal data with
      | none => .nothing
      | some ctrl =>
          if ctrl.type = "resize" then
            if 0 < ctrl.cols ∧ 0 < ctrl.rows then .resize ctrl.cols ctrl.rows
            else .nothing
          else if ctrl.type = "ping" then .pong
          else .nothing

/-! ## What an object says -/

/-- The value is `null`. -/
def isNull : Value → Bool
  | .null => true
  | _ => false

/-- The last value for a field; `null` is none. -/
def lastOf (field : Field) (members : List (String × Value)) : Option Value :=
  ((members.filter fun member =>
    field? member.1 = some field && !isNull member.2).getLast?).map Prod.snd

/-- The string that a value is. -/
def stringOf : Value → Option String
  | .string value => some value
  | _ => none

/-- The number that a value is, as a `uint16`. -/
def numberOf : Value → Option UInt16
  | .number literal => some (decimalValue literal).toUInt16
  | _ => none

/-- The type of a message, empty if it has none. -/
def typeOf (members : List (String × Value)) : String :=
  ((lastOf .type members).bind stringOf).getD ""

/-- A size of a message, zero if it has none. -/
def sizeOf (field : Field) (members : List (String × Value)) : UInt16 :=
  ((lastOf field members).bind numberOf).getD 0

/-- The value fits the type of the field. -/
def Field.accepts : Field → Value → Bool
  | _, .null => true
  | .type, .string _ | .shell, .string _ | .message, .string _
  | .title, .string _ => true
  | .cols, .number literal | .rows, .number literal =>
      literal.all isDigit && decimalValue literal < 0x10000
  | .recreated, .bool _ => true
  | _, _ => false

/-- Every known field of the object has a value of its type. -/
def WellTyped (members : List (String × Value)) : Prop :=
  ∀ member ∈ members, ∀ field, field? member.1 = some field →
    field.accepts member.2 = true

theorem lastOf_concat
    (field : Field)
    (members : List (String × Value))
    (member : String × Value) :
    lastOf field (members ++ [member]) =
      if field? member.1 = some field ∧ isNull member.2 = false then
        some member.2
      else lastOf field members := by
  unfold lastOf
  rw [List.filter_append, List.filter_singleton]
  by_cases named : field? member.1 = some field
  · by_cases null : isNull member.2 = true
    · simp [null]
    · simp [named, null]
  · simp [named]

namespace ControlMessage

/-- A member is stored exactly if its value fits. -/
theorem isSome_store (ctrl : ControlMessage) (member : String × Value) :
    (ctrl.store member).isSome = true ↔
      ∀ field, field? member.1 = some field →
        field.accepts member.2 = true := by
  unfold store
  cases field? member.1 with
  | none => simp
  | some field =>
      simp only [Option.some.injEq, forall_eq']
      cases field <;> cases member.2 <;>
        simp [assign, Field.accepts, parseUint16]

/-- What a member does to the fields that the handler reads. -/
theorem store_eq_some
    {ctrl after : ControlMessage}
    {member : String × Value}
    (stored : ctrl.store member = some after) :
    after.type =
        (if field? member.1 = some .type ∧ isNull member.2 = false then
          (stringOf member.2).getD "" else ctrl.type) ∧
      after.cols =
        (if field? member.1 = some .cols ∧ isNull member.2 = false then
          (numberOf member.2).getD 0 else ctrl.cols) ∧
      after.rows =
        (if field? member.1 = some .rows ∧ isNull member.2 = false then
          (numberOf member.2).getD 0 else ctrl.rows) := by
  unfold store at stored
  cases named : field? member.1 with
  | none =>
      rw [named] at stored
      cases stored
      simp
  | some field =>
      rw [named] at stored
      cases field <;> cases value : member.2 <;>
        simp [value, assign, parseUint16] at stored <;>
        first
          | (subst stored; simp [isNull, stringOf])
          | (obtain ⟨_, rfl⟩ := stored; simp [isNull, numberOf])

/-- The fields hold the last values of the object. -/
theorem gathered
    {members : List (String × Value)}
    {after : ControlMessage}
    (stored : members.foldlM store zero = some after) :
    after.type = typeOf members ∧ after.cols = sizeOf .cols members ∧
      after.rows = sizeOf .rows members := by
  induction members using List.reverseRecOn generalizing after with
  | nil =>
      cases stored
      exact ⟨rfl, rfl, rfl⟩
  | append_singleton members member inductionHypothesis =>
      rw [List.foldlM_append] at stored
      obtain ⟨before, earlier, last⟩ := Option.bind_eq_some_iff.mp stored
      simp only [List.foldlM_cons, List.foldlM_nil, bind_pure] at last
      obtain ⟨type, cols, rows⟩ := inductionHypothesis earlier
      obtain ⟨newType, newCols, newRows⟩ := store_eq_some last
      rw [newType, newCols, newRows, type, cols, rows]
      simp only [typeOf, sizeOf, lastOf_concat]
      refine ⟨?_, ?_, ?_⟩ <;> split <;> rfl

theorem isSome_foldlM_store (members : List (String × Value)) :
    (members.foldlM store zero).isSome = true ↔ WellTyped members := by
  induction members using List.reverseRecOn with
  | nil => simp [WellTyped]
  | append_singleton members member inductionHypothesis =>
      have last (ctrl : ControlMessage) := isSome_store ctrl member
      rw [List.foldlM_append]
      cases stored : members.foldlM store zero with
      | none =>
          have ill : ¬WellTyped members := by
            rw [← inductionHypothesis, stored]
            simp
          refine iff_of_false (by simp) fun wellTyped => ill ?_
          exact fun other inside => wellTyped other (by simp [inside])
      | some ctrl =>
          have well : WellTyped members := by
            rw [← inductionHypothesis, stored]
            rfl
          rw [Option.bind_eq_bind, Option.bind_some, List.foldlM_cons]
          simp only [List.foldlM_nil, bind_pure, last]
          constructor
          · intro fits other inside
            rcases List.mem_append.mp inside with old | new
            · exact well other old
            · rw [List.mem_singleton.mp new]
              exact fits
          · exact fun wellTyped => wellTyped member (by simp)

end ControlMessage

/-! ## Frames that are no resize -/

/-- A text frame that asks for no size. -/
inductive Extra (data : Bytes) : Prop
  | malformed (broken : parse maxNestingDepth data = none)
  | notObject (value : Value)
      (parsed : parse maxNestingDepth data = some value)
      (other : ∀ members, value ≠ .object members)
  /-- A field has a value of another type; a size is negative, is no integer or
  does not fit 16 bits. -/
  | illTyped (members : List (String × Value))
      (parsed : parse maxNestingDepth data = some (.object members))
      (ill : ¬WellTyped members)
  /-- A ping, or an unknown type, or none. -/
  | otherType (members : List (String × Value))
      (parsed : parse maxNestingDepth data = some (.object members))
      (other : typeOf members ≠ "resize")
  | zeroSize (members : List (String × Value))
      (parsed : parse maxNestingDepth data = some (.object members))
      (zero : sizeOf .cols members = 0 ∨ sizeOf .rows members = 0)

/-- The extra frames are those to which the handler replies with a pong or does
nothing. -/
theorem extra_iff (data : Bytes) :
    Extra data ↔
      react (.text data) = .nothing ∨ react (.text data) = .pong := by
  have positive (n : UInt16) : 0 < n ↔ n ≠ 0 := UInt16.pos_iff_ne_zero
  have object (members : List (String × Value))
      (parsed : parse maxNestingDepth data = some (.object members)) :
      react (.text data) = .nothing ∨ react (.text data) = .pong ↔
        ¬(WellTyped members ∧ typeOf members = "resize" ∧
          sizeOf .cols members ≠ 0 ∧ sizeOf .rows members ≠ 0) := by
    rw [← ControlMessage.isSome_foldlM_store]
    simp only [react, unmarshal, parsed]
    cases stored : members.foldlM ControlMessage.store .zero with
    | none => simp
    | some ctrl =>
        obtain ⟨type, cols, rows⟩ := ControlMessage.gathered stored
        simp only [← type, ← cols, ← rows, positive, Option.isSome_some,
          true_and]
        by_cases resize : ctrl.type = "resize"
        · rw [if_pos resize]
          by_cases sizes : ctrl.cols ≠ 0 ∧ ctrl.rows ≠ 0
          · simp [sizes, resize]
          · rw [if_neg sizes]
            exact iff_of_true (Or.inl rfl) fun valid => sizes valid.2
        · rw [if_neg resize]
          by_cases ping : ctrl.type = "ping" <;> simp [ping, resize]
  constructor
  · rintro (broken | ⟨value, parsed, other⟩ | ⟨members, parsed, ill⟩ |
      ⟨members, parsed, other⟩ | ⟨members, parsed, zero⟩)
    · simp [react, unmarshal, broken]
    · cases value with
      | object members => exact absurd rfl (other members)
      | _ => simp [react, unmarshal, parsed, ControlMessage.zero]
    · exact (object members parsed).mpr fun valid => ill valid.1
    · exact (object members parsed).mpr fun valid => other valid.2.1
    · refine (object members parsed).mpr fun valid => ?_
      rcases zero with cols | rows
      · exact valid.2.2.1 cols
      · exact valid.2.2.2 rows
  · intro quiet
    cases parsed : parse maxNestingDepth data with
    | none => exact .malformed parsed
    | some value =>
        cases value with
        | object members =>
            have invalid := (object members parsed).mp quiet
            by_cases wellTyped : WellTyped members
            · by_cases type : typeOf members = "resize"
              · refine .zeroSize members parsed ?_
                by_contra sizes
                push Not at sizes
                exact invalid ⟨wellTyped, type, sizes.1, sizes.2⟩
              · exact .otherType members parsed type
            · exact .illTyped members parsed wellTyped
        | _ => exact .notObject _ parsed fun _ => nofun

end Protocol
end Ws
end LociTerm
