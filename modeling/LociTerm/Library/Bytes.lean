import Mathlib.Data.List.Basic
import Mathlib.Tactic.IntervalCases

/-!
# Byte strings

Texts as a program outside of Lean has them: lists of bytes that need not be
UTF-8.
-/

namespace LociTerm

/-- A byte string. -/
abbrev Bytes : Type := List UInt8

/-- The byte of an ASCII character. -/
def byte (c : Char) : UInt8 := c.toNat.toUInt8

/-- An ASCII text. -/
def ascii (text : String) : Bytes := text.toList.map byte

/-- A number as `%d` prints it. -/
def decimal (n : Nat) : Bytes := (Nat.toDigits 10 n).map byte

/-- The number that some digits say. -/
def decimalValue (digits : Bytes) : Nat :=
  digits.foldl (fun n b => 10 * n + (b.toNat - 48)) 0

theorem byte_injective_of_ascii
    {c d : Char}
    (left : c.toNat < 256)
    (right : d.toNat < 256)
    (same : byte c = byte d) :
    c = d := by
  have codes : c.toNat % 256 = d.toNat % 256 := congrArg UInt8.toNat same
  rw [Nat.mod_eq_of_lt left, Nat.mod_eq_of_lt right] at codes
  exact Char.toNat_inj.mp codes

theorem toNat_of_isDigit {c : Char} (digit : c.isDigit = true) :
    48 ≤ c.toNat ∧ c.toNat ≤ 57 := by
  simp only [Char.isDigit, Bool.and_eq_true, decide_eq_true_eq] at digit
  exact ⟨UInt32.le_iff_toNat_le.mp digit.1, UInt32.le_iff_toNat_le.mp digit.2⟩

/-- What a number prints are the bytes `0` to `9`. -/
theorem digit_of_mem_decimal
    {n : Nat}
    {b : UInt8}
    (member : b ∈ decimal n) :
    48 ≤ b.toNat ∧ b.toNat ≤ 57 := by
  obtain ⟨c, printed, rfl⟩ := List.mem_map.mp member
  obtain ⟨least, most⟩ := toNat_of_isDigit
    (Nat.isDigit_of_mem_toDigits (by decide) (by decide) printed)
  have code : (byte c).toNat = c.toNat := by
    change c.toNat % 256 = c.toNat
    omega
  rw [code]
  exact ⟨least, most⟩

theorem decimal_ne_nil (n : Nat) : decimal n ≠ [] := by
  simp [decimal, Nat.toDigits_ne_nil]

/-- Digits with the same bytes are the same digits. -/
theorem digits_eq_of_map_byte_eq
    {left right : List Char}
    (digits : ∀ c ∈ left ++ right, c.isDigit = true)
    (same : left.map byte = right.map byte) :
    left = right := by
  induction left generalizing right with
  | nil => simpa using same.symm
  | cons c rest inductionHypothesis =>
      cases right with
      | nil => simp at same
      | cons d others =>
          simp only [List.map_cons, List.cons.injEq] at same
          have first := toNat_of_isDigit (digits c (by simp))
          have second := toNat_of_isDigit (digits d (by simp))
          have heads : c = d :=
            byte_injective_of_ascii (by omega) (by omega) same.1
          have tails : rest = others :=
            inductionHypothesis
              (fun e member => digits e (by
                simp only [List.mem_append, List.mem_cons] at member ⊢
                tauto))
              same.2
          rw [heads, tails]

/-- Different numbers print differently. -/
theorem decimal_injective : Function.Injective decimal := by
  intro n m same
  have digits : Nat.toDigits 10 n = Nat.toDigits 10 m := by
    apply digits_eq_of_map_byte_eq _ same
    intro c member
    rcases List.mem_append.mp member with printed | printed
    · exact Nat.isDigit_of_mem_toDigits (by decide) (by decide) printed
    · exact Nat.isDigit_of_mem_toDigits (by decide) (by decide) printed
  have value := congrArg (fun chars => Nat.ofDigitChars 10 chars 0) digits
  simpa using value

theorem decimal_of_lt {n : Nat} (small : n < 10) :
    decimal n = [(48 + n).toUInt8] := by
  rw [decimal, Nat.toDigits_of_lt_base small]
  interval_cases n <;> rfl

theorem decimal_of_le {n : Nat} (large : 10 ≤ n) :
    decimal n = decimal (n / 10) ++ decimal (n % 10) := by
  have last := Nat.toDigits_of_lt_base (Nat.mod_lt n (Nat.succ_pos 9))
  rw [decimal, Nat.toDigits_of_base_le (by decide) large, List.map_append,
    decimal, decimal, last]

/-- A number that is printed is read as itself. -/
theorem decimalValue_decimal (n : Nat) : decimalValue (decimal n) = n := by
  induction n using Nat.strongRecOn with
  | ind n inductionHypothesis =>
      by_cases small : n < 10
      · rw [decimal_of_lt small]
        change 10 * 0 + ((48 + n) % 256 - 48) = n
        omega
      · have earlier := inductionHypothesis (n / 10) (by omega)
        rw [decimal_of_le (by omega), decimalValue, List.foldl_append,
          ← decimalValue, earlier,
          decimal_of_lt (Nat.mod_lt n (Nat.succ_pos 9))]
        change 10 * (n / 10) + ((48 + n % 10) % 256 - 48) = n
        omega

/-- Only zero begins with a zero. -/
theorem head?_decimal {n : Nat} (positive : 0 < n) :
    (decimal n).head? ≠ some 48 := by
  induction n using Nat.strongRecOn with
  | ind n inductionHypothesis =>
      by_cases small : n < 10
      · rw [decimal_of_lt small]
        interval_cases n <;> decide
      · rw [decimal_of_le (by omega), List.head?_append_of_ne_nil _
          (decimal_ne_nil (n / 10))]
        exact inductionHypothesis (n / 10) (by omega) (by omega)

end LociTerm
