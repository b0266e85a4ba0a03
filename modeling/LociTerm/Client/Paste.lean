import LociTerm.Api.UploadNames
import LociTerm.Library.Shell

/-!
# The path that is pasted after an upload

When a file is dropped on the terminal, the client uploads it and pastes the
path that the server returns, with a blank after it and nothing before it.
-/

namespace LociTerm
namespace Upload

open Filepath

/-- The text that `onDrop` pastes for the path of an answer. -/
def pastedText (path : Bytes) : Bytes := path ++ ascii " "

/-- The pasted text is one word that stands for the path, whatever other paths
exist, and has no control characters. -/
def OneWord (fnmatch : Shell.Word → Bytes → Bool) (path : Bytes) : Prop :=
  (∀ paths : List Bytes, paths.Nodup →
    Shell.readLine fnmatch paths (pastedText path) = some [path]) ∧
    ∀ b ∈ pastedText path, Shell.control b = false

/-- A letter, a digit, or one of the bytes `/`, `-`, `_` and `.`. -/
def directoryByte (b : UInt8) : Bool :=
  65 ≤ b && b ≤ 90 || 97 ≤ b && b ≤ 122 || 48 ≤ b && b ≤ 57 ||
    (ascii "/-_.").contains b

/-- The bytes of a name that the shell takes as they are. -/
def plainByte (b : UInt8) : Bool := Shell.plain b && !Shell.control b

/-- The names that can be pasted as they are. -/
structure Pasteable
    (fnmatch : Shell.Word → Bytes → Bool)
    (directory : Bytes)
    (entries : Set Bytes)
    (name : Bytes) : Prop where
  free : name ∉ entries
  plain : ∀ b ∈ name, plainByte b = true
  start : clean directory = [dot] →
    name.head? ≠ some (byte '#') ∧ name.head? ≠ some (byte '~')
  /-- As a pattern, the path matches at most itself. -/
  itself : Shell.pattern (Shell.literal name) = true →
    ∀ other, fnmatch (Shell.literal (join directory name)) other = true →
      other = join directory name

/-- The bytes of an upload directory have no meaning for the shell. -/
theorem directoryByte_spec (b : UInt8) (allowed : directoryByte b = true) :
    plainByte b = true ∧ (ascii "#~*?[\\").contains b = false := by
  have all : ∀ n < 256, directoryByte (UInt8.ofNat n) = true →
      plainByte (UInt8.ofNat n) = true ∧
        (ascii "#~*?[\\").contains (UInt8.ofNat n) = false := by decide +kernel
  have here := all b.toNat b.toNat_lt
  rw [UInt8.ofNat_toNat] at here
  exact here allowed

/-- What stands before the name of an uploaded file is taken as it is. -/
theorem lead_spec
    {directory : Bytes}
    (plainDirectory : ∀ b ∈ directory, directoryByte b = true)
    {b : UInt8}
    (member : b ∈ lead (rooted directory) (stack directory)) :
    plainByte b = true ∧ (ascii "#~*?[\\").contains b = false := by
  apply directoryByte_spec
  rcases mem_lead member with inside | rfl | rfl
  · exact plainDirectory b inside
  · decide
  · decide

/-- The name is kept exactly if it is free. -/
theorem chosen_eq_iff
    {name chosen : Bytes}
    {entries : Set Bytes}
    {earlier later : List Bytes}
    (order : candidates name = earlier ++ chosen :: later)
    (taken : ∀ other ∈ earlier, other ∈ entries)
    (free : chosen ∉ entries) :
    chosen = name ↔ name ∉ entries := by
  have first : candidates name = name :: (List.range 9999).map
      (candidate name ∘ Nat.succ) := by
    rw [candidates, show (10000 : Nat) = 9999 + 1 from rfl,
      List.range_succ_eq_map, List.map_cons, List.map_map]
    rfl
  constructor
  · rintro rfl
    exact free
  · intro absent
    cases earlier with
    | nil =>
        rw [first] at order
        exact (List.cons.inj order).1.symm
    | cons other rest =>
        rw [first] at order
        have same : other = name := (List.cons.inj order).1.symm
        exact absurd (taken other (by simp)) (same ▸ absent)

/-- Every alternative name has a blank. -/
theorem blank_mem_alternative (stem extension : Bytes) (i : Nat) :
    (32 : UInt8) ∈ alternative stem extension i := by
  have opening : (32 : UInt8) ∈ ascii " (" := by decide
  simp only [alternative, List.mem_append]
  exact .inl (.inl (.inl (.inr opening)))

/-- A path in the upload directory is pasted as one word exactly if its name
has no meaning for the shell. -/
theorem oneWord_join_iff
    {directory name : Bytes}
    (fnmatch : Shell.Word → Bytes → Bool)
    (plainDirectory : ∀ b ∈ directory, directoryByte b = true)
    (usable : Usable name) :
    OneWord fnmatch (join directory name) ↔
      (∀ b ∈ name, plainByte b = true) ∧
        (clean directory = [dot] →
          name.head? ≠ some (byte '#') ∧ name.head? ≠ some (byte '~')) ∧
        (Shell.pattern (Shell.literal name) = true →
          ∀ other, fnmatch (Shell.literal (join directory name)) other = true →
            other = join directory name) := by
  have shape := join_eq usable.plain directory
  have leading := fun b => lead_spec plainDirectory (b := b)
  have empty := lead_eq_nil_iff directory
  generalize join directory name = path at shape ⊢
  generalize lead (rooted directory) (stack directory) = before at shape leading empty
  have nonempty : path ≠ [] := by simp [shape, usable.nonempty]
  have noBackslash : byte '\\' ∉ path := by
    rw [shape, List.mem_append]
    rintro (member | member)
    · exact absurd (leading _ member).2 (by decide)
    · exact usable.no_backslash member
  have patterns : Shell.pattern (Shell.literal path) =
      Shell.pattern (Shell.literal name) := by
    have none : before.any (fun b => (ascii "*?[").contains b) = false := by
      rw [List.any_eq_false]
      intro b member active
      have inactive := (leading b member).2
      simp only [List.contains_eq_mem, decide_eq_true_eq, decide_eq_false_iff_not]
        at active inactive
      exact inactive (by
        revert active
        exact List.mem_append_right (ascii "#~") ∘ List.mem_append_left [92])
    rw [Shell.pattern_literal, Shell.pattern_literal, shape, List.any_append, none,
      Bool.false_or]
  have pasted : pastedText path = path ++ [32] := rfl
  unfold OneWord
  rw [pasted, Shell.readLine_eq_iff noBackslash nonempty, patterns]
  constructor
  · rintro ⟨⟨everyPlain, noComment, noTilde, itself⟩, noControl⟩
    refine ⟨fun b member => ?_, fun here => ?_, itself⟩
    · have plain := everyPlain b (by simp [shape, member])
      have ordinary := noControl b (by simp [shape, member])
      simp [plainByte, plain, ordinary]
    · rw [shape, empty.mpr here, List.nil_append] at noComment noTilde
      exact ⟨noComment, noTilde⟩
  · rintro ⟨everyPlain, start, itself⟩
    have bytes : ∀ b ∈ path, plainByte b = true := by
      intro b member
      rw [shape, List.mem_append] at member
      exact member.elim (fun inside => (leading b inside).1) (everyPlain b)
    have head : path.head? ≠ some (byte '#') ∧ path.head? ≠ some (byte '~') := by
      cases before with
      | nil =>
          rw [shape, List.nil_append]
          exact start (empty.mp rfl)
      | cons first rest =>
          have inactive := (leading first (by simp)).2
          rw [shape, List.cons_append, List.head?_cons]
          constructor
          · rintro ⟨⟩
            exact absurd inactive (by decide)
          · rintro ⟨⟩
            exact absurd inactive (by decide)
    refine ⟨⟨fun b member => ?_, head.1, head.2, itself⟩, fun b member => ?_⟩
    · have plain := bytes b member
      simp only [plainByte, Bool.and_eq_true] at plain
      exact plain.1
    · rcases List.mem_append.mp member with inside | last
      · have plain := bytes b inside
        simp only [plainByte, Bool.and_eq_true, Bool.not_eq_true'] at plain
        exact plain.2
      · rw [List.mem_singleton.mp last]
        rfl

/-- The pasted text is one word exactly if the sanitised name is free, its
bytes have no meaning for the shell, and neither the start of the word nor a
pattern in it makes the shell replace it. -/
theorem oneWord_iff_pasteable
    {raw directory path chosen : Bytes}
    {entries : Set Bytes}
    {missing : Bytes → Bool}
    (fnmatch : Shell.Word → Bytes → Bool)
    (accepted : sanitizeUploadFilename raw ≠ [])
    (plainDirectory : ∀ b ∈ directory, directoryByte b = true)
    (stat : ∀ other, Plain other → nul ∉ other →
      (missing (join directory other) = true ↔ other ∉ entries))
    (stored : uniqueUploadPath missing directory (sanitizeUploadFilename raw) =
      .ok (path, chosen)) :
    OneWord fnmatch path ↔
      Pasteable fnmatch directory entries (sanitizeUploadFilename raw) := by
  have usable := usable_sanitizeUploadFilename accepted
  generalize sanitizeUploadFilename raw = name at accepted usable stored ⊢
  have first := firstFree_uniqueUploadPath usable stat
  rw [stored] at first
  obtain ⟨⟨earlier, later, order, taken, free⟩, rfl, -, -, -⟩ := first
  have kept := chosen_eq_iff order taken free
  obtain ⟨k, rfl⟩ : ∃ k, candidate name k = chosen := by
    have member : chosen ∈ candidates name := by rw [order]; simp
    obtain ⟨k, -, same⟩ := List.mem_map.mp member
    exact ⟨k, same⟩
  rw [oneWord_join_iff fnmatch plainDirectory (usable.candidate k)]
  constructor
  · rintro ⟨plain, start, itself⟩
    have same : candidate name k = name := by
      cases k with
      | zero => rfl
      | succ i =>
          have here := plain 32 (blank_mem_alternative _ _ _)
          exact absurd here (by decide)
    rw [same] at plain start itself
    exact ⟨kept.mp same, plain, start, itself⟩
  · intro pasteable
    rw [kept.mpr pasteable.free]
    exact ⟨pasteable.plain, pasteable.start, pasteable.itself⟩

/-- Patterns without special bytes match themselves. -/
def literally (pattern : Shell.Word) (path : Bytes) : Bool :=
  Shell.value pattern == path

theorem oneWord_iff_pasteable_report :
    OneWord literally (ascii "/srv/up/report.txt") ↔
      Pasteable literally (ascii "/srv/up") ∅
        (sanitizeUploadFilename (ascii "report.txt")) := by
  have stored :
      uniqueUploadPath (fun _ => true) (ascii "/srv/up")
          (sanitizeUploadFilename (ascii "report.txt")) =
        .ok (ascii "/srv/up/report.txt", ascii "report.txt") := rfl
  have plainDirectory : ∀ b ∈ ascii "/srv/up", directoryByte b = true :=
    List.all_eq_true.mp rfl
  exact oneWord_iff_pasteable literally (by decide) plainDirectory (by simp) stored

/-- The path of a file with a blank in its name is pasted as two words. -/
theorem not_oneWord_of_blank :
    uniqueUploadPath (fun _ => true) (ascii "/srv/up")
        (sanitizeUploadFilename (ascii "my file.txt")) =
      .ok (ascii "/srv/up/my file.txt", ascii "my file.txt") ∧
      ¬ OneWord literally (ascii "/srv/up/my file.txt") := by
  refine ⟨rfl, ?_⟩
  rintro ⟨oneWord, -⟩
  have read := oneWord [] List.nodup_nil
  have parted :
      Shell.readLine literally [] (pastedText (ascii "/srv/up/my file.txt")) =
        some [ascii "/srv/up/my", ascii "file.txt"] := by decide
  rw [parted] at read
  exact absurd read (by decide)

end Upload
end LociTerm
