import LociTerm.Library.Filepath
import Mathlib.Data.List.Nodup
import Mathlib.Data.Set.Insert

/-!
# Names of uploaded files

The name that the upload handler makes of the name a client sends, and the
search for a name that is still free in the upload directory.
-/

namespace LociTerm
namespace Upload

open Filepath

/-- The byte that no file name may contain. -/
def nul : UInt8 := 0

/-- The separator of other systems. -/
def backslash : UInt8 := byte '\\'

/-- `strings.TrimSuffix` -/
def trimSuffix (name suffix : Bytes) : Bytes :=
  if suffix.isSuffixOf name then name.take (name.length - suffix.length)
  else name

/-- `sanitizeUploadFilename`; the empty name is the one that is refused. -/
def sanitizeUploadFilename (raw : Bytes) : Bytes :=
  if nul ∈ raw then []
  else
    let name := base raw
    let name := name.map fun b => if b = backslash then byte '_' else b
    let name := name.dropWhile (· == dot)
    if name = [] ∨ name = [slash] then [] else name

/-- The alternative name `fmt.Sprintf("%s (%d)%s", base, i, ext)`. -/
def alternative (stem extension : Bytes) (i : Nat) : Bytes :=
  stem ++ ascii " (" ++ decimal i ++ ascii ")" ++ extension

/-- The loop of `uniqueUploadPath` over the alternative names, with the number
of alternatives left. -/
def probeFrom
    (missing : Bytes → Bool)
    (directory stem extension : Bytes) :
    Nat → Nat → Except String (Bytes × Bytes)
  | _, 0 => .error "could not find unique upload filename"
  | i, left + 1 =>
      let alt := alternative stem extension i
      let full := join directory alt
      if missing full then .ok (full, alt)
      else probeFrom missing directory stem extension (i + 1) left

/-- `uniqueUploadPath`, with `missing` for a path of which `os.Stat` reports
that it does not exist. -/
def uniqueUploadPath
    (missing : Bytes → Bool)
    (directory name : Bytes) : Except String (Bytes × Bytes) :=
  let candidate := join directory name
  if missing candidate then .ok (candidate, name)
  else
    let extension := ext name
    let stem := trimSuffix name extension
    probeFrom missing directory stem extension 1 9999

/-! ## The candidates -/

/-- The `k`th name that is tried for a file: its own, then the alternatives
from number one on. -/
def candidate (name : Bytes) : Nat → Bytes
  | 0 => name
  | i + 1 => alternative (trimSuffix name (ext name)) (ext name) (i + 1)

/-- All names that are tried for a file, in order. -/
def candidates (name : Bytes) : List Bytes :=
  (List.range 10000).map (candidate name)

theorem probeFrom_eq_find?
    (missing : Bytes → Bool)
    (directory stem extension : Bytes)
    (i left : Nat) :
    probeFrom missing directory stem extension i left =
      match ((List.range' i left).map (alternative stem extension)).find?
          (fun alt => missing (join directory alt)) with
      | some alt => .ok (join directory alt, alt)
      | none => .error "could not find unique upload filename" := by
  induction left generalizing i with
  | zero => rfl
  | succ left inductionHypothesis =>
      rw [probeFrom, List.range'_succ, List.map_cons, List.find?_cons]
      cases free : missing (join directory (alternative stem extension i)) with
      | true => simp
      | false => simpa using inductionHypothesis (i + 1)

/-- The search takes the first candidate that is missing. -/
theorem uniqueUploadPath_eq_find?
    (missing : Bytes → Bool)
    (directory name : Bytes) :
    uniqueUploadPath missing directory name =
      match (candidates name).find?
          (fun alt => missing (join directory alt)) with
      | some alt => .ok (join directory alt, alt)
      | none => .error "could not find unique upload filename" := by
  have order :
      candidates name =
        name :: (List.range' 1 9999).map
          (alternative (trimSuffix name (ext name)) (ext name)) := by
    unfold candidates
    rw [show (10000 : Nat) = 9999 + 1 from rfl, List.range_succ_eq_map,
      List.map_cons, List.map_map, List.range'_eq_map_range, List.map_map]
    refine congrArg (name :: ·) (List.map_congr_left fun i _ => ?_)
    simp [candidate, Nat.add_comm]
  rw [order, List.find?_cons, uniqueUploadPath]
  cases free : missing (join directory name) with
  | true => simp
  | false =>
      simpa using probeFrom_eq_find? missing directory
        (trimSuffix name (ext name)) (ext name) 1 9999

/-! ## Extensions -/

theorem extFrom_suffix (before after : Bytes) :
    extFrom before after <:+ before.reverse ++ after := by
  induction before generalizing after with
  | nil => exact List.nil_suffix
  | cons b rest inductionHypothesis =>
      unfold extFrom
      split
      · exact List.nil_suffix
      · split
        · exact ⟨rest.reverse, by simp⟩
        · simpa using inductionHypothesis (b :: after)

/-- An extension is empty or starts with a dot. -/
theorem extFrom_head (before after : Bytes) :
    extFrom before after = [] ∨
      ∃ rest, extFrom before after = dot :: rest := by
  induction before generalizing after with
  | nil => exact .inl rfl
  | cons b before inductionHypothesis =>
      unfold extFrom
      split
      · exact .inl rfl
      · split
        · rename_i here
          exact .inr ⟨after, by rw [here]⟩
        · exact inductionHypothesis (b :: after)

/-- A name is its stem with its extension. -/
theorem trimSuffix_append_ext (name : Bytes) :
    trimSuffix name (ext name) ++ ext name = name := by
  have suffix : ext name <:+ name := by
    simpa [ext] using extFrom_suffix name.reverse []
  obtain ⟨stem, shape⟩ := suffix
  rw [trimSuffix, if_pos (List.isSuffixOf_iff_suffix.mpr ⟨stem, shape⟩)]
  conv_rhs => rw [← shape]
  congr 1
  have length : name.length - (ext name).length = stem.length := by
    rw [← congrArg List.length shape, List.length_append]
    omega
  rw [length]
  conv_lhs => rw [← shape]
  exact List.take_left

/-! ## Usable names -/

/-- A name under which the handler may store a file. -/
structure Usable (name : Bytes) : Prop where
  nonempty : name ≠ []
  not_hidden : name.head? ≠ some dot
  no_slash : slash ∉ name
  no_backslash : backslash ∉ name
  no_nul : nul ∉ name

theorem Usable.plain {name : Bytes} (usable : Usable name) : Plain name where
  nonempty := usable.nonempty
  not_dot same := usable.not_hidden (by simp [same])
  not_dotDot same := usable.not_hidden (by simp [same, dotDot])
  no_slash := usable.no_slash

/-- A name that a usable name is replaced by is its stem with a number and
its extension. -/
theorem stem_ne_nil
    {name : Bytes}
    (usable : Usable name) :
    ∃ b rest, trimSuffix name (ext name) = b :: rest ∧ b ≠ dot := by
  have whole := trimSuffix_append_ext name
  cases stem : trimSuffix name (ext name) with
  | nil =>
      rw [stem, List.nil_append] at whole
      rcases extFrom_head name.reverse [] with none | ⟨rest, hidden⟩
      · exact absurd (whole.symm.trans none) usable.nonempty
      · have shape : name = dot :: rest := whole.symm.trans hidden
        exact absurd (by rw [shape]; rfl) usable.not_hidden
  | cons b rest =>
      refine ⟨b, rest, rfl, fun same => usable.not_hidden ?_⟩
      rw [← whole, stem, same]
      rfl

/-- The bytes of a candidate are those of the name and of its number. -/
theorem mem_candidate
    {name : Bytes}
    {k : Nat}
    {b : UInt8}
    (member : b ∈ candidate name k) :
    b ∈ name ∨ b ∈ ascii " ()" ∨ 48 ≤ b.toNat ∧ b.toNat ≤ 57 := by
  cases k with
  | zero => exact .inl member
  | succ i =>
      rw [← trimSuffix_append_ext name]
      simp only [candidate, alternative, List.mem_append] at member ⊢
      rcases member with (((stem | opening) | digit) | closing) | extension
      · exact .inl (.inl stem)
      · exact .inr (.inl (by revert opening; exact List.mem_append_left [41]))
      · exact .inr (.inr (digit_of_mem_decimal digit))
      · exact .inr (.inl (List.mem_append_right [32, 40] closing))
      · exact .inl (.inr extension)

/-- Every candidate for a usable name is usable. -/
theorem Usable.candidate
    {name : Bytes}
    (usable : Usable name)
    (k : Nat) :
    Usable (candidate name k) := by
  have absent :
      ∀ b : UInt8, b ∉ name → b ∉ ascii " ()" → (b.toNat < 48 ∨ 57 < b.toNat) →
        b ∉ Upload.candidate name k := by
    intro b unnamed other notDigit member
    rcases mem_candidate member with named | suffix | digit
    · exact unnamed named
    · exact other suffix
    · omega
  have first :
      ∃ b rest, Upload.candidate name k = b :: rest ∧ b ≠ dot := by
    cases k with
    | zero =>
        cases name with
        | nil => exact absurd rfl usable.nonempty
        | cons b rest =>
            exact ⟨b, rest, rfl, fun same => usable.not_hidden (by simp [same])⟩
    | succ i =>
        obtain ⟨b, rest, stem, visible⟩ := stem_ne_nil usable
        refine ⟨b, rest ++ (ascii " (" ++ decimal (i + 1) ++ ascii ")" ++ ext name),
          ?_, visible⟩
        simp [Upload.candidate, alternative, stem]
  obtain ⟨b, rest, shape, visible⟩ := first
  exact
    { nonempty := by simp [shape]
      not_hidden := by simp [shape, visible]
      no_slash := absent _ usable.no_slash (by decide) (by decide)
      no_backslash := absent _ usable.no_backslash (by decide) (by decide)
      no_nul := absent _ usable.no_nul (by decide) (by decide) }

/-- The candidates of one name differ. -/
theorem candidate_injective (name : Bytes) :
    Function.Injective (candidate name) := by
  have longer :
      ∀ i, (candidate name 0).length < (candidate name (i + 1)).length := by
    intro i
    have whole := congrArg List.length (trimSuffix_append_ext name)
    simp only [List.length_append] at whole
    simp only [candidate, alternative, List.length_append]
    have opening : (ascii " (").length = 2 := rfl
    omega
  intro i j same
  cases i with
  | zero =>
      cases j with
      | zero => rfl
      | succ j =>
          have shorter := longer j
          rw [same] at shorter
          exact absurd shorter (Nat.lt_irrefl _)
  | succ i =>
      cases j with
      | zero =>
          have shorter := longer i
          rw [same] at shorter
          exact absurd shorter (Nat.lt_irrefl _)
      | succ j =>
          simp only [candidate, alternative, List.append_cancel_right_eq,
            List.append_cancel_left_eq] at same
          exact decimal_injective same

theorem nodup_candidates (name : Bytes) : (candidates name).Nodup :=
  List.Nodup.map (candidate_injective name) List.nodup_range

/-! ## Sanitised names -/

theorem mem_base {path : Bytes} {b : UInt8} (member : b ∈ base path) :
    (b ∈ path ∨ b = dot ∨ b = slash) ∧ (b = slash → base path = [slash]) := by
  unfold base at member ⊢
  split at member
  · rename_i nothing
    simp only [List.mem_singleton] at member
    rw [if_pos nothing]
    exact ⟨.inr (.inl member), fun same => absurd (member.symm.trans same) (by decide)⟩
  · rename_i something
    rw [if_neg something]
    dsimp only at member ⊢
    split at member
    · rename_i none
      simp only [List.mem_singleton] at member
      rw [if_pos none]
      exact ⟨.inr (.inr member), fun _ => rfl⟩
    · rename_i some
      have kept := List.mem_rtakeWhile_imp member
      refine ⟨.inl ?_, fun same => absurd kept (by simp [same])⟩
      exact (List.rdropWhile_prefix _ _).subset
        ((List.rtakeWhile_suffix _ _).subset member)

/-- What the handler makes of a name that a client sends is refused or usable. -/
theorem usable_sanitizeUploadFilename
    {raw : Bytes}
    (accepted : sanitizeUploadFilename raw ≠ []) :
    Usable (sanitizeUploadFilename raw) := by
  unfold sanitizeUploadFilename at accepted ⊢
  split at accepted
  · exact absurd rfl accepted
  · rename_i clear
    rw [if_neg clear]
    dsimp only at accepted ⊢
    split at accepted
    · exact absurd rfl accepted
    · rename_i kept
      rw [if_neg kept]
      rw [not_or] at kept
      have origin :
          ∀ b ∈ ((base raw).map fun b => if b = backslash then byte '_' else b).dropWhile
              (· == dot),
            b = byte '_' ∨ b ∈ base raw ∧ b ≠ backslash := by
        intro b member
        obtain ⟨c, source, rfl⟩ :=
          List.mem_map.mp ((List.dropWhile_sublist _).subset member)
        by_cases separator : c = backslash
        · simp [separator]
        · exact .inr (by simp [separator, source])
      refine
        { nonempty := kept.1
          not_hidden := ?_
          no_slash := ?_
          no_backslash := ?_
          no_nul := ?_ }
      · intro hidden
        have stops := List.head?_dropWhile_not (· == dot)
          ((base raw).map fun b => if b = backslash then byte '_' else b)
        rw [hidden] at stops
        simp at stops
      · intro member
        rcases origin _ member with other | ⟨source, -⟩
        · exact absurd other (by decide)
        · refine kept.2 ?_
          rw [(mem_base source).2 rfl]
          decide
      · intro member
        rcases origin _ member with other | ⟨-, different⟩
        · exact absurd other (by decide)
        · exact different rfl
      · intro member
        rcases origin _ member with other | ⟨source, -⟩
        · exact absurd other (by decide)
        · rcases (mem_base source).1 with inRaw | same | same
          · exact clear inRaw
          · exact absurd same (by decide)
          · exact absurd same (by decide)

/-- A usable name stays as it is. -/
theorem sanitizeUploadFilename_of_usable
    {name : Bytes}
    (usable : Usable name) :
    sanitizeUploadFilename name = name := by
  have clear : (name.map fun b => if b = backslash then byte '_' else b) = name := by
    calc
      (name.map fun b => if b = backslash then byte '_' else b) = name.map id := by
        refine List.map_congr_left fun b member => if_neg fun same => ?_
        exact usable.no_backslash (same ▸ member)
      _ = name := List.map_id name
  have visible : name.dropWhile (· == dot) = name := by
    cases name with
    | nil => rfl
    | cons b rest =>
        have first : b ≠ dot := fun same => usable.not_hidden (by simp [same])
        exact List.dropWhile_cons_of_neg (by simp [first])
  have kept : ¬ (name = [] ∨ name = [slash]) := by
    rintro (nothing | root)
    · exact usable.nonempty nothing
    · exact usable.no_slash (by simp [root])
  simp only [sanitizeUploadFilename, if_neg usable.no_nul,
    base_of_plain usable.plain, clear, visible,
    if_neg kept]

/-! ## The name and the path of a stored file -/

/-- What the search for a free name promises: the first candidate that is no
entry of the directory, as a child of the directory that is not hidden, or an
error when every candidate is an entry. -/
def FirstFree
    (directory : Bytes)
    (entries : Set Bytes)
    (name : Bytes) : Except String (Bytes × Bytes) → Prop
  | .ok (path, chosen) =>
      (∃ earlier later, candidates name = earlier ++ chosen :: later ∧
        (∀ other ∈ earlier, other ∈ entries) ∧ chosen ∉ entries) ∧
      path = join directory chosen ∧
      dir path = clean directory ∧ base path = chosen ∧
      chosen.head? ≠ some dot
  | .error _ => ∀ other ∈ candidates name, other ∈ entries

theorem firstFree_uniqueUploadPath
    {directory name : Bytes}
    {entries : Set Bytes}
    {missing : Bytes → Bool}
    (usable : Usable name)
    (stat : ∀ other, Plain other → nul ∉ other →
      (missing (join directory other) = true ↔ other ∉ entries)) :
    FirstFree directory entries name
      (uniqueUploadPath missing directory name) := by
  have reported :
      ∀ other ∈ candidates name,
        (missing (join directory other) = true ↔ other ∉ entries) := by
    intro other member
    obtain ⟨k, -, rfl⟩ := List.mem_map.mp member
    have sound := usable.candidate k
    exact stat _ sound.plain sound.no_nul
  rw [uniqueUploadPath_eq_find?]
  cases found : (candidates name).find? fun alt => missing (join directory alt) with
  | none =>
      intro other member
      rw [List.find?_eq_none] at found
      by_contra absent
      exact found other member ((reported other member).mpr absent)
  | some chosen =>
      obtain ⟨free, earlier, later, order, taken⟩ :=
        List.find?_eq_some_iff_append.mp found
      have member : chosen ∈ candidates name := by rw [order]; simp
      have sound : Usable chosen := by
        obtain ⟨k, -, rfl⟩ := List.mem_map.mp member
        exact usable.candidate k
      refine ⟨⟨earlier, later, order, ?_, (reported chosen member).mp free⟩,
        rfl, dir_join sound.plain directory, base_join sound.plain directory,
        sound.not_hidden⟩
      intro other before
      by_contra absent
      have free := (reported other (by rw [order]; simp [before])).mpr absent
      have refused := taken other before
      simp [free] at refused

/-- A name the handler accepts is confined to the upload directory, and the
file is stored under the first candidate that is free there. -/
theorem sanitized_and_firstFree
    {raw directory : Bytes}
    {entries : Set Bytes}
    {missing : Bytes → Bool}
    (accepted : sanitizeUploadFilename raw ≠ [])
    (stat : ∀ other, Plain other → nul ∉ other →
      (missing (join directory other) = true ↔ other ∉ entries)) :
    Usable (sanitizeUploadFilename raw) ∧
      sanitizeUploadFilename (sanitizeUploadFilename raw) =
        sanitizeUploadFilename raw ∧
      (candidates (sanitizeUploadFilename raw)).Nodup ∧
      FirstFree directory entries (sanitizeUploadFilename raw)
        (uniqueUploadPath missing directory (sanitizeUploadFilename raw)) := by
  have usable := usable_sanitizeUploadFilename accepted
  exact ⟨usable, sanitizeUploadFilename_of_usable usable, nodup_candidates _,
    firstFree_uniqueUploadPath usable stat⟩

/-- A traversal to a name that exists. -/
theorem sanitized_and_firstFree_of_taken :
    Usable (sanitizeUploadFilename (ascii "../../a.txt")) ∧
      sanitizeUploadFilename (sanitizeUploadFilename (ascii "../../a.txt")) =
        sanitizeUploadFilename (ascii "../../a.txt") ∧
      (candidates (sanitizeUploadFilename (ascii "../../a.txt"))).Nodup ∧
      FirstFree (ascii "/srv/up") {ascii "a.txt"}
        (sanitizeUploadFilename (ascii "../../a.txt"))
        (uniqueUploadPath (fun path => path != ascii "/srv/up/a.txt")
          (ascii "/srv/up") (sanitizeUploadFilename (ascii "../../a.txt"))) := by
  have path : join (ascii "/srv/up") (ascii "a.txt") = ascii "/srv/up/a.txt" := by
    decide
  have named : Plain (ascii "a.txt") :=
    ⟨by decide, by decide, by decide, by decide⟩
  apply sanitized_and_firstFree (by decide)
  intro other plain _
  rw [bne_iff_ne, Set.mem_singleton_iff, ← path]
  exact ⟨fun differ same => differ (by rw [same]),
    fun differ same => differ (join_injective plain named same)⟩

end Upload
end LociTerm
