import LociTerm.Api.Upload

/-!
# What uploads do to the files

Every file that is not an initial one belongs to the one request that has
created it, and only that request writes to it or removes it.  So no upload
destroys data, whatever the order of the steps and whichever of them fail.
-/

namespace LociTerm
namespace Upload

open Filepath Client

/-! ## What one step does to the files -/

/-- A step leaves the files as they are, or creates a file, writes to the file
of its request, or removes it. -/
inductive Effect
    (directory : Bytes)
    (files : Table Bytes Entry)
    (stage : Stage) : Table Bytes Entry → Stage → Prop
  | keeps (next : Stage) (same : next.path? directory = stage.path? directory) :
      Effect directory files stage files next
  | creates
      (path : Bytes)
      (next : Stage)
      (free : files.get? path = none)
      (before : stage.path? directory = none)
      (after : next.path? directory = some path) :
      Effect directory files stage (files.set path (.file [])) next
  | writes
      (path bytes : Bytes)
      (next : Stage)
      (before : stage.path? directory = some path)
      (after : next.path? directory = some path) :
      Effect directory files stage (files.set path (.file bytes)) next
  | removes
      (path : Bytes)
      (next : Stage)
      (before : stage.path? directory = some path)
      (after : next.path? directory = none) :
      Effect directory files stage (files.erase path) next

theorem path?_receive (directory : Bytes) (request : Request) :
    (receive request).path? directory = none := by
  unfold receive
  split
  · rfl
  · rfl
  · split
    · rfl
    · rfl
    · rfl
    · dsimp only
      split <;> rfl

theorem effect_of_moves
    {directory : Bytes}
    {files others : Table Bytes Entry}
    {request : Request}
    {stage next : Stage}
    {action : Action}
    (moves : Moves directory files request stage action others next) :
    Effect directory files stage others next := by
  cases moves with
  | receive => exact .keeps _ (path?_receive directory request)
  | openFile file k free => exact .creates _ _ free rfl rfl
  | write file k written count positive fits => exact .writes _ _ _ rfl rfl
  | remove file k written failure =>
      refine .removes _ _ rfl ?_
      cases failure <;> rfl
  | _ => exact .keeps _ rfl

variable {start state next : Uploads} {labels : List (Nat × Action)}

/-- A step of a request changes its own stage and the files. -/
theorem step_cases
    {id : Nat}
    {action : Action}
    (stepped : step state (id, action) = some next) :
    ∃ upload files stage, state.uploads.get? id = some upload ∧
      Moves state.directory state.files upload.request upload.stage action
        files stage ∧
      next =
        { state with
          files := files
          uploads := state.uploads.set id { upload with stage := stage } } := by
  obtain ⟨upload, found, rest⟩ := Option.bind_eq_some_iff.mp stepped
  obtain ⟨moved, advanced, rfl⟩ := Option.map_eq_some_iff.mp rest
  exact ⟨upload, moved.1, moved.2, found, moves_of_advance advanced, rfl⟩

/-! ## Ownership -/

/-- The request has created the file at this path. -/
def Uploads.Owns (state : Uploads) (id : Nat) (path : Bytes) : Prop :=
  ∃ upload, state.uploads.get? id = some upload ∧
    upload.stage.path? state.directory = some path

/-- The initial files are kept, and every other file has one owner. -/
structure Owned (start state : Uploads) : Prop where
  directory : state.directory = start.directory
  kept : ∀ path entry, start.files.get? path = some entry →
    state.files.get? path = some entry
  foreign : ∀ id path, state.Owns id path → start.files.get? path = none
  distinct : ∀ id other path, state.Owns id path → state.Owns other path →
    id = other
  present : ∀ id path, state.Owns id path → state.files.get? path ≠ none
  owned : ∀ path, state.files.get? path ≠ none →
    start.files.get? path = none → ∃ id, state.Owns id path

theorem owned_start (fresh : start.Fresh) : Owned start start where
  directory := rfl
  kept _ _ found := found
  foreign id path := by
    rintro ⟨upload, found, created⟩
    rw [fresh id upload found] at created
    cases created
  distinct id other path := by
    rintro ⟨upload, found, created⟩
    rw [fresh id upload found] at created
    cases created
  present id path := by
    rintro ⟨upload, found, created⟩
    rw [fresh id upload found] at created
    cases created
  owned path found absent := absurd absent found

theorem owns_step
    {id other : Nat}
    {path : Bytes}
    {upload : Attempt}
    {files : Table Bytes Entry}
    {stage : Stage} :
    Uploads.Owns
        { state with
          files := files
          uploads := state.uploads.set id { upload with stage := stage } }
        other path ↔
      if id = other then stage.path? state.directory = some path
      else state.Owns other path := by
  unfold Uploads.Owns
  simp only [Table.get?_set]
  split <;> simp

/-- A step that creates and removes nothing keeps the owners. -/
theorem Owned.of_same_owners
    (owned : Owned start state)
    (directory : next.directory = state.directory)
    (owners : ∀ id path, next.Owns id path ↔ state.Owns id path)
    (names : ∀ path, next.files.get? path = none ↔ state.files.get? path = none)
    (initial : ∀ path, start.files.get? path ≠ none →
      next.files.get? path = state.files.get? path) :
    Owned start next where
  directory := directory.trans owned.directory
  kept path entry found := by
    rw [initial path (by simp [found])]
    exact owned.kept path entry found
  foreign id path held := owned.foreign id path ((owners id path).mp held)
  distinct id other path left right :=
    owned.distinct id other path ((owners id path).mp left)
      ((owners other path).mp right)
  present id path held := by
    rw [Ne, names]
    exact owned.present id path ((owners id path).mp held)
  owned path here absent := by
    rw [Ne, names] at here
    exact (owned.owned path here absent).imp fun id => (owners id path).mpr

/-- A path that is free was free in the beginning. -/
theorem Owned.initially_free
    (owned : Owned start state)
    {path : Bytes}
    (free : state.files.get? path = none) :
    start.files.get? path = none := by
  by_contra taken
  obtain ⟨entry, there⟩ := Option.ne_none_iff_exists'.mp taken
  exact absurd (free.symm.trans (owned.kept path entry there)) nofun

/-- A request without a file creates one at a free path. -/
theorem Owned.of_created
    {id : Nat}
    {created : Bytes}
    (owned : Owned start state)
    (free : state.files.get? created = none)
    (idle : ∀ path, ¬ state.Owns id path)
    (directory : next.directory = state.directory)
    (files : next.files = state.files.set created (.file []))
    (owners : ∀ other path, next.Owns other path ↔
      if id = other then path = created else state.Owns other path) :
    Owned start next where
  directory := directory.trans owned.directory
  kept path entry there := by
    have different : created ≠ path := by
      rintro rfl
      exact absurd ((owned.initially_free free).symm.trans there) nofun
    rw [files, Table.get?_set_of_ne _ _ different]
    exact owned.kept path entry there
  foreign other path held := by
    rw [owners] at held
    split at held
    · rw [held]
      exact owned.initially_free free
    · exact owned.foreign other path held
  distinct first second path left right := by
    have unowned : ∀ other, ¬ state.Owns other created := fun other held =>
      owned.present other created held free
    rw [owners] at left right
    split at left <;> split at right
    · next isFirst isSecond => exact isFirst.symm.trans isSecond
    · exact absurd (left ▸ right) (unowned second)
    · exact absurd (right ▸ left) (unowned first)
    · exact owned.distinct first second path left right
  present other path held := by
    rw [files, Table.get?_set]
    split
    · rintro ⟨⟩
    · next different =>
        rw [owners] at held
        split at held
        · exact absurd held.symm different
        · exact owned.present other path held
  owned path here absent := by
    rw [files, Table.get?_set] at here
    split at here
    · next same => exact ⟨id, (owners id path).mpr (by simp [same])⟩
    · obtain ⟨other, held⟩ := owned.owned path here absent
      have different : id ≠ other := by
        rintro rfl
        exact idle path held
      exact ⟨other, (owners other path).mpr (by rwa [if_neg different])⟩

/-- A request removes its file. -/
theorem Owned.of_removed
    {id : Nat}
    {removed : Bytes}
    (owned : Owned start state)
    (mine : ∀ path, state.Owns id path ↔ path = removed)
    (directory : next.directory = state.directory)
    (files : next.files = state.files.erase removed)
    (owners : ∀ other path, next.Owns other path ↔
      id ≠ other ∧ state.Owns other path) :
    Owned start next where
  directory := directory.trans owned.directory
  kept path entry there := by
    have different : removed ≠ path := by
      rintro rfl
      have foreign := owned.foreign id removed ((mine removed).mpr rfl)
      exact absurd (foreign.symm.trans there) nofun
    rw [files, Table.get?_erase_of_ne _ different]
    exact owned.kept path entry there
  foreign other path held :=
    owned.foreign other path ((owners other path).mp held).2
  distinct first second path left right :=
    owned.distinct first second path ((owners first path).mp left).2
      ((owners second path).mp right).2
  present other path held := by
    obtain ⟨actor, before⟩ := (owners other path).mp held
    have different : removed ≠ path := by
      rintro rfl
      exact actor (owned.distinct id other removed ((mine removed).mpr rfl)
        before)
    rw [files, Table.get?_erase_of_ne _ different]
    exact owned.present other path before
  owned path here absent := by
    rw [files, Table.get?_erase] at here
    split at here
    · exact absurd rfl here
    · next different =>
        obtain ⟨other, held⟩ := owned.owned path here absent
        have actor : id ≠ other := by
          rintro rfl
          exact different ((mine path).mp held).symm
        exact ⟨other, (owners other path).mpr ⟨actor, held⟩⟩

theorem owned_step
    {id : Nat}
    {action : Action}
    (owned : Owned start state)
    (stepped : step state (id, action) = some next) :
    Owned start next := by
  obtain ⟨upload, files, stage, found, moves, rfl⟩ := step_cases stepped
  have ownsIff : ∀ path, state.Owns id path ↔
      upload.stage.path? state.directory = some path := by
    intro path
    simp [Uploads.Owns, found]
  have sameOwners : stage.path? state.directory = upload.stage.path? state.directory →
      ∀ other path, Uploads.Owns
          { state with
            files := files
            uploads := state.uploads.set id { upload with stage := stage } }
          other path ↔ state.Owns other path := by
    intro same other path
    rw [owns_step, same]
    split
    · rename_i actor
      rw [← actor, ownsIff]
    · exact Iff.rfl
  have effect := effect_of_moves moves
  clear moves stepped
  cases effect with
  | keeps _ same =>
      exact owned.of_same_owners rfl (sameOwners same) (fun _ => Iff.rfl)
        fun _ _ => rfl
  | creates created _ free before after =>
      have idle : ∀ path, ¬ state.Owns id path := by
        intro path held
        rw [ownsIff, before] at held
        cases held
      refine owned.of_created free idle rfl rfl fun other path => ?_
      rw [owns_step, after, Option.some.injEq, @eq_comm _ created]
  | writes written bytes _ before after =>
      have held : state.Owns id written := (ownsIff written).mpr before
      refine owned.of_same_owners rfl (sameOwners (after.trans before.symm)) ?_ ?_
      · intro path
        rw [Table.get?_set]
        split
        · rename_i same
          subst same
          simp [owned.present id written held]
        · exact Iff.rfl
      · intro path there
        refine Table.get?_set_of_ne _ _ ?_
        rintro rfl
        exact there (owned.foreign id written held)
  | removes removed _ before after =>
      have mine : ∀ path, state.Owns id path ↔ path = removed := by
        intro path
        rw [ownsIff, before, Option.some.injEq, eq_comm]
      refine owned.of_removed mine rfl rfl fun other path => ?_
      rw [owns_step, after]
      split
      · next actor => simp [actor]
      · next actor => simp [actor]

/-- What the disk holds of an upload: the part of its content that is written
so far, and all of it once the answer is a success. -/
def Attempt.Faithful
    (directory : Bytes)
    (files : Table Bytes Entry)
    (upload : Attempt) : Prop :=
  match upload.stage with
  | .received => True
  | .accepted file | .probing file _ | .chosen file _ =>
      ∃ sent, upload.request.form = .parsed (some sent) ∧
        sent.content = file.content
  | .copying file k written | .removing file k written _ =>
      (∃ sent, upload.request.form = .parsed (some sent) ∧
        sent.content = file.content) ∧
        files.get? (file.path directory k) =
          some (.file (file.content.take written))
  | .answered response =>
      ∀ stored, response.body = .ok stored →
        ∃ sent, upload.request.form = .parsed (some sent) ∧
          files.get? stored.path = some (.file sent.content)

/-- Only the file of an upload matters for what the disk holds of it. -/
theorem Attempt.Faithful.congr
    {directory : Bytes}
    {files others : Table Bytes Entry}
    {upload : Attempt}
    (faithful : upload.Faithful directory files)
    (same : ∀ path, upload.stage.path? directory = some path →
      others.get? path = files.get? path) :
    upload.Faithful directory others := by
  obtain ⟨request, stage⟩ := upload
  cases stage with
  | received | accepted file | probing file k | chosen file k => exact faithful
  | copying file k written | removing file k written failure =>
      exact ⟨faithful.1, (same _ rfl).trans faithful.2⟩
  | answered response =>
      intro stored success
      obtain ⟨sent, parsed, holds⟩ := faithful stored success
      refine ⟨sent, parsed, (same stored.path ?_).trans holds⟩
      simp [Stage.path?, success]

/-- The disk holds what it should of every request. -/
def Uploads.Faithful (state : Uploads) : Prop :=
  ∀ id upload, state.uploads.get? id = some upload →
    upload.Faithful state.directory state.files

/-- The request has answered with an error. -/
def Attempt.Refused (upload : Attempt) : Prop :=
  ∃ status message, upload.stage = .answered ⟨status, .error message⟩

end Upload
end LociTerm
